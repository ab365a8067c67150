import LayerAudit.Text.CaseMap

/-! How grave a finding is. The three grades are ordered, and a grade is read from its name in any letter case. -/

namespace LayerAudit

/-- The grade of a finding. -/
inductive Severity
  | info | warning | error
  deriving DecidableEq, Repr, Inhabited

namespace Severity

/-- Every grade, from the mildest. -/
def all : List Severity := [info, warning, error]

/-- The written name of a grade. -/
def name : Severity → String
  | info => "info"
  | warning => "warning"
  | error => "error"

/-- The grade with exactly this written name. -/
def ofName? (text : String) : Option Severity := all.find? (·.name == text)

/-- The height of a grade above the mildest one. -/
def rank : Severity → Nat
  | info => 0
  | warning => 1
  | error => 2

/-- The grade that a text asks for: a name in any letter case, where the short form "warn" counts too. -/
def ofText? (text : String) : Option Severity :=
  let small := String.ofList (Text.lowerAll text.toList)
  if small = "warn" then some warning else ofName? small

end Severity

end LayerAudit
