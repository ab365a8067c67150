import LayerAudit.Severity
import LayerAudit.Graph.Node

/-! Findings of a run. A finding never stops the run that makes it. -/

namespace LayerAudit

/-- What a finding is about. -/
inductive ViolationKind
  | placement | dependency | parsing | reading
  deriving DecidableEq, Repr, Inhabited

namespace ViolationKind

/-- Every kind of finding, in the order of the summary. -/
def all : List ViolationKind := [placement, dependency, parsing, reading]

/-- The written name of a kind. -/
def name : ViolationKind → String
  | placement => "PLACEMENT_VIOLATION"
  | dependency => "DEPENDENCY_VIOLATION"
  | parsing => "PARSING_ERROR"
  | reading => "READ_ERROR"

/-- The kind with a written name. -/
def ofName? (text : String) : Option ViolationKind := all.find? (·.name == text)

/-- The key of a kind in the table of severities. -/
def key : ViolationKind → String
  | placement => "placement"
  | dependency => "dependency"
  | parsing => "parsing"
  | reading => "read"

/-- The severity of a kind that the table of severities does not mention. -/
def usualSeverity : ViolationKind → Severity
  | placement | parsing => .warning
  | dependency | reading => .error

end ViolationKind

/-- A finding about a file, or about an edge from it. -/
structure Violation where
  kind : ViolationKind
  severity : Severity
  file : String
  edge : Option Edge := none
  message : String
  suggestion : Option String := none
  deriving DecidableEq, Repr, Inhabited

end LayerAudit
