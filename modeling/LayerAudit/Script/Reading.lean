import LayerAudit.Script.Grammar.Levels
import LayerAudit.Text.Basic

/-! Reading a whole text as a script, with repairs that are known beforehand. -/

namespace LayerAudit.Script

/-- The grammar for whole scripts. It follows more nesting than any script may have. -/
def grammar : Grammar := Grammar.level 2000

/-- A stretch of a text that is passed over, with the number of nodes that are lost in it. -/
structure Patch where
  span : Span
  lost : Nat
  deriving DecidableEq, Repr, Inhabited

/-- The changes that make a damaged text readable. -/
structure Repairs where
  passed : List Patch := []
  /-- Marks that are assumed before the lexemes at some offsets. -/
  assumed : List (Nat × String) := []
  /-- Offsets of words that count as names only. -/
  bare : List Nat := []
  deriving DecidableEq, Repr, Inhabited

/-- What a parse of a text depends on. -/
def setting (dialect : Dialect) (repairs : Repairs) (text : List Char) : Setting :=
  { markup := dialect == .markup
    passed := repairs.passed.map Patch.span
    assumed := repairs.assumed
    bare := repairs.bare
    bound := text.length + 2 }

/-- The state at the start of a text. -/
def startOf (e : Setting) (text : List Char) : State :=
  let place : Place := ⟨text, 0⟩
  Parse.settle e place { last := place, next := place, ahead := .ending, assumed := e.assumed }

/-- The bytes of a script's root: all but the blanks at the start. -/
def rootSpan (text : List Char) : Span :=
  ⟨Text.byteSize (text.takeWhile Lexeme.isGap), Text.byteSize text⟩

/-- The root of a script with the given parts. -/
def rootOf (text : List Char) (parts : List Cst) : Cst := .mk { role := .program, span := rootSpan text } parts

/-- The outcome of reading a text with known repairs. -/
def readWith (dialect : Dialect) (repairs : Repairs) (text : List Char) : Outcome Unit :=
  let e := setting dialect repairs text
  Parse.script grammar e (startOf e text)

end LayerAudit.Script
