import LayerAudit.Script.Verdict

/-! The two ways to parse a script. -/

namespace LayerAudit.Script

variable [Syntax]

/-- The tree of a script, if it is accepted. -/
def parse (dialect : Dialect) (tolerance : Tolerance) (text : String) : Except ParseError Cst :=
  match Syntax.read dialect text.toList with
  -- A text that is too deep has no tree to judge.
  | .tooDeep => .error (.tooDeep deepest)
  | .tree root =>
    match judge tolerance text.toList root with
    | .ok () => .ok root
    | .error e => .error e

/-- The tree of a script without any damage. -/
def parseStrict (text : String) : Except ParseError Cst := parse .typed .strict text

/-- The tree of a script in which markup may stand and some damage is passed over. -/
def parsePermissive (text : String) : Except ParseError Cst := parse .markup .permissive text

end LayerAudit.Script
