import LayerAudit.Script.Cursor
import LayerAudit.Text.Basic
import LayerAudit.Text.Blank

/-! Whether a script is accepted: without any damage, or with damage to no more than half of it. -/

namespace LayerAudit.Script

/-- The deepest nesting that a script may have. -/
def deepest : Nat := 512

/-- How much damage a script may carry. -/
inductive Tolerance
  | strict
  /-- Damage may cover up to half of the bytes. -/
  | permissive
  deriving DecidableEq, Repr, Inhabited

/-- Why a script is refused. -/
inductive ParseError
  | tooDeep (limit : Nat)
  /-- Damage at a line and a byte of that line, both counted from one. -/
  | damaged (place : Option (Nat × Nat))
  /-- No construct at all was recognized. -/
  | unrecoverable
  | mostlyDamaged (damaged significant : Nat)
  deriving DecidableEq, Repr, Inhabited

namespace ParseError

/-- The text of a refusal. -/
def message : ParseError → String
  | tooDeep limit => s!"nesting deeper than {limit} levels"
  | damaged (some (line, column)) => s!"syntax error at line {line}, column {column}"
  | damaged none => "syntax error"
  | unrecoverable => "unrecoverable syntax"
  | mostlyDamaged covered significant => s!"syntax errors cover {covered} of {significant} bytes"

end ParseError

/-- The line and the byte of that line at an offset, both counted from one. -/
def positionOf (offset : Nat) : List Char → Nat → Nat → Nat → Nat × Nat
  | [], _, line, column => (line, column)
  | c :: rest, at_, line, column =>
    -- An offset inside of a character counts as the place of the next one.
    if offset ≤ at_ then (line, column)
    -- A line end belongs to the line that it ends.
    else if c == '\n' then positionOf offset rest (at_ + 1) (line + 1) 1
    else positionOf offset rest (at_ + c.utf8Size) line (column + c.utf8Size)

/-- The verdict on the tree of a text. -/
def judge (tolerance : Tolerance) (text : List Char) (root : Cst) : Except ParseError Unit :=
  -- The depth is asked for first, as the other walks go as deep as the tree.
  if Cursor.deeperThan deepest (Cursor.atRoot root) then .error (.tooDeep deepest)
  else
    match tolerance with
    | .strict =>
      -- The place is told of the first damage only.
      if root.hasDamage then
        let first := Cursor.firstDamage? (Cursor.atRoot root)
        .error (.damaged (first.map fun damage => positionOf damage.span.start text 0 1 1))
      else .ok ()
    | .permissive =>
      if root.role == .error then .error .unrecoverable
      else
        -- White space around the script is not counted, but that inside of it is.
        let significant := Text.byteSize (Text.trim text)
        let damaged := Cursor.damagedBytes 0 (Cursor.atRoot root)
        -- An empty script has no damage to speak of.
        if significant > 0 && damaged * 2 > significant then .error (.mostlyDamaged damaged significant)
        else .ok ()

end LayerAudit.Script
