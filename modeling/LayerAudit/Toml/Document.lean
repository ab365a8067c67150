import LayerAudit.Toml.Scalar
import LayerAudit.Toml.Table

/-! Reading a configuration document: lines with keys and values, under headers that open tables. -/

namespace LayerAudit.Toml

/-- Work on the front of a text, with the text behind it as a part of the result. -/
abbrev Reader (α : Type) := List Char → Option (α × List Char)

/-- A value with its key and the equals sign between them. -/
def keyed? (value? : Reader Value) : Reader (List String × Value) := fun s => do
  let (path, behind) ← keys? (s.length + 1) s
  match behind with
  | '=' :: rest => do
    let (value, behind) ← value? (skipGap rest)
    return ((path, value), behind)
  | _ => none

/-- Items up to a closing mark, with commas between them; one more comma may stand behind the last. Every turn uses up
at least one character. -/
def items? {α : Type} (item? : Reader α) (closing : Char) : Nat → Reader (List α)
  | 0, _ => none
  -- The turns are used up only if the text is, as every item takes a character at least.
  | turns + 1, s => do
    let s ← skipLines? false s
    -- The list may be empty, or there was a comma behind the last item.
    if s.head? == some closing then return ([], s.drop 1)
    else
      let (first, behind) ← item? s
      let behind ← skipLines? false behind
      match behind with
      | [] => none
      | c :: rest =>
        if c == closing then return ([first], rest)
        else if c == ',' then do
          let (others, behind) ← items? item? closing turns rest
          return (first :: others, behind)
        else none

/-- A value whose lists and tables are nested at most so deep. -/
def valueAt? : Nat → Reader Value
  | depth, s =>
    match s with
    -- The mark in front tells texts, lists and tables from each other, and all other values are words.
    | '"' :: _ | '\'' :: _ => (text? s).map fun (text, behind) => (.text text, behind)
    | '[' :: rest =>
      match depth with
      -- A value that is nested deeper than allowed is refused, as the stack would run out.
      | 0 => none
      | depth + 1 => (items? (valueAt? depth) ']' (rest.length + 1) rest).map fun (elements, behind) =>
        (.list elements, behind)
    | '\x7b' :: rest =>
      match depth with
      | 0 => none
      | depth + 1 => do
        let (entries, behind) ← items? (keyed? (valueAt? depth)) '\x7d' (rest.length + 1) rest
        -- The values of a table in one line are put together like those under a header.
        return (.table (closeAll (← putValues entries [])), behind)
    | s =>
      let word := word s
      (ofWord? word).map fun value => (value, s.drop word.length)

/-- The deepest nesting of lists and tables in a value. -/
def deepestValue : Nat := 80

/-- The path of a header with so many brackets on each side. -/
def header? (brackets : List Char) : Reader (List String) := fun s => do
  let (path, behind) ← keys? (s.length + 1) s
  if brackets.isPrefixOf behind then return (path, behind.drop brackets.length) else none

/-- The parts of a document, where some values of the part at hand are read already, last first. Every turn uses up at
least one character. -/
def sections? : Nat → Section → List Char → Option (List Section)
  | 0, _, _ => none
  | turns + 1, current, s => do
    let finished : Section := { current with entries := current.entries.reverse }
    match ← skipLines? false s with
    | [] => return [finished]
    -- Two brackets open one more table of a list; they are looked for before the single bracket that they begin with.
    | '[' :: '[' :: rest => do
      let (path, behind) ← header? [']', ']'] rest
      return finished :: (← sections? turns ⟨true, path, []⟩ (← finishLine? behind))
    | '[' :: rest => do
      let (path, behind) ← header? [']'] rest
      return finished :: (← sections? turns ⟨false, path, []⟩ (← finishLine? behind))
    -- A line with a value belongs to the part at hand.
    | s => do
      let (entry, behind) ← keyed? (valueAt? deepestValue) s
      sections? turns { current with entries := entry :: current.entries } (← finishLine? behind)

/-- The text without the mark for its byte order. -/
def dropOrderMark : List Char → List Char
  | '\uFEFF' :: rest => rest
  | s => s

/-- The table that a document describes. -/
def ofText? (text : String) : Option (List (String × Value)) := do
  let s := dropOrderMark text.toList
  let parts ← sections? (s.length + 1) ⟨false, [], []⟩ s
  return closeAll (← parts.foldlM addSection [])

/-- The syntax with these parts. -/
instance : Syntax := ⟨ofText?⟩

end LayerAudit.Toml
