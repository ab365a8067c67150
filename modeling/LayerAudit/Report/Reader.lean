import LayerAudit.Report.Json

/-!
JSON texts read back. Between the parts of a text there may be white space. Only such values are read as reports hold: no
truth values, and of the numbers the whole ones from 0 on.
-/

namespace LayerAudit.Report.Json

/-! ### White space -/

/-- White space between the parts of a text. -/
def isGap (c : Char) : Bool := c == ' ' || c == '\n' || c == '\t' || c == '\r'

/-- The text behind white space. -/
def skipGap (s : List Char) : List Char := s.dropWhile isGap

/-! ### Texts -/

/-- The value of a hexadecimal digit, in either letter case. -/
def hexValue? (c : Char) : Option Nat :=
  if '0' ≤ c ∧ c ≤ '9' then some (c.toNat - 48)
  else if 'a' ≤ c ∧ c ≤ 'f' then some (c.toNat - 87)
  else if 'A' ≤ c ∧ c ≤ 'F' then some (c.toNat - 55)
  else none

/-- The number that four hexadecimal digits stand for, and what is behind them. -/
def hexNumber? : List Char → Option (Nat × List Char)
  | a :: b :: c :: d :: rest => do
    return (((16 * (← hexValue? a) + (← hexValue? b)) * 16 + (← hexValue? c)) * 16 + (← hexValue? d), rest)
  | _ => none

/-- The character for the code behind a backslash and a letter u. A character beyond the first plane has two codes, with
another backslash and another letter between them; neither of these codes stands alone. -/
def codedCharacter? (s : List Char) : Option (Char × List Char) := do
  let (first, rest) ← hexNumber? s
  -- Outside of the surrogates a code is a character. A low surrogate never comes first.
  if first < 0xD800 ∨ 0xDFFF < first then some (Char.ofNat first, rest)
  else if 0xDC00 ≤ first then none
  else
    match rest with
    | '\\' :: 'u' :: rest => do
      let (second, rest) ← hexNumber? rest
      -- A high and a low surrogate make up one character.
      if 0xDC00 ≤ second ∧ second ≤ 0xDFFF then
        some (Char.ofNat (0x10000 + (first - 0xD800) * 0x400 + (second - 0xDC00)), rest)
      else none
    | _ => none

/-- The character that an escape stands for, and what is behind it. -/
def unescape? : List Char → Option (Char × List Char)
  | '"' :: rest => some ('"', rest)
  | '\\' :: rest => some ('\\', rest)
  | '/' :: rest => some ('/', rest)
  | 'b' :: rest => some ('\x08', rest)
  | 'f' :: rest => some ('\x0C', rest)
  | 'n' :: rest => some ('\n', rest)
  | 'r' :: rest => some ('\r', rest)
  | 't' :: rest => some ('\t', rest)
  -- All other escapes are one letter.
  | 'u' :: rest => codedCharacter? rest
  | _ => none

/-- A character inside quotes, and what is behind it. Control characters have to be escaped. -/
def character? : List Char → Option (Char × List Char)
  | [] => none
  | c :: rest =>
    if c = '\\' then unescape? rest
    -- A quote ends the text, so it is no character of it.
    else if c = '"' ∨ c.toNat < 0x20 then none
    else some (c, rest)

/-- The text up to the closing quote, and what is behind that. Every character uses up some of the text. -/
def untilQuote? (s : List Char) : Option (List Char × List Char) :=
  match s with
  | '"' :: rest => some ([], rest)
  -- The cut in length holds for every character, and is asked for so that the recursion ends.
  | s =>
    match character? s with
    | some (c, rest) =>
      if _shorter : rest.length < s.length then
        (untilQuote? rest).map fun (inside, behind) => (c :: inside, behind)
      else none
    | none => none
termination_by s.length

/-! ### Numbers -/

/-- A character that goes on with a number. -/
def isNumberPart (c : Char) : Bool := c.isDigit || c == '.' || c == 'e' || c == 'E'

/-- A number without a fraction, and what is behind it. Only 0 itself begins with a 0. -/
def number? (s : List Char) : Option (Nat × List Char) :=
  let digits := s.takeWhile Char.isDigit
  let behind := s.dropWhile Char.isDigit
  if digits.isEmpty || (digits.head? == some '0' && digits != ['0']) || behind.head?.any isNumberPart then none
  else some (Nat.ofDigitChars 10 digits 0, behind)

/-! ### Values -/

section

variable {α : Type} (item? : List Char → Option (α × List Char)) (close : Char)

/-- Items with commas between them up to a closing mark, at least one. Every item uses up some of the text. -/
def items? (s : List Char) : Option (List α × List Char) :=
  -- At least one item: an empty group is seen by its caller.
  match item? s with
  | none => none
  | some (first, behind) =>
    match skipGap behind with
    | [] => none
    | c :: rest =>
      if c = close then some ([first], rest)
      -- Behind a comma one more item has to follow.
      else if c = ',' then
        if _shorter : rest.length < s.length then
          (items? rest).map fun (others, behind) => (first :: others, behind)
        else none
      else none
termination_by s.length

/-- The items between two marks, the first of which is passed already. -/
def group? (s : List Char) : Option (List α × List Char) :=
  match skipGap s with
  | [] => none
  | c :: rest => if c = close then some ([], rest) else items? item? close s

end

/-- A named value. -/
def field? (value? : List Char → Option (Json × List Char)) (s : List Char) :
    Option ((String × Json) × List Char) :=
  match skipGap s with
  -- The name stands in quotes, and a colon between it and its value.
  | '"' :: rest => do
    let (name, behind) ← untilQuote? rest
    match skipGap behind with
    | ':' :: rest => do
      let (value, behind) ← value? rest
      return ((String.ofList name, value), behind)
    | _ => none
  | _ => none

/-- A value with lists and records inside of each other up to some depth, and what is behind it. -/
def value? (nesting : Nat) (s : List Char) : Option (Json × List Char) :=
  match skipGap s with
  | 'n' :: 'u' :: 'l' :: 'l' :: rest => some (null, rest)
  | '"' :: rest => (untilQuote? rest).map fun (inside, behind) => (text (String.ofList inside), behind)
  | '[' :: rest =>
    -- Each list and each record uses up one level of nesting.
    match nesting with
    | 0 => none
    | nesting + 1 => (group? (value? nesting) ']' rest).map fun (items, behind) => (list items, behind)
  | '\x7b' :: rest =>
    match nesting with
    | 0 => none
    | nesting + 1 => (group? (field? (value? nesting)) '\x7d' rest).map fun (fields, behind) => (record fields, behind)
  -- What begins with none of these marks is a number or no value.
  | s => (number? s).map fun (n, behind) => (number n, behind)

/-- How deep lists and records may stand inside of each other. -/
def deepest : Nat := 127

/-- The value of a whole text. -/
def parse? (text : String) : Option Json :=
  match value? deepest text.toList with
  | some (value, behind) => if (skipGap behind).isEmpty then some value else none
  | none => none

end LayerAudit.Report.Json
