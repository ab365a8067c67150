import LayerAudit.Toml.Quoted
import LayerAudit.Toml.Value

/-! Values that are written as one word: truth values, numbers and points in time. -/

namespace LayerAudit.Toml

/-! ### Numbers -/

/-- Digits with single low lines between them, without the low lines. -/
def digits? (isDigit : Char → Bool) (s : List Char) : Option (List Char) :=
  let digits := s.filter (· != '_')
  -- No low line may stand at an end, or beside another one.
  let isEdge (c : Option Char) : Bool := c == some '_' || c.isNone
  if digits.all isDigit && !isEdge s.head? && !isEdge s.getLast? &&
      (s.zip (s.drop 1)).all (fun (a, b) => !(a == '_' && b == '_')) then
    some digits
  else none

/-- The value of digits in a base. -/
def valueOf (base : Nat) (digits : List Char) : Nat :=
  digits.foldl (fun value c =>
    base * value + (if c.isDigit then c.toNat - '0'.toNat else c.toLower.toNat - 'a'.toNat + 10)) 0

/-- A hexadecimal digit. -/
def isHexDigit (c : Char) : Bool := c.isDigit || ('a' ≤ c.toLower && c.toLower ≤ 'f')

/-- A number without sign in some base, or decimal without a needless zero at its start. -/
def natural? : List Char → Option Nat
  | '0' :: 'x' :: s => (digits? isHexDigit s).map (valueOf 16)
  | '0' :: 'o' :: s => (digits? (fun c => '0' ≤ c && c ≤ '7') s).map (valueOf 8)
  | '0' :: 'b' :: s => (digits? (fun c => c == '0' || c == '1') s).map (valueOf 2)
  | s => (digits? Char.isDigit s).bind fun digits =>
    -- A decimal number begins with a zero only if it is zero.
    if digits.head? == some '0' && 1 < digits.length then none else some (valueOf 10 digits)

/-- A whole number. Only decimal numbers have a sign. -/
def integer? : List Char → Option Int
  | '+' :: s => if s.all (fun c => c.isDigit || c == '_') then (natural? s).map Int.ofNat else none
  | '-' :: s => if s.all (fun c => c.isDigit || c == '_') then (natural? s).map fun n => -Int.ofNat n else none
  | s => (natural? s).map Int.ofNat

/-- A word without a sign at its start. -/
def unsigned : List Char → List Char
  | '+' :: s => s
  | '-' :: s => s
  | s => s

/-- A number with a fraction, an exponent or both, or one that is no finite number. -/
def isFraction (word : List Char) : Bool :=
  let s := unsigned word
  let whole := s.takeWhile fun c => c.isDigit || c == '_'
  -- The part in front of the dot is a number of its own.
  let isWhole := (natural? whole).isSome
  let rest := s.drop whole.length
  let isExponent (s : List Char) : Bool :=
    match s with
    | [] => true
    | e :: power => (e == 'e' || e == 'E') && (digits? Char.isDigit (unsigned power)).isSome
  -- These two are numbers, too, though not finite ones.
  if s == "inf".toList || s == "nan".toList then true
  else
    isWhole && match rest with
      | '.' :: rest =>
        let fraction := rest.takeWhile fun c => c.isDigit || c == '_'
        (digits? Char.isDigit fraction).isSome && isExponent (rest.drop fraction.length)
      -- Without a fraction or an exponent it is a whole number.
      | [] => false
      | rest => isExponent rest

/-! ### Points in time -/

/-- The number that two digits make. -/
def twoDigits? : List Char → Option (Nat × List Char)
  | a :: b :: rest => if a.isDigit && b.isDigit then some (valueOf 10 [a, b], rest) else none
  | _ => none

/-- The days of a month. -/
def daysOf (year month : Nat) : Nat :=
  if month = 2 then if year % 4 = 0 ∧ (year % 100 ≠ 0 ∨ year % 400 = 0) then 29 else 28
  else if month = 4 ∨ month = 6 ∨ month = 9 ∨ month = 11 then 30
  else 31

/-- The text behind a date. -/
def date? (s : List Char) : Option (List Char) := do
  let (century, s) ← twoDigits? s
  let (year, s) ← twoDigits? s
  let (month, s) ← if s.head? == some '-' then twoDigits? (s.drop 1) else none
  let (day, s) ← if s.head? == some '-' then twoDigits? (s.drop 1) else none
  if 1 ≤ month ∧ month ≤ 12 ∧ 1 ≤ day ∧ day ≤ daysOf (100 * century + year) month then some s else none

/-- The text behind a time, whose seconds may be missing. -/
def time? (s : List Char) : Option (List Char) := do
  let (hour, s) ← twoDigits? s
  let (minute, s) ← if s.head? == some ':' then twoDigits? (s.drop 1) else none
  if 23 < hour ∨ 59 < minute then none
  else if s.head? == some ':' then
    let (second, s) ← twoDigits? (s.drop 1)
    -- A minute may have a leap second.
    if 60 < second then none
    else if s.head? == some '.' then
      let part := (s.drop 1).takeWhile Char.isDigit
      if part.isEmpty then none else some (s.drop (part.length + 1))
    else some s
  else some s

/-- The text behind the distance from universal time. -/
def offset? : List Char → Option (List Char)
  | 'Z' :: rest => some rest
  | 'z' :: rest => some rest
  | c :: rest =>
    if c == '+' || c == '-' then do
      let (hour, rest) ← twoDigits? rest
      let (minute, rest) ← if rest.head? == some ':' then twoDigits? (rest.drop 1) else none
      if 23 < hour ∨ 59 < minute then none else some rest
    -- A point in time without a distance is a local one.
    else some (c :: rest)
  | [] => some []

/-- A date, a time, or both with a letter or a space between them. -/
def isMoment (word : List Char) : Bool :=
  match date? word with
  | some [] => true
  | some (c :: rest) => (c == 'T' || c == 't' || c == ' ') && ((time? rest).bind offset?) == some []
  | none => time? word == some []

/-! ### Words -/

/-- A character of a word. -/
def isWordPart (c : Char) : Bool := isBare c || c == '+' || c == '.' || c == ':'

/-- The word at the front. A date goes on behind a space if a time follows there. -/
def word (s : List Char) : List Char :=
  let first := s.takeWhile isWordPart
  match s.drop first.length with
  | ' ' :: rest =>
    let second := rest.takeWhile isWordPart
    -- A space ends a word, unless it stands between a date and a time.
    if date? first == some [] && second.head?.any Char.isDigit then first ++ ' ' :: second else first
  | _ => first

/-- The value that a word stands for. -/
def ofWord? (word : List Char) : Option Value :=
  if word == "true".toList then some (.truth true)
  else if word == "false".toList then some (.truth false)
  else
    match integer? word with
    | some n => some (.integer n)
    -- What is neither a number nor a point in time is no value.
    | none => if isFraction word then some .fraction else if isMoment word then some .moment else none

end LayerAudit.Toml
