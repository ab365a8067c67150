import LayerAudit.Toml.Gap

/-!
Texts and keys. A text stands between single or triple quotes; double quotes allow escapes, single ones do not. A key is
a bare word or a text on one line.
-/

namespace LayerAudit.Toml

/-! ### The extent of a text -/

/-- The text up to the closing quote, and what is behind it. A backslash hides the next character if it counts. -/
def untilQuote? (quote : Char) (escapes : Bool) : List Char → Option (List Char × List Char)
  | [] => none
  | c :: rest =>
    if c == quote then some ([], rest)
    -- The character behind a backslash is passed over even if it is a quote.
    else if escapes && c == '\\' then
      match rest with
      | [] => none
      | hidden :: rest =>
        (untilQuote? quote escapes rest).map fun (inside, behind) => (c :: hidden :: inside, behind)
    else (untilQuote? quote escapes rest).map fun (inside, behind) => (c :: inside, behind)

/-- The text up to three closing quotes, and what is behind them. Up to two quotes right before them are inside. -/
def untilQuotes? (quote : Char) (escapes : Bool) : List Char → Option (List Char × List Char)
  | [] => none
  | c :: rest =>
    let quotes := ((c :: rest).takeWhile (· == quote)).length
    -- Up to two quotes may stand in front of the three that close the text.
    if 3 ≤ quotes then
      let count := min quotes 5
      some (List.replicate (count - 3) quote, (c :: rest).drop count)
    else if escapes && c == '\\' then
      match rest with
      | [] => none
      | hidden :: rest =>
        (untilQuotes? quote escapes rest).map fun (inside, behind) => (c :: hidden :: inside, behind)
    else (untilQuotes? quote escapes rest).map fun (inside, behind) => (c :: inside, behind)

/-- Characters that may stand on one line. -/
def isLineText (s : List Char) : Bool := s.all fun c => !isControl c

/-- Characters that may stand on several lines: a carriage return only ends lines. -/
def isText : List Char → Bool
  | [] => true
  | c :: rest =>
    (if c == '\n' then true else if c == '\r' then rest.head? == some '\n' else !isControl c) && isText rest

/-! ### Escapes -/

/-- The value of hexadecimal digits, if there are only such. -/
def hexNumber? (digits : List Char) : Option Nat :=
  digits.foldl (fun value c => value.bind fun v =>
    if '0' ≤ c ∧ c ≤ '9' then some (16 * v + (c.toNat - '0'.toNat))
    else if 'a' ≤ c.toLower ∧ c.toLower ≤ 'f' then some (16 * v + (c.toLower.toNat - 'a'.toNat + 10))
    else none) (some 0)

/-- The character with a code point in hexadecimal digits. -/
def hexCharacter? (digits : List Char) : Option Char :=
  (hexNumber? digits).bind fun v => if Nat.isValidChar v then some (Char.ofNat v) else none

/-- The character for a letter behind a backslash. -/
def escapeOf? : Char → Option Char
  | 'b' => some '\x08'
  | 't' => some '\t'
  | 'n' => some '\n'
  | 'f' => some '\x0C'
  | 'r' => some '\r'
  | 'e' => some '\x1B'
  | '"' => some '"'
  | '\\' => some '\\'
  | _ => none

/-- The text with its escapes replaced. A backslash at the end of a line hides all white space up to the next text, where
several lines are allowed. -/
def unescape? (lines skipping : Bool) : List Char → Option (List Char)
  | [] => some []
  -- The digits of a code are as many as the letter asks for.
  | '\\' :: 'x' :: a :: b :: rest => do return (← hexCharacter? [a, b]) :: (← unescape? lines false rest)
  | '\\' :: 'u' :: a :: b :: c :: d :: rest => do
    return (← hexCharacter? [a, b, c, d]) :: (← unescape? lines false rest)
  | '\\' :: 'U' :: a :: b :: c :: d :: e :: f :: g :: h :: rest => do
    return (← hexCharacter? [a, b, c, d, e, f, g, h]) :: (← unescape? lines false rest)
  | '\\' :: c :: rest =>
    -- A backslash in front of a line end hides the line end and the blanks at the start of the next line.
    if lines && (lineEnd? (skipGap (c :: rest))).isSome then unescape? lines true rest
    else do return (← escapeOf? c) :: (← unescape? lines false rest)
  | c :: rest =>
    -- The white space behind a hidden line end is left out.
    if skipping && (isGap c || c == '\n' || c == '\r') then unescape? lines true rest
    else if c == '\\' then none
    else do return c :: (← unescape? lines false rest)

/-! ### Texts and keys -/

/-- The text without the line end at its start. -/
def dropLineEnd (s : List Char) : List Char := (lineEnd? s).getD s

/-- A text on one line at the front. -/
def lineText? : List Char → Option (String × List Char)
  | '"' :: rest => do
    let (inside, behind) ← untilQuote? '"' true rest
    -- Double quotes allow escapes.
    if isLineText inside then return (String.ofList (← unescape? false false inside), behind) else none
  | '\'' :: rest => do
    let (inside, behind) ← untilQuote? '\'' false rest
    -- Between single quotes nothing is escaped.
    if isLineText inside then some (String.ofList inside, behind) else none
  | _ => none

/-- A text at the front, on one line or between triple quotes. -/
def text? : List Char → Option (String × List Char)
  -- Three quotes are looked for first, as two of them would be an empty text.
  | '"' :: '"' :: '"' :: rest => do
    let (inside, behind) ← untilQuotes? '"' true (dropLineEnd rest)
    if isText inside then return (String.ofList (← unescape? true false inside), behind) else none
  | '\'' :: '\'' :: '\'' :: rest => do
    let (inside, behind) ← untilQuotes? '\'' false (dropLineEnd rest)
    if isText inside then some (String.ofList inside, behind) else none
  | s => lineText? s

/-- A character of a bare word. -/
def isBare (c : Char) : Bool := c.isAlphanum || c == '_' || c == '-'

/-- A single key at the front. -/
def key? (s : List Char) : Option (String × List Char) :=
  match s.head? with
  | some '"' | some '\'' => lineText? s
  | _ =>
    -- An empty word is no key.
    let word := s.takeWhile isBare
    if word.isEmpty then none else some (String.ofList word, s.drop word.length)

/-- Keys with dots between them. Every turn uses up at least one character. -/
def keys? : Nat → List Char → Option (List String × List Char)
  | 0, _ => none
  | turns + 1, s => do
    let (first, behind) ← key? (skipGap s)
    match skipGap behind with
    | '.' :: rest => do
      let (others, behind) ← keys? turns rest
      return (first :: others, behind)
    | behind => return ([first], behind)

end LayerAudit.Toml
