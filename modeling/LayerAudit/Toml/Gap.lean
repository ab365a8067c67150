/-! What stands between the parts of a configuration document: blanks, line ends and comments. -/

namespace LayerAudit.Toml

/-- A blank within a line. -/
def isGap (c : Char) : Bool := c == ' ' || c == '\t'

/-- A control character that no line may hold. -/
def isControl (c : Char) : Bool := (c.toNat < 0x20 && c != '\t') || c.toNat == 0x7F

/-- The text behind blanks within a line. -/
def skipGap (s : List Char) : List Char := s.dropWhile isGap

/-- The text behind a line end at the front. -/
def lineEnd? : List Char → Option (List Char)
  | '\n' :: rest => some rest
  | '\r' :: '\n' :: rest => some rest
  | _ => none

/-- The text behind a comment up to the end of its line. -/
def skipComment? : List Char → Option (List Char)
  | [] => some []
  | c :: rest =>
    -- The line end itself is left to those who ask for it.
    if (lineEnd? (c :: rest)).isSome then some (c :: rest)
    else if isControl c then none
    else skipComment? rest

/-- The text behind the rest of a line that holds no more than blanks and a comment. -/
def finishLine? (s : List Char) : Option (List Char) := do
  let s := skipGap s
  let s ← if s.head? == some '#' then skipComment? s else some s
  if s.isEmpty then some [] else lineEnd? s

/-- The text behind any number of blanks, line ends and comments. -/
def skipLines? (inComment : Bool) : List Char → Option (List Char)
  | [] => some []
  | c :: rest =>
    if c == '\n' then skipLines? false rest
    -- A carriage return counts only in front of a line feed.
    else if c == '\r' then if rest.head? == some '\n' then skipLines? inComment rest else none
    else if inComment then if isControl c then none else skipLines? true rest
    else if isGap c then skipLines? false rest
    else if c == '#' then skipLines? true rest
    else some (c :: rest)

end LayerAudit.Toml
