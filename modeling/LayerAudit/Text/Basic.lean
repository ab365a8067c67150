/-!
Plain operations on texts: cutting at a character, looking for a part, and sizes in bytes.
Texts are lists of characters wherever a rule looks inside them.
-/

namespace LayerAudit.Text

/-- The pieces between the occurrences of a character; there is always one more piece than occurrences. -/
def pieces (mark : Char) : List Char → List (List Char)
  | [] => [[]]
  -- From the end of the text. The mark opens a piece, any other character joins the first one.
  | c :: rest =>
    match pieces mark rest with
    | [] => [[c]]
    | piece :: others => if c = mark then [] :: piece :: others else (c :: piece) :: others

/-- The texts before and after the last occurrence of a character. -/
def cutLast? (mark : Char) : List Char → Option (List Char × List Char)
  | [] => none
  | c :: rest =>
    -- The rest is asked first, so that a later mark wins.
    match cutLast? mark rest with
    | some (before, after) => some (c :: before, after)
    | none => if c = mark then some ([], rest) else none

/-- A text occurs somewhere inside another. -/
def occursIn (part : List Char) : List Char → Bool
  | [] => part.isEmpty
  | c :: rest => part.isPrefixOf (c :: rest) || occursIn part rest

/-- The first text is how the second begins. -/
def isStartOf (start text : String) : Bool := start.toList.isPrefixOf text.toList

/-- The first text is how the second ends. -/
def isEndOf (tail text : String) : Bool := tail.toList.isSuffixOf text.toList

/-- The text with every backslash written as a slash. -/
def slashed (text : String) : String :=
  String.ofList (text.toList.map fun c => if c = '\\' then '/' else c)

/-- The number of bytes that the characters take in UTF-8. -/
def byteSize : List Char → Nat
  | [] => 0
  | c :: rest => c.utf8Size + byteSize rest

/-- The text with its capital letters of the Latin alphabet written small. -/
def smallLatin (s : List Char) : List Char := s.map Char.toLower

/-- The given texts with a separator between them. -/
def joinWith (separator : String) (texts : List String) : String := String.intercalate separator texts

end LayerAudit.Text
