import LayerAudit.Text.Blank

/-!
Lexemes of scripts, read off the front of a text. A length counts characters; zero says that no such lexeme stands
there. Which lexeme is wanted depends on the place in the grammar, so each kind has a reader of its own.
-/

namespace LayerAudit.Script

/-- A place in a text: the text that follows, and the number of bytes before it. -/
structure Place where
  rest : List Char
  offset : Nat
  deriving Repr, Inhabited

namespace Place

/-- The place behind some more characters. -/
def skip : Nat → Place → Place
  | 0, place => place
  | n + 1, ⟨c :: rest, offset⟩ => skip n ⟨rest, offset + c.utf8Size⟩
  | _ + 1, ⟨[], offset⟩ => ⟨[], offset⟩

end Place

namespace Lexeme

/-! ### Blanks and comments -/

/-- A blank that may stand between lexemes. -/
def isGap (c : Char) : Bool := Text.isBlank c || c == '\ufeff' || c == '\u2060' || c == '\u200b'

/-- A character that ends a line comment. -/
def endsLine (c : Char) : Bool := c == '\n' || c == '\r' || c == '\u2028' || c == '\u2029'

/-- What a gap between lexemes is made of at some point. -/
inductive GapPart
  | blanks | line | block
  deriving DecidableEq, Repr

/-- A block comment is closed somewhere in the text. -/
def closesBlock : List Char → Bool
  | [] => false
  | c :: rest => ['*', '/'].isPrefixOf (c :: rest) || closesBlock rest

/-- The place behind blanks and comments. -/
def skipGap : GapPart → List Char → Nat → Place
  | .blanks, '/' :: '/' :: rest, n => skipGap .line rest (n + 2)
  | .blanks, '/' :: '*' :: rest, n =>
    -- A comment that is never closed is none, and its slash is a lexeme.
    if closesBlock rest then skipGap .block rest (n + 2) else ⟨'/' :: '*' :: rest, n⟩
  | .blanks, c :: rest, n => if isGap c then skipGap .blanks rest (n + c.utf8Size) else ⟨c :: rest, n⟩
  -- The line end itself is a blank.
  | .line, c :: rest, n => skipGap (if endsLine c then .blanks else .line) rest (n + c.utf8Size)
  | .block, '*' :: '/' :: rest, n => skipGap .blanks rest (n + 2)
  | .block, c :: rest, n => skipGap .block rest (n + c.utf8Size)
  | _, [], n => ⟨[], n⟩

/-- The place of the next lexeme at or behind a place. -/
def nextLexeme (place : Place) : Place := skipGap .blanks place.rest place.offset

/-- The number of characters up to the end of a line. -/
def lineLength (s : List Char) : Nat := (s.takeWhile fun c => !endsLine c).length

/-! ### The end of a statement without a semicolon -/

/-- The text behind blanks and comments, none if a slash starts neither. -/
def behindGap? : GapPart → List Char → Option (List Char)
  | .blanks, '/' :: '/' :: rest => behindGap? .line rest
  | .blanks, '/' :: '*' :: rest => behindGap? .block rest
  | .blanks, c :: rest =>
    -- A slash that begins no comment goes on with an expression.
    if c == '/' then none else if Text.isPlainBlank c then behindGap? .blanks rest else some (c :: rest)
  | .line, c :: rest =>
    behindGap? (if c == '\n' || c == '\u2028' || c == '\u2029' then .blanks else .line) rest
  | .block, '*' :: '/' :: rest => behindGap? .blanks rest
  | .block, _ :: rest => behindGap? .block rest
  | _, [] => some []

/-- The text continues the word "in" or "instanceof", of which the first letter has been read. -/
def continuesIn : List Char → Bool
  | 'n' :: rest =>
    match rest with
    | [] => true
    | c :: _ =>
      -- The word ends behind two letters, unless it is the longer one.
      if !c.isAlpha then true
      else if "stanceof".toList.isPrefixOf rest then
        match rest.drop 8 with
        | [] => true
        | d :: _ => !d.isAlpha
      else false
  | _ => false

/-- What decides whether a line end also ends a statement. -/
structure Ending where
  /-- An expression stands before the line end, so that a bracket on the next line continues it. -/
  afterExpression : Bool := false
  /-- A function signature stands before it, so that a block on the next line is its body. -/
  afterSignature : Bool := false

/-- A line that starts like this does not continue the statement of the line before. -/
def startsAnew (ending : Ending) : List Char → Bool
  | [] => true
  | c :: rest =>
    match c with
    -- What begins with one of these marks goes on with the expression before it.
    | '\x60' | ',' | '.' | ';' | '*' | '%' | '>' | '<' | '=' | '?' | '^' | '|' | '&' | '/' | ':' => false
    -- A brace behind the head of a function opens its body.
    | '\x7b' => !ending.afterSignature
    -- A bracket behind an expression goes on with it.
    | '(' | '[' => !ending.afterExpression
    -- Two signs are an update of what follows, and one is between two operands.
    | '+' => rest.head? == some '+'
    | '-' => rest.head? == some '-'
    -- An exclamation mark is a negation, unless it is a part of a comparison.
    | '!' => rest.head? != some '='
    -- Of all words only these two stand between operands.
    | 'i' => !continuesIn rest
    | _ => true

/-- How the rest of a line bears on the statement before it. -/
inductive LineRest
  /-- The line, or the block around the statement, ends. -/
  | ends
  /-- Another lexeme follows on the line. -/
  | continues
  /-- A comment follows on the line. -/
  | comment
  deriving DecidableEq, Repr

/-- How the rest of a line bears on the statement before it. -/
def lineRest (ending : Ending) : List Char → LineRest
  | [] => .ends
  | c :: rest =>
    if c == '\x7d' then
      -- A brace with a colon behind it is the end of a pattern, and no end of a block.
      if (rest.dropWhile Text.isPlainBlank).head? == some ':' && !ending.afterExpression then .continues
      else .ends
    -- Behind a line end the next line decides.
    else if c == '\n' then
      match behindGap? .blanks rest with
      | some next => if startsAnew ending next then .ends else .continues
      | none => .continues
    else if Text.isPlainBlank c then lineRest ending rest
    -- A comment hides whether the line ends behind it.
    else if c == '/' && (rest.head? == some '/' || rest.head? == some '*' && closesBlock (rest.drop 1)) then
      .comment
    else .continues

/-- The place behind the end of a block comment. -/
def blockEnd : List Char → Nat → Place
  | '*' :: '/' :: rest, n => ⟨rest, n + 2⟩
  | c :: rest, n => blockEnd rest (n + c.utf8Size)
  | [], n => ⟨[], n⟩

/-- The place behind the blanks of a line and one comment. -/
def behindComment : Place → Nat → Place
  | place, 0 => place
  | place, fuel + 1 =>
    match place.rest with
    | '/' :: '/' :: rest => place.skip (2 + lineLength rest)
    | '/' :: '*' :: rest => blockEnd rest (place.offset + 2)
    | c :: rest => behindComment ⟨rest, place.offset + c.utf8Size⟩ fuel
    | [] => place

/-- The place, at the given one or behind comments on its line, at which a statement ends by itself. -/
def statementEnd? (ending : Ending) : Nat → Place → Option Place
  | 0, _ => none
  | fuel + 1, place =>
    match lineRest ending place.rest with
    | .ends => some place
    | .continues => none
    -- Behind the comment the question is asked anew.
    | .comment => statementEnd? ending fuel (behindComment place place.rest.length)

/-- A line ends between a place and the next lexeme, comments aside. -/
def breaksLine : Nat → Place → Bool
  | 0, _ => false
  | fuel + 1, place =>
    match place.rest.dropWhile fun c => Text.isPlainBlank c && c != '\n' with
    | '\n' :: _ => true
    -- A slash may begin a comment with a line end in it.
    | '/' :: c :: _ =>
      if c == '/' || c == '*' then breaksLine fuel (behindComment place place.rest.length) else false
    | _ => false

/-! ### Words and numbers -/

/-- A character that separates words or starts another lexeme. -/
def isSeparator (c : Char) : Bool :=
  c.toNat < 0x20 || isGap c || ":;\x60\"'@#.,|^&<=>+-*/\\%?!~()[]\x7b\x7d".toList.contains c

/-- A character that a word may hold at its start. -/
def startsWord (c : Char) : Bool := !isSeparator c && !c.isDigit

/-- A hexadecimal digit. -/
def isHex (c : Char) : Bool := c.isDigit || ('a' ≤ c && c ≤ 'f') || ('A' ≤ c && c ≤ 'F')

/-- The length of an escaped character in a word. -/
def wordEscapeLength : List Char → Nat
  | '\\' :: 'u' :: '\x7b' :: rest =>
    let digits := (rest.takeWhile isHex).length
    -- Without digits between the braces nothing is escaped.
    if digits > 0 && (rest.drop digits).head? == some '\x7d' then digits + 4 else 0
  | '\\' :: 'u' :: a :: b :: c :: d :: _ => if isHex a && isHex b && isHex c && isHex d then 6 else 0
  | _ => 0

/-- The length of a word's rest. -/
def wordRestLength : Nat → List Char → Nat
  | 0, _ => 0
  | _ + 1, [] => 0
  | fuel + 1, c :: rest =>
    if !isSeparator c then 1 + wordRestLength fuel rest
    else
      let n := wordEscapeLength (c :: rest)
      -- An escaped character belongs to a word like any other.
      if n = 0 then 0 else n + wordRestLength fuel ((c :: rest).drop n)

/-- The length of a word. -/
def wordLength (s : List Char) : Nat :=
  match s with
  | [] => 0
  | c :: _ => if startsWord c || wordEscapeLength s > 0 then wordRestLength s.length s else 0

/-- The length of digits, each of which may follow one underscore. -/
def digitsLength (isDigit : Char → Bool) : List Char → Nat
  | [] => 0
  | c :: rest =>
    if isDigit c then 1 + digitsLength isDigit rest
    -- An underscore belongs to the digits only if one follows it.
    else if c == '_' then
      match rest with
      | d :: _ => if isDigit d then 1 + digitsLength isDigit rest else 0
      | [] => 0
    else 0

/-- The length of an exponent. -/
def exponentLength : List Char → Nat
  | c :: rest =>
    if c == 'e' || c == 'E' then
      let sign := match rest with
        | d :: _ => if d == '+' || d == '-' then 1 else 0
        | [] => 0
      let digits := digitsLength Char.isDigit (rest.drop sign)
      -- An exponent has digits, and does not begin with an underscore.
      if digits > 0 && (rest.drop sign).head? != some '_' then 1 + sign + digits else 0
    else 0
  | [] => 0

/-- The length of digits that start with a digit. -/
def plainDigits (isDigit : Char → Bool) (s : List Char) : Nat :=
  if s.head? == some '_' then 0 else digitsLength isDigit s

/-- The length of a number without base mark. -/
def decimalLength (s : List Char) : Nat :=
  let whole := plainDigits Char.isDigit s
  match s.drop whole with
  | '.' :: rest =>
    let fraction := plainDigits Char.isDigit rest
    -- A dot alone is no number.
    if whole = 0 && fraction = 0 then 0
    else whole + 1 + fraction + exponentLength (rest.drop fraction)
  | rest =>
    if whole = 0 then 0
    -- A whole number may have the mark of a big one, or an exponent.
    else if rest.head? == some 'n' then whole + 1 else whole + exponentLength rest

/-- The length of a number. -/
def numberLength (s : List Char) : Nat :=
  let marked (isDigit : Char → Bool) (rest : List Char) : Nat :=
    let digits := plainDigits isDigit rest
    -- Without digits the base mark is no part of the number, and its zero stands alone.
    if digits = 0 then 1
    else if (rest.drop digits).head? == some 'n' then digits + 3 else digits + 2
  match s with
  | '0' :: c :: rest =>
    if c == 'x' || c == 'X' then marked isHex rest
    else if c == 'o' || c == 'O' then marked (fun d => '0' ≤ d && d ≤ '7') rest
    else if c == 'b' || c == 'B' then marked (fun d => d == '0' || d == '1') rest
    else decimalLength s
  | _ => decimalLength s

/-! ### Quoted text -/

/-- The length of what a backslash escapes. -/
def escapedLength : List Char → Nat
  -- A code of the wrong length is no escape.
  | 'x' :: a :: b :: _ => if isHex a && isHex b then 3 else 0
  | 'x' :: _ => 0
  | 'u' :: rest => wordEscapeLength ('\\' :: 'u' :: rest) - 1
  -- Both characters of a line end are escaped at once.
  | '\r' :: '\n' :: _ => 2
  | c :: rest =>
    -- Up to three octal digits are one code.
    if '0' ≤ c && c ≤ '7' then 1 + ((rest.take 2).takeWhile fun d => '0' ≤ d && d ≤ '7').length else 1
  | [] => 0

/-- The part of a quoted text that comes next, with its length. -/
inductive QuotedPart
  | plain (length : Nat)
  | escape (length : Nat)
  | closing
  | broken
  deriving Repr

/-- The part that comes next in a text between the given quotes. -/
def quotedPart (quote : Char) (s : List Char) : QuotedPart :=
  match s with
  | [] => .broken
  | c :: rest =>
    if c == quote then .closing
    else if c == '\\' then
      let n := escapedLength rest
      if n = 0 then .broken else .escape (n + 1)
    -- A quoted text ends on its line.
    else if c == '\n' || c == '\r' then .broken
    else .plain (s.takeWhile fun d => d != quote && d != '\\' && d != '\n' && d != '\r').length

/-- The length of the plain text of a template before a hole, an escape or its end. -/
def templateLength : List Char → Nat
  | [] => 0
  | '$' :: '\x7b' :: _ => 0
  | c :: rest => if c == '\x60' || c == '\\' then 0 else 1 + templateLength rest

/-- The length of a pattern between slashes, none if it is not closed on its line. -/
def patternLength? (inClass : Bool) : List Char → Option Nat
  | [] => none
  -- A backslash hides the next character, but no line end.
  | '\\' :: c :: rest => if c == '\n' then none else (patternLength? inClass rest).map (· + 2)
  | c :: rest =>
    if c == '\n' then none
    -- A slash inside of brackets does not close the pattern.
    else if inClass then (patternLength? (c != ']') rest).map (· + 1)
    else if c == '/' then some 0
    else (patternLength? (c == '[') rest).map (· + 1)

/-! ### Marks -/

/-- The marks that consist of several characters, longer ones first. -/
def longMarks : List (List Char) :=
  [">>>=", "...", "===", "!==", "**=", "<<=", ">>=", ">>>", "&&=", "||=", "??=", "=>", "==", "!=", "<=",
    ">=", "&&", "||", "??", "?.", "++", "--", "+=", "-=", "*=", "/=", "%=", "&=", "|=", "^=", "<<", ">>",
    "**"].map String.toList

/-- The mark that a text starts with. -/
def markOf (s : List Char) : List Char :=
  match longMarks.find? (·.isPrefixOf s) with
  | some ['?', '.'] =>
    -- Before a digit the dot belongs to a number, and the question mark is one of a choice.
    if ((s.drop 2).head?.map Char.isDigit).getD false then ['?'] else ['?', '.']
  | some mark => mark
  | none => s.take 1

/-- What the next lexeme is. -/
inductive Ahead
  | word (text : String)
  /-- A word that counts as a name only. -/
  | bareName (text : String)
  | mark (text : String)
  | number
  | quote (mark : Char)
  /-- A name behind a hash sign. -/
  | hidden
  | ending
  deriving DecidableEq, Repr, Inhabited

/-- What the lexeme at the front of a text is. -/
def ahead (s : List Char) : Ahead :=
  match s with
  | [] => .ending
  | c :: rest =>
    if c.isDigit then .number
    else if c == '"' || c == '\'' then .quote c
    -- A number may begin with its dot.
    else if c == '.' && ((rest.head?.map Char.isDigit).getD false) then .number
    -- A hash sign without a word behind it is a mark alone.
    else if c == '#' then (if wordLength rest > 0 then .hidden else .mark "#")
    else
      let n := wordLength s
      if n > 0 then .word (String.ofList (s.take n)) else .mark (String.ofList (markOf s))

end Lexeme

end LayerAudit.Script
