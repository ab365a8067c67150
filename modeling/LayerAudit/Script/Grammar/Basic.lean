import LayerAudit.Script.Parse

/-!
The grammar of scripts as one value. Constructs that hold each other refer to the grammar's entries, and a grammar
that follows one more level of nesting is made from one that follows one level less.
-/

namespace LayerAudit.Script

/-- The constructs that others hold. -/
structure Grammar where
  statement : Parse Unit
  /-- Any expression but a sequence. -/
  expression : Parse Unit
  /-- An expression that binds tighter than every infix operator. -/
  operand : Parse Unit
  /-- Infix operators from a level on; casts may follow the right-most operand if the flag is set. -/
  infixed : Nat → Bool → Parse Unit
  /-- A name, or a place that is read off another expression. -/
  reference : Parse Unit
  pattern : Parse Unit
  anyType : Parse Unit
  /-- A type that is no union, function or conditional. -/
  plainType : Parse Unit
  markup : Parse Unit

namespace Grammar

/-- The grammar that follows no nesting at all. -/
def bare : Grammar :=
  { statement := Parse.exhausted, expression := Parse.exhausted, operand := Parse.exhausted,
    infixed := fun _ _ => Parse.exhausted, reference := Parse.exhausted, pattern := Parse.exhausted,
    anyType := Parse.exhausted, plainType := Parse.exhausted,
    markup := Parse.exhausted }

end Grammar

namespace Parse

/-- A node without parts that is a word. -/
def wordAs (role : Role) (w : String) : Parse Unit := shiftText role w

/-- A word, whatever it is, as a name. -/
def identifier : Parse Unit := name .identifier

/-- A word as the name of a type. -/
def typeName : Parse Unit := name .construct

/-- Comments of old markup count as blanks where an expression or a statement starts. -/
def skipMarkupComments : Parse Unit := many do
  let rest := (← state).next.rest
  if ['<', '!', '-', '-'].isPrefixOf rest || ['-', '-', '>'].isPrefixOf rest then
    fun e s => .done true (settle e (s.next.skip (Lexeme.lineLength rest)) s)
  else return false

/-- One expression, or several between commas as a sequence. -/
def expressions (g : Grammar) : Parse Unit := do
  let m ← mark
  g.expression
  -- Only with a comma is it a sequence, and one expression is no node of its own.
  if ← atMark "," then
    many do
      if ← optSymbol "," then g.expression; return true
      else return false
    close .construct m

/-- An expression in parentheses, as conditions have it. -/
def condition (g : Grammar) : Parse Unit := do
  let m ← mark
  symbol "("
  enclosing true do
    expressions g
    symbol ")"
  close .group m

/-! ### Literals -/

/-- The parts of a quoted text up to its closing quote. -/
def quotedParts (quote : Char) : Parse Unit := many do
  match Lexeme.quotedPart quote (← state).last.rest with
  | .plain n => shiftClose .construct n; return true
  | .escape n => shiftClose .construct n; return true
  | .closing => shiftClose .token 1; return false
  | .broken => fail

/-- A quoted text. -/
def string : Parse Unit := do
  match ← ahead with
  -- The quote belongs to the text, so that it is not read as a lexeme.
  | .quote q =>
    let m ← mark
    shift .token 1
    quotedParts q
    close .string m
  | _ => fail

/-- A number. -/
def number : Parse Unit := do
  let n := Lexeme.numberLength (← state).next.rest
  guard (n > 0)
  shift .number n

/-- The parts of a template up to its closing mark; a hole is read by the given parser. -/
def templateParts (hole : Parse Unit) : Parse Unit := many do
  let rest := (← state).last.rest
  match rest with
  -- The closing mark stands right behind the last part, as blanks belong to the text.
  | '\x60' :: _ => shiftClose .token 1; return false
  | '\\' :: escaped =>
    let n := Lexeme.escapedLength escaped
    -- A wrong escape makes the template a damaged one.
    guard (n > 0)
    shiftClose .construct (n + 1)
    return true
  | '$' :: '\x7b' :: _ =>
    let m := (← state).size
    shiftClose .token 2
    -- The hole is a script of its own, with gaps between its lexemes.
    enclosing true hole
    symbol "\x7d"
    close .hole m
    return true
  | _ =>
    let n := Lexeme.templateLength rest
    guard (n > 0)
    shiftClose .construct n
    return true

/-- A template string. -/
def template (g : Grammar) : Parse Unit := do
  let m ← mark
  symbol "\x60"
  templateParts (expressions g)
  close .templateString m

/-- A pattern between slashes with its flags. -/
def regularExpression : Parse Unit := do
  let m ← mark
  let rest := (← state).next.rest
  guard (rest.head? == some '/')
  match Lexeme.patternLength? false (rest.drop 1) with
  | none => fail
  -- Two slashes are a comment.
  | some 0 => fail
  | some n =>
    shift .token 1
    shiftClose .construct n
    shiftClose .token 1
    -- The flags follow without a gap.
    let flags := ((← state).last.rest.takeWhile fun c => 'a' ≤ c && c ≤ 'z').length
    if flags > 0 then shiftClose .construct flags
    close .construct m

/-- A name that only its class sees. -/
def hiddenName : Parse Unit := do
  match ← ahead with
  | .hidden => shift .construct (1 + Lexeme.wordLength ((← state).next.rest.drop 1))
  | _ => fail

/-- The name of a property: a word, a text, a number, a hidden name or an expression in brackets. -/
def propertyName (g : Grammar) : Parse Unit := do
  match ← ahead with
  | .word w | .bareName w => shiftText .propertyName w
  | .quote _ => string
  | .number => number
  | .hidden => hiddenName
  -- An expression in brackets is computed.
  | .mark "[" =>
    let m ← mark
    symbol "["
    enclosing true do
      g.expression
      symbol "]"
    close .construct m
  | _ => fail

/-- The text behind a quote that closes. -/
def behindQuote (q : Char) : List Char → List Char
  | [] => []
  | '\\' :: _ :: rest => behindQuote q rest
  | c :: rest => if c == q || c == '\n' then rest else behindQuote q rest

mutual

/-- The text past the bracket that closes so many open ones, as far as quotes, templates and comments can be told
without a parse. -/
def behindBracket? : Nat → Nat → Char → List Char → Option (List Char)
  | 0, _, _, _ => none
  | _, _, _, [] => none
  | fuel + 1, depth, before, c :: rest =>
    -- Brackets in texts, templates and comments count for nothing.
    if c == '"' || c == '\'' then behindBracket? fuel depth c (behindQuote c rest)
    else if c == '\x60' then behindBracket? fuel depth c (behindTemplate fuel rest)
    else if c == '/' && (rest.head? == some '/' || rest.head? == some '*') then
      behindBracket? fuel depth before (Lexeme.nextLexeme ⟨c :: rest, 0⟩).rest
    -- A slash begins a pattern where an operand could stand.
    else if c == '/' && "(,=:[!&|?\x7b\x7d;+-*%~^<>".toList.contains before then
      match Lexeme.patternLength? false rest with
      | some n => behindBracket? fuel depth '/' (rest.drop (n + 1))
      -- A slash that closes no pattern divides.
      | none => behindBracket? fuel depth c rest
    else if c == '(' || c == '[' || c == '\x7b' then behindBracket? fuel (depth + 1) c rest
    else if c == ')' || c == ']' || c == '\x7d' then
      if depth ≤ 1 then some rest else behindBracket? fuel (depth - 1) c rest
    -- Blanks do not change which mark stands before a slash.
    else behindBracket? fuel depth (if Lexeme.isGap c then before else c) rest

/-- The text behind the end of a template. -/
def behindTemplate : Nat → List Char → List Char
  | _, [] => []
  | 0, s => s
  | fuel + 1, '\\' :: _ :: rest => behindTemplate fuel rest
  | fuel + 1, '$' :: '\x7b' :: rest => behindTemplate fuel ((behindBracket? fuel 1 '\x7b' rest).getD [])
  | fuel + 1, c :: rest => if c == '\x60' then rest else behindTemplate fuel rest

end

/-- The lexeme behind the bracket that closes the one that is next. -/
def aheadOfClosing : Parse (Option Lexeme.Ahead) := do
  let s ← state
  match s.next.rest with
  | c :: rest =>
    -- The bracket that is next counts as the first open one.
    return (behindBracket? (rest.length + 1) 1 c rest).map fun after =>
      Lexeme.ahead (Lexeme.nextLexeme ⟨after, 0⟩).rest
  | [] => return none

end Parse

end LayerAudit.Script
