import LayerAudit.Script.Grammar.Types

/-! Elements of markup inside scripts. -/

namespace LayerAudit.Script.Parse

/-- The length of a name in markup, which may hold hyphens. -/
def markupNameLength : List Char → Nat
  | [] => 0
  | c :: rest =>
    if Lexeme.startsWord c then
      let n := Lexeme.wordLength (c :: rest)
      n + ((c :: rest).drop n |>.takeWhile fun d => d.isAlphanum || d == '_' || d == '$' || d == '-').length
    else 0

/-- A name in markup as a node. -/
def markupName (role : Role) : Parse Unit := do
  let n := markupNameLength (← state).next.rest
  guard (n > 0)
  shift role n

/-- The name of an element: simple, in a space of names, or with dots. -/
def elementName : Parse Unit := do
  let m ← mark
  markupName .identifier
  -- A name behind a colon lies in the space of the first one.
  if ← atMark ":" then
    symbol ":"
    markupName .identifier
    close .construct m
  else
    many do
      -- Each dot makes one more member of what was read so far.
      if ← atMark "." then
        label .object
        symbol "."
        markupName .propertyName
        label .property
        close .member m
        return true
      else return false

/-- An expression in braces, or nothing but a comment. -/
def bracedExpression (g : Grammar) : Parse Unit := do
  let m ← mark
  symbol "\x7b"
  enclosing true do
    if ← atMark "..." then
      let s ← mark
      symbol "..."
      g.expression
      close .construct s
    -- Braces with nothing but a comment in them are allowed.
    else if !(← atMark "\x7d") then expressions g
    symbol "\x7d"
  close .construct m

/-- The length of a named or numbered character. -/
def entityLength (s : List Char) : Nat :=
  let closed (digits : Nat) (before : Nat) : Nat :=
    -- Without a semicolon an ampersand is a plain character.
    if digits > 0 && (s.drop (before + digits)).head? == some ';' then before + digits + 1 else 0
  match s with
  | '&' :: '#' :: 'x' :: rest | '&' :: '#' :: 'X' :: rest => closed (rest.takeWhile Lexeme.isHex).length 3
  | '&' :: '#' :: rest => closed (rest.takeWhile Char.isDigit).length 2
  | '&' :: rest => closed (rest.takeWhile Char.isAlpha).length 1
  | _ => 0

/-- The parts of a quoted value in markup, where lines may end. -/
def markupQuoted (quote : Char) : Parse Unit := many do
  let rest := (← state).last.rest
  match rest with
  | [] => fail
  | c :: _ =>
    if c == quote then shiftClose .token 1; return false
    -- An entity is a node of its own also in quotes.
    else if entityLength rest > 0 then shiftClose .construct (entityLength rest); return true
    else
      let n := (rest.drop 1 |>.takeWhile fun d => d != quote && d != '&').length
      shiftClose .construct (n + 1)
      return true

/-- An attribute of an element. -/
def elementAttribute (g : Grammar) : Parse Unit := do
  -- Braces in place of an attribute hold several of them.
  if ← atMark "\x7b" then bracedExpression g
  else
    let m ← mark
    markupName .propertyName
    if ← atMark ":" then
      recast .identifier
      symbol ":"
      markupName .identifier
      close .construct m
    if ← optSymbol "=" then
      match ← ahead with
      | .quote q =>
        let s ← mark
        shift .token 1
        markupQuoted q
        close .string s
      | .mark "\x7b" => bracedExpression g
      -- An element can be a value without braces.
      | _ => g.markup
    close .construct m

/-- The attributes of an element. -/
def attributes (g : Grammar) : Parse Unit := many do
  match ← ahead with
  | .word _ | .mark "\x7b" => elementAttribute g; return true
  | _ => return false

/-- The length of the text before the next tag, brace or entity, and whether it is more than indentation. -/
def markupText (atLineStart sawText : Bool) : List Char → Nat × Bool
  | [] => (0, sawText)
  | c :: rest =>
    -- Text ends at what could begin another part.
    if "<>\x7b\x7d&".toList.contains c then (0, sawText)
    else
      let atLineStart := c == '\n' || (atLineStart && Text.isPlainBlank c)
      let (n, saw) := markupText atLineStart (sawText || !atLineStart) rest
      (n + 1, saw)

/-- What stands between the tags of an element. -/
def markupChildren (g : Grammar) : Parse Unit := many do
  let rest := (← state).last.rest
  let (n, isText) := markupText false false rest
  -- Indentation alone is no text.
  if n > 0 && isText then
    shiftClose .construct n
    return true
  else if ← atMark "\x7b" then
    bracedExpression g
    return true
  else if ← atChar '&' then
    let n := entityLength (← state).next.rest
    guard (n > 0)
    shift .construct n
    return true
  else if ← atChar '<' then
    -- The closing tag is left to the element.
    if ← foresee (do angle '<'; angle '/') then return false
    g.markup
    return true
  else fail

/-- An element with its tags, or a single tag that closes itself. -/
def element (g : Grammar) : Parse Unit := do
  let m ← mark
  angle '<'
  -- A fragment has no name.
  if ← atChar '>' then
    angle '>'
    close .construct m
  else
    elementName
    if ← atChar '<' then typeArguments g
    attributes g
    -- A single tag has nothing inside.
    if ← atChar '/' then
      angle '/'
      angle '>'
      close .construct m
      return
    angle '>'
    close .construct m
  markupChildren g
  let c ← mark
  angle '<'
  angle '/'
  -- That both names agree is not asked for.
  if !(← atChar '>') then elementName
  angle '>'
  close .construct c
  close .construct m

end LayerAudit.Script.Parse
