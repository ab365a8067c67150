import LayerAudit.Script.Grammar.Types

/-! Patterns, blocks, functions, arrays and objects. -/

namespace LayerAudit.Script.Parse

/-- What may stand to the left of an assignment. -/
def isTarget : Role → Bool
  | .identifier | .member | .subscript | .nonNull => true
  | _ => false

/-- Three dots and what follows them. -/
def spread (inner : Parse Unit) : Parse Unit := do
  let m ← mark
  symbol "..."
  inner
  close .construct m

/-! ### Patterns -/

/-- A pattern that may have a value to fall back on. -/
def patternWithDefault (g : Grammar) : Parse Unit := do
  let m ← mark
  g.pattern
  label .left
  -- With a value to fall back on the pattern is one side of an assignment.
  if ← optSymbol "=" then
    g.expression
    label .right
    close .construct m

/-- A pattern for the elements of an array. -/
def arrayPattern (g : Grammar) : Parse Unit := do
  let m ← mark
  symbol "["
  enclosing true (commaList "]" (patternWithDefault g) true)
  close .construct m

/-- A pattern for one property of an object. -/
def propertyPattern (g : Grammar) : Parse Unit := do
  let m ← mark
  if ← atMark "..." then spread g.reference
  else
    -- A word without a colon behind it is the key and the pattern at once.
    let isShort ← match ← ahead with
      | .word _ => pure ((← second) != .mark ":")
      | _ => pure false
    if isShort then
      name .construct
      label .left
      if ← optSymbol "=" then
        g.expression
        label .right
        close .construct m
    else
      propertyName g
      label .key
      symbol ":"
      patternWithDefault g
      label .value
      close .construct m

/-- A pattern for the properties of an object. -/
def objectPattern (g : Grammar) : Parse Unit := do
  let m ← mark
  symbol "\x7b"
  enclosing true (commaList "\x7d" (propertyPattern g) true)
  close .construct m

/-- A pattern. -/
def anyPattern (g : Grammar) : Parse Unit := do
  match ← ahead with
  | .mark "..." => spread g.reference
  | .mark "[" =>
    -- What looks like a pattern may be the start of a place to assign to.
    if ← attempt (do arrayPattern g; guard !(← atMarkOf [".", "(", "?."])) then pure ()
    else g.reference
  | .mark "\x7b" => objectPattern g
  | .word w =>
    match ← second with
    | .mark m =>
      -- A word with a mark for a part behind it is a place.
      if [".", "[", "(", "?."].contains m then g.reference
      else if w == "undefined" then shiftText .construct w
      else identifier
    | _ => identifier
  | _ => g.reference

/-- A name, or a pattern that takes a value apart. -/
def bindingTarget (g : Grammar) : Parse Unit := do
  match ← ahead with
  | .mark "[" => arrayPattern g
  | .mark "\x7b" => objectPattern g
  | _ => identifier

/-! ### Blocks and functions -/

/-- Statements in braces. -/
def block (g : Grammar) : Parse Unit := do
  let m ← mark
  symbol "\x7b"
  enclosing false do
    many do
      skipMarkupComments
      -- The end of the text is left to those who close the block.
      if (← atMark "\x7d") || (← ahead) == .ending then return false
      g.statement
      return true
    symbol "\x7d"
  -- A block ends a statement by itself.
  let _ ← impliedEnd {}
  close .construct m

/-- The signature and the body of a function. -/
def functionRest (g : Grammar) : Parse Unit := do
  callSignature g
  block g
  label .body

/-- A function that is written with its keyword, as an expression. -/
def functionExpression (g : Grammar) : Parse Unit := do
  let m ← mark
  let _ ← optKeyword "async"
  keyword "function"
  let _ ← optSymbol "*"
  -- The name may be missing, since the function is an expression.
  if !(← atMark "(") && !(← atChar '<') then
    identifier
    label .name
  functionRest g
  close .function m

/-- The arrow of a function and what it leads to. -/
def arrowBody (g : Grammar) (m : Nat) : Parse Unit := do
  symbol "=>"
  if ← atMark "\x7b" then
    let isObject ← do
      -- Braces behind an arrow are a body, unless an entry of an object follows.
      if ← foresee (do symbol "\x7b"; let _ ← propertyName g; symbol ":") then
        attempt (do g.expression; label .body)
      else pure false
    -- What is read as a body and fits nowhere may be an object after all.
    if !isObject then orElse (do block g; label .body) (do g.expression; label .body)
  else
    g.expression
    label .body
  close .function m

/-- A function that is written with an arrow and parentheses. -/
def arrowFunction (g : Grammar) : Parse Unit := do
  let m ← mark
  let _ ← optKeyword "async"
  callSignature g
  arrowBody g m

/-- A function that is written with an arrow behind a single name. -/
def shortArrow (g : Grammar) : Parse Unit := do
  let m ← mark
  if (← atWord "async") && (← second) != .mark "=>" then keyword "async"
  identifier
  label .parameter
  arrowBody g m

/-! ### Arrays and objects -/

/-- An array. -/
def array (g : Grammar) : Parse Unit := do
  let m ← mark
  symbol "["
  enclosing true do
    commaList "]" (do
      if ← atMark "..." then spread g.expression else g.expression) true
  close .array m

/-- An entry of an object. -/
def property (g : Grammar) : Parse Unit := do
  let m ← mark
  if ← atMark "..." then spread g.expression
  else
    -- Words in front of a name are modifiers, unless they are the name themselves.
    many do
      match ← ahead with
      | .word w =>
        if (accessWords.contains w || w == "override") && (← modifies) then modifierNode w; return true
        else if ["static", "readonly", "async", "get", "set"].contains w && (← modifies) then
          keyword w
          return true
        else return false
      | _ => return false
    let isBare := (← state).size == m
    let _ ← optSymbol "*"
    let isWord ← match ← ahead with
      | .word _ => pure true
      | _ => pure false
    propertyName g
    -- With parentheses, or the mark of a missing entry in front of them, it is a method.
    if (← atMark "(") || (← atChar '<') || ((← atMark "?") && !isBare) then
      label .name
      let _ ← optSymbol "?"
      functionRest g
      close .method m
    else if ← atMark ":" then
      label .key
      symbol ":"
      g.expression
      label .value
      close .pair m
    else
      -- A word alone is the key and the value at once; anything else would need a colon.
      guard (isWord && isBare && (← state).size == m + 1)
      recast .shorthand

/-- An object. -/
def object (g : Grammar) : Parse Unit := do
  let m ← mark
  symbol "\x7b"
  enclosing true (commaList "\x7d" (property g) true)
  close .object m

end LayerAudit.Script.Parse
