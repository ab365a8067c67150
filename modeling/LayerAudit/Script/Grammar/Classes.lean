import LayerAudit.Script.Grammar.Functions

/-! Classes and their members. -/

namespace LayerAudit.Script.Parse

/-- A class that is extended, with its type arguments. -/
def parentClass (g : Grammar) : Parse Unit := do
  -- Type arguments behind a class look like comparisons, unless the head of the class goes on behind them.
  let isGeneric ← attempt do
    g.reference
    label .value
    typeArguments g
    guard ((← atMark "\x7b") || (← atWord "implements"))
  if !isGeneric then
    g.infixed 0 true
    label .value

/-- What a class extends and implements. -/
def heritage (g : Grammar) : Parse Unit := do
  if (← atWord "extends") || (← atWord "implements") then
    let m ← mark
    -- Both parts of the head may be missing, and come in this order.
    if ← atWord "extends" then
      let e ← mark
      keyword "extends"
      commaItems (parentClass g)
      close .construct e
    if ← atWord "implements" then
      let i ← mark
      keyword "implements"
      commaItems g.anyType
      close .construct i
    close .construct m

/-- What the modifiers in front of a class member say about it. -/
structure Modifiers where
  /-- The member is promised to be defined elsewhere. -/
  isAbstract : Bool := false
  /-- Some modifier allows a field only. -/
  isField : Bool := false

/-- The modifiers in front of a class member. -/
def modifiers : Nat → Modifiers → Parse Modifiers
  | 0, found => pure found
  -- The number of modifiers is limited, as each of them stands once at most.
  | fuel + 1, found => do
    match ← ahead with
    | .word w =>
      -- A word is a modifier only if something else follows it that could be the name.
      if !(← modifies) then return found
      if accessWords.contains w || w == "override" then
        modifierNode w
        modifiers fuel found
      else if w == "abstract" then
        keyword w
        modifiers fuel { found with isAbstract := true }
      else if w == "declare" || w == "accessor" then
        keyword w
        modifiers fuel { found with isField := true }
      else if ["static", "readonly", "async", "get", "set"].contains w then
        keyword w
        modifiers fuel found
      else return found
    | _ => return found

/-- The end of a member without a body: a comma, a semicolon or a line end. -/
def memberEnd (ending : Lexeme.Ending) : Parse Unit := do
  if !(← optSymbol ",") then semicolon ending

/-- A field or a method of a class, whose decorators start at a mark. -/
def fieldOrMethod (g : Grammar) (outer : Nat) : Parse Unit := do
  let m ← mark
  let found ← modifiers 8 {}
  let _ ← optSymbol "*"
  propertyName g
  label .name
  if !(← optSymbol "?") then let _ ← optSymbol "!"
  if (← atMark "(") || (← atChar '<') then
    callSignature g
    -- A body makes it a method, and without one it is only announced.
    if (← atMark "\x7b") && !found.isAbstract then
      block g
      label .body
      close .method m
      if ← atMark ";" then symbol ";" else let _ ← impliedEnd {}
    else
      close .construct m
      memberEnd { afterSignature := true }
  else
    optTypeAnnotation g
    let hasValue ← optSymbol "="
    if hasValue then
      g.expression
      label .value
    -- A field takes in its decorators, and a method does not.
    close .construct outer
    memberEnd { afterExpression := hasValue }

/-- A member of a class. -/
def classMember (g : Grammar) : Parse Unit := do
  let m ← mark
  -- A semicolon alone is an empty member.
  if ← optSymbol ";" then return
  -- A block behind `static` is run when the class is made.
  if (← atWord "static") && (← second) == .mark "\x7b" then
    keyword "static"
    block g
    label .body
    let _ ← impliedEnd {}
    close .construct m
  -- A key in brackets with a type announces all keys of that type.
  else if ← foresee (do let _ ← modifiers 8 {}; symbol "["; identifier; symbol ":") then
    let _ ← modifiers 8 {}
    indexKey g
    typeAnnotation g
    close .construct m
    memberEnd {}
  else
    decorators g
    fieldOrMethod g m

/-- The members of a class in braces. -/
def classBody (g : Grammar) : Parse Unit := do
  let m ← mark
  symbol "\x7b"
  enclosing false do
    many do
      if (← atMark "\x7d") || (← ahead) == .ending then return false
      classMember g
      return true
    symbol "\x7d"
  close .construct m

/-- A class from its keyword on. -/
def classRest (g : Grammar) (needsName : Bool) : Parse Unit := do
  keyword "class"
  let isNamed ← match ← ahead with
    -- As an expression a class needs no name, and the words of its head are not taken for one.
    | .word w => pure (needsName || (w != "extends" && w != "implements"))
    | _ => pure needsName
  if isNamed then
    typeName
    label .name
  optTypeParameters g
  heritage g
  classBody g
  label .body

/-- A class as an expression. -/
def classExpression (g : Grammar) : Parse Unit := do
  let m ← mark
  decorators g
  classRest g false
  close .construct m

/-- A class as a declaration. -/
def classDeclaration (g : Grammar) : Parse Unit := do
  let m ← mark
  decorators g
  let _ ← optKeyword "abstract"
  classRest g true
  let _ ← impliedEnd {}
  close .construct m

end LayerAudit.Script.Parse
