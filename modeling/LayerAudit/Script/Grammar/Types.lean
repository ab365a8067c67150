import LayerAudit.Script.Grammar.Basic

/-! Types, their parameters and arguments, the parameters of functions, and the members of object types. -/

namespace LayerAudit.Script.Parse

/-- Read the first character of a mark as a mark of its own. -/
def angle (c : Char) : Parse Unit := do
  if (← state).next.rest.head? == some c then shift .token 1
  else if ← assumeMark (String.singleton c) then pure ()
  else fail

/-- The next character is the given one. -/
def atChar (c : Char) : Parse Bool := return (← state).next.rest.head? == some c

/-- A colon and a type. -/
def typeAnnotation (g : Grammar) : Parse Unit := do
  let m ← mark
  symbol ":"
  g.anyType
  close .construct m

/-- A colon and a type, if a colon is next. -/
def optTypeAnnotation (g : Grammar) : Parse Unit := do
  if ← atMark ":" then typeAnnotation g

/-- Items between commas in angle brackets. -/
def angled (item : Parse Unit) : Parse Unit := do
  let m ← mark
  angle '<'
  many do
    -- A list of items may be empty, and a comma may stand behind the last one.
    if ← atChar '>' then return false
    item
    optSymbol ","
  angle '>'
  close .construct m

/-- The arguments of a generic name. -/
def typeArguments (g : Grammar) : Parse Unit := do
  guard !(← foresee (do angle '<'; angle '>'))
  angled g.anyType

/-- The parameters of a generic declaration. -/
def typeParameters (g : Grammar) : Parse Unit := angled do
  let m ← mark
  -- The word is a name itself where no other one follows.
  if (← atWord "const") && (← second) != .mark "," && (← second) != .mark ">" then keyword "const"
  typeName
  if (← atWord "extends") || (← atMark ":") then
    let c ← mark
    if !(← optKeyword "extends") then symbol ":"
    g.anyType
    close .construct c
  -- A parameter may have a type to fall back on.
  if ← atMark "=" then
    let d ← mark
    symbol "="
    g.anyType
    close .construct d
  close .construct m

/-- The parameters of a generic declaration, if there are any. -/
def optTypeParameters (g : Grammar) : Parse Unit := do
  if ← atChar '<' then typeParameters g

/-- What a function says about its argument: that it holds, or that it has a type. -/
def typePredicate (g : Grammar) : Parse Unit := do
  let m ← mark
  if ← atWord "asserts" then
    match ← second with
    -- Without a name behind it the first word is the name that the predicate is about.
    | .word "is" => guard false
    | .word _ =>
      keyword "asserts"
      let p ← mark
      if ← atWord "this" then wordAs .this "this" else identifier
      if ← optKeyword "is" then
        g.anyType
        close .construct p
      close .construct m
    | _ => guard false
  else
    if ← atWord "this" then wordAs .this "this" else identifier
    -- On another line the word would begin a new statement.
    guard (← sameLine)
    keyword "is"
    g.anyType
    close .construct m

/-- The type of a function's result, which may be a predicate. -/
def resultType (g : Grammar) : Parse Unit := orElse (typePredicate g) g.anyType

/-- A colon and the type of a function's result. -/
def resultAnnotation (g : Grammar) : Parse Unit := do
  if ← atMark ":" then
    let m ← mark
    symbol ":"
    resultType g
    close .construct m

/-! ### Parameters -/

/-- A decorator. -/
def decorator (g : Grammar) : Parse Unit := do
  let m ← mark
  symbol "@"
  if ← atMark "(" then condition g
  else
    let e ← mark
    identifier
    many do
      if ← atMark "." then
        label .object
        symbol "."
        name .propertyName
        label .property
        close .member e
        return true
      else return false
    -- Type arguments in a decorator count only in front of a call.
    let typed ← if ← atChar '<' then attempt (do typeArguments g; guard (← atMark "(")) else pure true
    if typed && (← atMark "(") then
      label .function
      let a ← mark
      symbol "("
      enclosing true do
        commaList ")" (do
          if ← atMark "..." then
            let d ← mark
            symbol "..."
            g.expression
            close .construct d
          else g.expression) true
      close .construct a
      label .arguments
      close .call e
  close .construct m

/-- Decorators, as many as there are. -/
def decorators (g : Grammar) : Parse Unit := many do
  if ← atMark "@" then decorator g; return true
  else return false

/-- The next word is a modifier, as another name or pattern follows it. -/
def modifies : Parse Bool := do
  if ← breaksAfter then return (← state).enclosed
  match ← second with
  | .word _ | .bareName _ | .number | .quote _ | .hidden => return true
  | .mark m => return ["[", "\x7b", "*"].contains m
  | .ending => return false

/-- Words that say who may use a member. -/
def accessWords : List String := ["public", "private", "protected"]

/-- A word that says who may use a member, or that it overrides one. -/
def modifierNode (w : String) : Parse Unit := do
  let m ← mark
  shiftText .token w
  close .construct m

/-- A part of a parameter list. -/
def parameter (g : Grammar) : Parse Unit := do
  let m ← mark
  decorators g
  many do
    match ← ahead with
    | .word w =>
      -- Such words make a parameter a field of its class.
      if (accessWords.contains w || w == "override") && (← modifies) then modifierNode w; return true
      else if w == "readonly" && (← modifies) then keyword w; return true
      else return false
    | _ => return false
  if ← atWord "this" then wordAs .this "this"
  else g.pattern
  label .pattern
  let _ ← optSymbol "?"
  optTypeAnnotation g
  -- A parameter may have a value to fall back on.
  if ← optSymbol "=" then
    g.expression
    label .value
  close .construct m

/-- The parameters of a function. -/
def formalParameters (g : Grammar) : Parse Unit := do
  let m ← mark
  symbol "("
  enclosing true (commaList ")" (parameter g))
  close .construct m

/-- Type parameters, parameters and result of a function. -/
def callSignature (g : Grammar) : Parse Unit := do
  optTypeParameters g
  formalParameters g
  label .parameters
  resultAnnotation g

/-! ### Names with dots -/

/-- A name, or several between dots, nested to the left. -/
def dottedName : Parse Unit := do
  let m ← mark
  identifier
  many do
    if ← optSymbol "." then
      name .propertyName
      close .construct m
      return true
    else return false

/-- A name with dots, of which the last part is the name of a type. -/
def qualifiedName (_ : Grammar) : Parse Unit := do
  let m ← mark
  -- The last part is the name of a type, and the others name what it lies in.
  if (← second) != .mark "." then typeName
  else
    identifier
    many do
      symbol "."
      if (← second) == .mark "." then
        name .propertyName
        close .construct m
        return true
      else
        typeName
        close .construct m
        return false

/-- A type's name with its arguments. -/
def namedType (g : Grammar) : Parse Unit := do
  let m ← mark
  qualifiedName g
  if ← atChar '<' then
    if ← attempt (typeArguments g) then close .construct m

/-! ### Members of object types -/

/-- The bracketed name of an index signature, or the clause of a mapped type. -/
def indexKey (g : Grammar) : Parse Unit := do
  symbol "["
  enclosing true do
    -- The clause of a mapped type goes through the members of another type.
    if (← second) == .word "in" then
      let m ← mark
      typeName
      keyword "in"
      g.anyType
      if ← optKeyword "as" then g.anyType
      close .construct m
    else
      identifier
      symbol ":"
      g.anyType
    symbol "]"

/-- A signature for all properties of some kind. -/
def indexSignature (g : Grammar) : Parse Unit := do
  let m ← mark
  -- A sign in front adds the word to the members, or takes it away.
  if (← atMarkOf ["+", "-"]) then
    match ← ahead with
    | .mark s => symbol s
    | _ => fail
    keyword "readonly"
  else
    if (← atWord "readonly") then keyword "readonly"
  indexKey g
  -- The same for the mark of a member that may be missing.
  if ← atMarkOf ["?", "+", "-"] then
    let a ← mark
    match ← ahead with
    | .mark s => symbol s
    | _ => fail
    let _ ← optSymbol "?"
    symbol ":"
    g.anyType
    close .construct a
  else typeAnnotation g
  close .construct m

/-- A property or method of an object type. -/
def memberSignature (g : Grammar) : Parse Unit := do
  let m ← mark
  many do
    match ← ahead with
    | .word w =>
      if (accessWords.contains w || w == "override") && (← modifies) then modifierNode w; return true
      else if ["static", "readonly", "async", "get", "set"].contains w && (← modifies) then
        keyword w
        return true
      else return false
    | _ => return false
  let _ ← optSymbol "*"
  propertyName g
  label .name
  let _ ← optSymbol "?"
  if (← atMark "(") || (← atChar '<') then callSignature g
  else optTypeAnnotation g
  close .construct m

/-- A member of an object type. -/
def typeMember (g : Grammar) : Parse Unit := do
  let m ← mark
  if ← atWord "export" then
    -- A declared module may hold whole statements.
    match ← second with
    | .word _ | .mark "*" | .mark "\x7b" => g.statement; return
    | _ => pure ()
  if (← atMark "(") || (← atChar '<') then
    callSignature g
    close .construct m
  else
    -- A signature for `new` is told from a member of that name by its parentheses.
    let constructs ← foresee do
      let _ ← optKeyword "abstract"
      keyword "new"
      guard ((← atMark "(") || (← atChar '<'))
    if constructs then
      let _ ← optKeyword "abstract"
      keyword "new"
      optTypeParameters g
      formalParameters g
      label .parameters
      optTypeAnnotation g
      close .construct m
    -- An index signature begins like a member with a computed name.
    else if ← foresee (indexSignature g) then indexSignature g
    else memberSignature g

/-- The members of an object type in braces. -/
def objectType (g : Grammar) : Parse Unit := do
  let m ← mark
  symbol "\x7b"
  enclosing false do
    -- An empty member at the start is allowed.
    if (← atMark ",") || (← atMark ";") then
      if !(← optSymbol ",") then symbol ";"
    many do
      if ← atMark "\x7d" then return false
      typeMember g
      -- Members end with a comma, a semicolon or a line end.
      if ← optSymbol "," then return true
      if ← atMark ";" then symbol ";"; return true
      impliedEnd {}
    symbol "\x7d"
  close .construct m

/-! ### Types -/

/-- A type in a tuple, which may have a name. -/
def tupleMember (g : Grammar) : Parse Unit := do
  let m ← mark
  if ← atMark "..." then
    -- A name is told by the colon behind it, as it looks like a type.
    let isNamed ← foresee (do symbol "..."; identifier; let _ ← optSymbol "?"; symbol ":")
    if isNamed then
      symbol "..."
      identifier
      close .construct m
      let _ ← optSymbol "?"
      typeAnnotation g
      close .construct m
    else
      symbol "..."
      g.anyType
      close .construct m
  else if ← foresee (do identifier; let _ ← optSymbol "?"; symbol ":") then
    identifier
    let _ ← optSymbol "?"
    typeAnnotation g
    close .construct m
  else
    g.anyType
    if ← optSymbol "?" then close .construct m

/-- What stands behind the word of a type query: a path to a value, or an import. -/
def queriedValue (g : Grammar) : Parse Unit := do
  let m ← mark
  if ← atWord "import" then wordAs .importWord "import"
  else if ← atWord "this" then wordAs .this "this"
  else identifier
  many do
    if (← atMark ".") || (← atMark "?.") then
      label .object
      if !(← optSymbol ".") then wordAs .construct "?."
      if (← ahead) == .hidden then hiddenName else name .propertyName
      label .property
      close .member m
      return true
    else if (← atMark "(") then
      label .function
      let a ← mark
      symbol "("
      enclosing true (commaList ")" g.expression true)
      close .construct a
      label .arguments
      close .call m
      return true
    -- Only a number or a text is looked up in brackets.
    else if (← atMark "[") && (← sameLine) then attempt do
      symbol "["
      match ← ahead with
      | .number => number
      | .quote _ => string
      | _ => fail
      symbol "]"
      close .construct m
    else return false
  -- Type arguments have to be closed, as the bracket could be a comparison.
  if (← atChar '<') && (← sameLine) then
    if ← attempt (typeArguments g) then close .construct m

/-- The names of the types that are built in. -/
def builtinTypes : List String :=
  ["any", "number", "boolean", "string", "symbol", "void", "unknown", "never", "object"]

/-- A type without operators around it. -/
def typeAtom (g : Grammar) : Parse Unit := do
  let m ← mark
  match ← ahead with
  | .mark "(" =>
    symbol "("
    enclosing true do
      g.anyType
      symbol ")"
    close .construct m
  | .mark "\x7b" => objectType g
  | .mark "[" =>
    symbol "["
    enclosing true (commaList "]" (tupleMember g))
    close .construct m
  | .mark "\x60" =>
    symbol "\x60"
    templateParts g.anyType
    close .construct m
  | .mark "*" =>
    symbol "*"
    close .construct m
  | .mark "?" =>
    symbol "?"
    g.plainType
    close .construct m
  -- A number with a sign is a type of two levels.
  | .mark "-" | .mark "+" =>
    shift .token 1
    number
    close .construct m
    close .construct m
  | .number =>
    number
    close .construct m
  | .quote _ =>
    string
    close .construct m
  | .word w =>
    -- These two words make one type.
    if w == "unique" && (← second) == .word "symbol" then
      keyword "unique"
      keyword "symbol"
      close .construct m
    else if w == "typeof" then
      keyword w
      queriedValue g
      close .construct m
    -- The word is a name itself where nothing follows that it could be applied to.
    else if w == "keyof" && (← second) != .mark "," && (← second) != .mark ";" then
      keyword w
      g.plainType
      close .construct m
    else if w == "import" then queriedValue g
    else if ["true", "false", "null", "undefined"].contains w then
      shiftText .construct w
      close .construct m
    else if w == "this" then shiftText .construct w
    else if w == "const" then shiftText .token w
    else if builtinTypes.contains w && (← second) != .mark "." then
      shiftText .token w
      close .construct m
    else namedType g
  | _ => fail

/-- A type with the brackets behind it. -/
def typeWithBrackets (g : Grammar) : Parse Unit := do
  let m ← mark
  typeAtom g
  many do
    -- On a new line a bracket begins something else.
    if (← atMark "[") && !(Lexeme.breaksLine ((← state).last.rest.length + 1) (← state).last) then
      symbol "["
      enclosing true do
        if !(← atMark "]") then g.anyType
        symbol "]"
      close .construct m
      return true
    else return false

/-- A function's type is next. -/
def atFunctionType : Parse Bool := do
  if ← atChar '<' then return true
  if !(← atMark "(") then return false
  return (← aheadOfClosing) == some (.mark "=>")

/-- A type that takes part in intersections. -/
def typeFactor (g : Grammar) : Parse Unit := do
  let m ← mark
  -- A function type begins like a type in parentheses.
  if ← atFunctionType then
    optTypeParameters g
    formalParameters g
    label .parameters
    symbol "=>"
    resultType g
    close .construct m
  else if (← atWord "new") || ((← atWord "abstract") && (← second) == .word "new") then
    let _ ← optKeyword "abstract"
    keyword "new"
    optTypeParameters g
    formalParameters g
    label .parameters
    symbol "=>"
    g.anyType
    close .construct m
  else if (← atWord "readonly") && (← modifies) then
    keyword "readonly"
    g.anyType
    close .construct m
  else if (← atWord "infer") && (← modifies) then
    keyword "infer"
    typeName
    -- What is inferred may be bounded, unless the word belongs to the choice around it.
    if ← atWord "extends" then
      let _ ← attempt do
        keyword "extends"
        g.anyType
    close .construct m
  else g.plainType

/-- Operands between copies of a mark, nested to the left; the mark may also stand first. -/
def markedChain (m : String) (operand : Parse Unit) : Parse Unit := do
  let start ← mark
  if ← optSymbol m then
    operand
    close .construct start
  else operand
  many do
    if ← optSymbol m then
      operand
      close .construct start
      return true
    else return false

/-- A type, a union of types, or a choice between types. -/
def typeChoice (g : Grammar) : Parse Unit := do
  let m ← mark
  let union := markedChain "|" (markedChain "&" (typeFactor g))
  union
  -- A choice looks like a bound up to its question mark.
  if (← atWord "extends") then
    let _ ← attempt do
      keyword "extends"
      union
      symbol "?"
      g.anyType
      symbol ":"
      g.anyType
      close .construct m

end LayerAudit.Script.Parse
