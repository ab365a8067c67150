import LayerAudit.Script.Grammar.Expressions

/-! Statements, declarations, imports and exports. -/

namespace LayerAudit.Script.Parse

/-! ### Variables -/

/-- A declared name with its type and its value. -/
def declarator (g : Grammar) : Parse Unit := do
  let m ← mark
  bindingTarget g
  label .name
  -- An exclamation mark says that the name gets its value later.
  if ← optSymbol "!" then typeAnnotation g else optTypeAnnotation g
  if ← optSymbol "=" then
    g.expression
    label .value
  close .declarator m

/-- The latest node is a declared name with a value. -/
def endsWithValue : Parse Bool :=
  return ((← state).built.head?.bind fun node => node.child? .value).isSome

/-- A declaration of variables. -/
def binding (g : Grammar) (w : String) : Parse Unit := do
  let m ← mark
  keyword w
  commaItems (declarator g)
  semicolon { afterExpression := ← endsWithValue }
  close .construct m

/-! ### Declarations -/

/-- A function with a name, or its signature alone. -/
def functionDeclaration (g : Grammar) : Parse Unit := do
  let m ← mark
  let _ ← optKeyword "async"
  keyword "function"
  let _ ← optSymbol "*"
  identifier
  label .name
  callSignature g
  -- Without a body it is one of several signatures of a function.
  if ← atMark "\x7b" then
    block g
    label .body
    let _ ← impliedEnd {}
    close .function m
  else
    semicolon { afterSignature := true }
    close .construct m

/-- A name for a type. -/
def typeAlias (g : Grammar) : Parse Unit := do
  let m ← mark
  keyword "type"
  typeName
  optTypeParameters g
  symbol "="
  g.anyType
  label .value
  semicolon {}
  close .construct m

/-- An interface. -/
def interface (g : Grammar) : Parse Unit := do
  let m ← mark
  keyword "interface"
  typeName
  optTypeParameters g
  if ← atWord "extends" then
    let e ← mark
    keyword "extends"
    commaItems (namedType g)
    close .construct e
  objectType g
  close .construct m

/-- A member of an enumeration. -/
def enumMember (g : Grammar) : Parse Unit := do
  let m ← mark
  propertyName g
  if ← optSymbol "=" then
    g.expression
    close .construct m

/-- An enumeration. -/
def enumeration (g : Grammar) : Parse Unit := do
  let m ← mark
  let _ ← optKeyword "const"
  keyword "enum"
  identifier
  let b ← mark
  symbol "\x7b"
  enclosing true (commaList "\x7d" (enumMember g))
  close .construct b
  close .construct m

/-- A module or a namespace with its block. -/
def moduleDeclaration (g : Grammar) (w : String) : Parse Unit := do
  let m ← mark
  keyword w
  match ← ahead with
  | .quote _ => string
  | _ => dottedName
  -- A module may be announced without a block.
  if ← atMark "\x7b" then block g
  close .construct m

/-- Another name for an entity of a namespace. -/
def importAlias : Parse Unit := do
  let m ← mark
  keyword "import"
  identifier
  symbol "="
  dottedName
  semicolon {}
  close .construct m

/-- The parser of the declaration that is next, if one is. -/
def declaration? (g : Grammar) : Parse (Option (Parse Unit)) := do
  match ← ahead with
  -- Decorators stand in front of classes only.
  | .mark "@" => return some (classDeclaration g)
  | .word w =>
    let next ← second
    match w, next with
    | "var", _ => return some (binding g w)
    | "const", .word "enum" => return some (enumeration g)
    | "const", _ => return some (binding g w)
    -- The word is a name itself where no name or pattern follows.
    | "let", .word _ | "let", .mark "[" | "let", .mark "\x7b" =>
      return if next == .word "in" || next == .word "instanceof" then none else some (binding g w)
    | "function", .word _ => return some (functionDeclaration g)
    -- A function without a name is an expression.
    | "function", .mark "*" =>
      let isNamed ← foresee (do keyword w; symbol "*"; identifier)
      return if isNamed then some (functionDeclaration g) else none
    | "async", .word "function" =>
      let isNamed ← foresee (do keyword w; keyword "function"; let _ ← optSymbol "*"; identifier)
      return if isNamed then some (functionDeclaration g) else none
    | "class", .word _ => return some (classDeclaration g)
    | "abstract", .word "class" => return some (classDeclaration g)
    | "enum", .word _ => return some (enumeration g)
    | "interface", .word _ => return some (interface g)
    -- The word is a name itself unless an alias follows.
    | "type", .word _ =>
      let isAlias ← foresee (do keyword w; typeName; guard ((← atMark "=") || (← atChar '<')))
      return if isAlias then some (typeAlias g) else none
    -- A line end behind the word makes it an expression.
    | "module", .word _ | "module", .quote _ =>
      return if ← breaksAfter then none else some (moduleDeclaration g w)
    | "import", .word _ =>
      -- An import of modules has no equals sign.
      let isAlias ← foresee (do keyword w; identifier; symbol "="; dottedName; guard !(← atMark "("))
      return if isAlias then some importAlias else none
    | "declare", .word _ =>
      -- What is declared may be almost any statement.
      return if ← breaksAfter then none else some do
        let m ← mark
        keyword w
        if ← atWord "global" then
          keyword "global"
          block g
        else if (← atWord "module") && (← second) == .mark "." then
          keyword "module"
          symbol "."
          name .propertyName
          symbol ":"
          g.anyType
          semicolon {}
        else if ← atWord "namespace" then moduleDeclaration g "namespace"
        else g.statement
        close .construct m
    | _, _ => return none
  | _ => return none

/-! ### Imports and exports -/

/-- A name that a module exports. -/
def exportedName (role : Role) : Parse Unit := do
  match ← ahead with
  | .quote _ => string
  | _ => name role

/-- The source of an import or export. -/
def fromClause : Parse Unit := do
  keyword "from"
  string
  label .source

/-- A word that makes an import or export concern types alone is next. -/
def typeOnlyWord : Parse Bool := do
  if !(← atWordOf ["type", "typeof"]) then return false
  match ← second with
  | .word "as" => return false
  | .word _ | .quote _ => return true
  | _ => return false

/-- One imported name. -/
def importSpecifier : Parse Unit := do
  let m ← mark
  if ← typeOnlyWord then
    match ← ahead with
    | .word w => keyword w
    | _ => fail
  let isText := match ← ahead with
    | .quote _ => true
    | _ => false
  exportedName .identifier
  label .name
  -- A text is no name in the importing module, so that it needs another one.
  if isText || (← atWord "as") then
    keyword "as"
    identifier
    label .alias
  close .importSpecifier m

/-- The imported names in braces. -/
def namedImports : Parse Unit := do
  let m ← mark
  symbol "\x7b"
  enclosing true (commaList "\x7d" importSpecifier)
  close .namedImports m

/-- The import of a whole module under a name. -/
def namespaceImport : Parse Unit := do
  let m ← mark
  symbol "*"
  keyword "as"
  identifier
  close .namespaceImport m

/-- What an import brings in. -/
def importClause : Parse Unit := do
  let m ← mark
  let group : Parse Unit := do
    if ← atMark "*" then namespaceImport else namedImports
  match ← ahead with
  | .word _ =>
    identifier
    -- Behind a default import there may be a list, or the whole module.
    if ← optSymbol "," then group
  | _ => group
  close .importClause m

/-- The attributes of an import. -/
def importAttributes (g : Grammar) : Parse Unit := do
  if ((← atWord "with") || (← atWord "assert")) && (← second) == .mark "\x7b" then
    let m ← mark
    match ← ahead with
    | .word w => keyword w
    | _ => fail
    object g
    close .construct m

/-- An import by assignment. -/
def requiredModule : Parse Unit := do
  let m ← mark
  identifier
  symbol "="
  keyword "require"
  symbol "("
  enclosing true do
    string
    label .source
    symbol ")"
  close .construct m

/-- An import statement. -/
def importStatement (g : Grammar) : Parse Unit := do
  let m ← mark
  keyword "import"
  match ← ahead with
  -- An import without names runs the module only.
  | .quote _ =>
    string
    label .source
  | _ =>
    -- The words stand for types only if an import follows, since both may be imported names.
    for w in ["type", "typeof"] do
      if ← foresee (do keyword w; orElse requiredModule (do importClause; keyword "from")) then keyword w
    if ← foresee (do identifier; symbol "=") then requiredModule
    else
      importClause
      fromClause
  importAttributes g
  semicolon {}
  close .importStatement m

/-- One exported name. -/
def exportSpecifier : Parse Unit := do
  let m ← mark
  if ← typeOnlyWord then
    match ← ahead with
    | .word w => keyword w
    | _ => fail
  exportedName .identifier
  label .name
  if ← optKeyword "as" then
    exportedName .identifier
    label .alias
  close .construct m

/-- The exported names in braces. -/
def exportClause : Parse Unit := do
  let m ← mark
  symbol "\x7b"
  enclosing true (commaList "\x7d" exportSpecifier)
  close .construct m

/-- What follows the words "export default". -/
def defaultExport (g : Grammar) : Parse Unit := do
  let declared ← match ← ahead with
    | .word w =>
      if ["function", "async", "class", "abstract", "interface"].contains w then
        -- A declaration may go without a name here, where it is read as an expression.
        match w, ← second with
        | "class", .word n =>
          pure (if n == "extends" || n == "implements" then none else some (classDeclaration g))
        | _, _ => declaration? g
      else pure none
    | .mark "@" => pure (some (classDeclaration g))
    | _ => pure none
  match declared with
  | some declaration =>
    -- What begins like a declaration may turn out to be an expression.
    orElse declaration do
      g.expression
      label .value
      semicolon { afterExpression := true }
  | none =>
    g.expression
    label .value
    semicolon { afterExpression := true }

/-- An export statement. -/
def exportStatement (g : Grammar) : Parse Unit := do
  let m ← mark
  decorators g
  keyword "export"
  match ← ahead with
  | .mark "*" =>
    let n ← mark
    symbol "*"
    -- All names may be exported under one.
    if ← optKeyword "as" then
      exportedName .identifier
      close .construct n
    fromClause
    importAttributes g
    semicolon {}
  | .mark "\x7b" =>
    exportClause
    if ← atWord "from" then
      fromClause
      importAttributes g
    semicolon {}
  | .mark "=" =>
    symbol "="
    g.expression
    semicolon { afterExpression := true }
  | .word "default" =>
    keyword "default"
    defaultExport g
  | .word "as" =>
    keyword "as"
    keyword "namespace"
    identifier
    semicolon {}
  | .word "namespace" => moduleDeclaration g "namespace"
  | .word w =>
    -- Only the types are exported.
    if w == "type" && (← second) == .mark "\x7b" then
      keyword w
      exportClause
      if ← atWord "from" then fromClause
      semicolon {}
    else
      match ← declaration? g with
      | some declaration => declaration
      | none => do
        -- the word fits nowhere behind "export", but a following lexeme may be what is wrong
        fail
  | .mark "@" => classDeclaration g
  | _ => fail
  close .exportStatement m

/-! ### Control -/

/-- The choice of a statement by a condition. -/
def ifStatement (g : Grammar) : Parse Unit := do
  let m ← mark
  keyword "if"
  condition g
  g.statement
  -- The branch belongs to the nearest condition.
  if ← atWord "else" then
    let e ← mark
    keyword "else"
    g.statement
    close .construct e
  close .construct m

/-- Statements up to the end of a case. -/
def caseBody (g : Grammar) : Parse Unit := many do
  if (← atMark "\x7d") || (← atWord "case") || (← atWord "default") || (← ahead) == .ending then return false
  g.statement
  return true

/-- The choice of a statement by a value. -/
def switchStatement (g : Grammar) : Parse Unit := do
  let m ← mark
  keyword "switch"
  condition g
  let b ← mark
  symbol "\x7b"
  enclosing false do
    many do
      let c ← mark
      if ← optKeyword "case" then expressions g
      -- The cases end where neither of the two words follows.
      else if !(← optKeyword "default") then return false
      symbol ":"
      caseBody g
      close .construct c
      return true
    symbol "\x7d"
  close .construct b
  close .construct m

/-- The head of a loop over the members of something. -/
def memberLoop (g : Grammar) : Parse Unit := do
  match ← ahead with
  | .word w =>
    if ["var", "let", "const"].contains w && (← second) != .word "in" && (← second) != .word "of" then
      keyword w
      bindingTarget g
      -- Only the oldest kind of variable may have a value here.
      if w == "var" then
        if ← optSymbol "=" then g.expression
    else g.reference
  | _ => g.reference
  label .left
  if !(← optKeyword "of") then keyword "in"
  expressions g
  label .right
  symbol ")"

/-- The head of a loop with a start, a condition and a step. -/
def steppedLoop (g : Grammar) : Parse Unit := do
  let emptyStatement : Parse Unit := do
    let e ← mark
    symbol ";"
    close .construct e
  match ← declaration? g with
  | some declaration => declaration
  | none =>
    -- Each of the three parts may be missing.
    if ← atMark ";" then emptyStatement
    else
      expressions g
      symbol ";"
  if ← atMark ";" then emptyStatement
  else
    expressions g
    symbol ";"
  if !(← atMark ")") then expressions g
  symbol ")"

/-- A counted loop or a loop over members. -/
def forStatement (g : Grammar) : Parse Unit := do
  let m ← mark
  keyword "for"
  let _ ← optKeyword "await"
  symbol "("
  -- Which kind of loop it is shows behind the first part only.
  enclosing true (orElse (memberLoop g) (steppedLoop g))
  g.statement
  label .body
  close .construct m

/-- A loop that tests before its body. -/
def whileStatement (g : Grammar) (w : String) : Parse Unit := do
  let m ← mark
  keyword w
  condition g
  g.statement
  close .construct m

/-- A loop that tests behind its body. -/
def doStatement (g : Grammar) : Parse Unit := do
  let m ← mark
  keyword "do"
  g.statement
  keyword "while"
  condition g
  -- The semicolon may be missing, wherever the next statement begins.
  if ← atMark ";" then symbol ";" else let _ ← impliedEnd {}
  close .construct m

/-- A block whose failures are caught. -/
def tryStatement (g : Grammar) : Parse Unit := do
  let m ← mark
  keyword "try"
  block g
  if ← atWord "catch" then
    let c ← mark
    keyword "catch"
    -- The failure need not have a name.
    if ← optSymbol "(" then
      bindingTarget g
      optTypeAnnotation g
      symbol ")"
    block g
    close .construct c
  if ← atWord "finally" then
    let f ← mark
    keyword "finally"
    block g
    close .construct f
  close .construct m

/-- A statement that leaves another one, by its label or without. -/
def jump (w : String) : Parse Unit := do
  let m ← mark
  keyword w
  match ← ahead with
  -- A label stands on the line of its word.
  | .word _ => if ← sameLine then name .construct
  | _ => pure ()
  semicolon {}
  close .construct m

/-- A word and the expression that it concerns. -/
def returnStatement (g : Grammar) : Parse Unit := do
  let m ← mark
  keyword "return"
  let hasValue ← match ← ahead with
    -- One of these marks ends the statement without a value.
    | .mark s => pure (!(["\x7d", ";", ")", "]", ",", ":"].contains s))
    | .ending => pure false
    | _ => pure true
  let hasValue := hasValue && (← sameLine)
  if hasValue then expressions g
  semicolon { afterExpression := hasValue }
  close .returnStatement m

/-- A thrown value. -/
def throwStatement (g : Grammar) : Parse Unit := do
  let m ← mark
  keyword "throw"
  expressions g
  semicolon { afterExpression := true }
  close .construct m

/-- An expression as a statement. -/
def expressionStatement (g : Grammar) : Parse Unit := do
  let m ← mark
  expressions g
  semicolon { afterExpression := true }
  close .construct m

/-- A statement with a label. -/
def labeled (g : Grammar) : Parse Unit := do
  let m ← mark
  name .construct
  symbol ":"
  g.statement
  close .construct m

/-- A block, or an object as a statement. -/
def braced (g : Grammar) : Parse Unit := do
  let isKeyed ← foresee (do symbol "\x7b"; name .token; symbol ":")
  if isKeyed then orElse (expressionStatement g) (block g)
  else orElse (block g) (expressionStatement g)

/-- A statement. -/
def statement (g : Grammar) : Parse Unit := do
  match ← ahead with
  | .mark ";" =>
    let m ← mark
    symbol ";"
    close .construct m
  | .mark "\x7b" => braced g
  | .mark "@" =>
    -- The decorators of an exported class may stand in front of the export.
    if ← foresee (do decorators g; keyword "export") then exportStatement g else classDeclaration g
  | .word w =>
    match w with
    | "if" => ifStatement g
    | "for" => forStatement g
    | "while" | "with" => whileStatement g w
    | "do" => doStatement g
    | "switch" => switchStatement g
    | "try" => tryStatement g
    | "break" | "continue" | "debugger" => jump w
    | "return" => returnStatement g
    | "throw" => throwStatement g
    | "export" => exportStatement g
    | "import" =>
      match ← second with
      -- These begin an expression: a module that is loaded on the way, or what is known about this one.
      | .mark "(" | .mark "." | .mark "<" => expressionStatement g
      | _ =>
        match ← declaration? g with
        | some declaration => declaration
        | none => importStatement g
    | _ =>
      -- A word with a colon behind it is a label, unless it has a meaning in expressions.
      if (← second) == .mark ":" && !expressionWords.contains w then labeled g
      else
        match ← declaration? g with
        | some declaration => declaration
        | none => expressionStatement g
  | _ => expressionStatement g

/-- The statements of a whole script, behind a first line that names its interpreter. -/
def script (g : Grammar) : Parse Unit := do
  let rest := (← state).next.rest
  if ['#', '!'].isPrefixOf rest then shift .construct (Lexeme.lineLength rest)
  many do
    skipMarkupComments
    -- The statements end with the text.
    if (← ahead) == .ending then return false
    g.statement
    return true
  flush

end LayerAudit.Script.Parse
