import LayerAudit.Script.Grammar.Classes
import LayerAudit.Script.Grammar.Markup

/-!
Expressions. Infix operators have levels; casts and assertions of presence take all of a left-associative chain before
them as their operand, and the right operand alone where operators group to the right.
-/

namespace LayerAudit.Script.Parse

/-- Words that start something else than a name where an expression starts. -/
def expressionWords : List String :=
  ["function", "class", "new", "this", "super", "true", "false", "null", "undefined", "import", "typeof",
    "void", "delete", "await", "yield", "using"]

/-- The arguments of a call. -/
def arguments (g : Grammar) : Parse Unit := do
  let m ← mark
  symbol "("
  enclosing true do
    commaList ")" (do
      if ← atMark "..." then spread g.expression else g.expression) true
  close .construct m

/-- Type arguments behind an expression, if what follows shows that they are no comparison. -/
def appliedTypes (g : Grammar) (mayStandAlone : Bool) : Parse Bool := attempt do
  typeArguments g
  -- Alone, a name with type arguments is an expression only before something that cannot go on as a comparison.
  if mayStandAlone then
    match ← ahead with
    | .mark m => guard (["(", "\x60", ")", "]", "\x7d", ",", ";", ":", "?.", "="].contains m)
    | .ending => pure ()
    | _ => fail
  else guard (← atMark "(")

/-- Members, calls and templates behind an expression that starts at a mark. -/
def accesses (g : Grammar) (m : Nat) (withCalls : Bool) : Parse Unit := many do
  match ← ahead with
  | .mark "." =>
    label .object
    symbol "."
    -- A hidden name is read as one, since its mark is part of it.
    if (← ahead) == .hidden then hiddenName else name .propertyName
    label .property
    close .member m
    return true
  | .mark "?." =>
    if !withCalls then return false
    -- An optional call, an optional subscript, or an optional member.
    match ← second with
    | .mark "(" | .mark "<" =>
      label .function
      symbol "?."
      if ← atChar '<' then typeArguments g
      arguments g
      label .arguments
      close .call m
    | .mark "[" =>
      label .object
      shiftText .construct "?."
      symbol "["
      enclosing true do
        expressions g
        symbol "]"
      close .subscript m
    | _ =>
      label .object
      shiftText .construct "?."
      if (← ahead) == .hidden then hiddenName else name .propertyName
      label .property
      close .member m
    return true
  | .mark "[" =>
    label .object
    symbol "["
    enclosing true do
      expressions g
      symbol "]"
    close .subscript m
    return true
  | .mark "(" =>
    -- What is constructed takes no arguments here: they belong to the construction.
    if !withCalls then return false
    label .function
    arguments g
    label .arguments
    close .call m
    return true
  | .mark "\x60" =>
    label .function
    template g
    label .arguments
    close .call m
    return true
  | .mark "<" | .mark "<<" =>
    if !withCalls then return false
    let before ← latestRole
    -- Numbers, texts and the word of an import take no type arguments, so a comparison follows.
    if before == .number || before == .string || before == .importWord then return false
    -- If the reading as types fails, nothing is read and the chain ends before the comparison.
    if ← appliedTypes g true then
      if ← atMark "(" then
        -- the types stand between the function and its arguments
        fun _ s => .done () (match s.built with
          | types :: function :: rest => { s with built := types :: function.withLabel .function :: rest }
          | _ => s)
        arguments g
        label .arguments
        close .call m
      else close .construct m
      return true
    else return false
  | _ => return false

/-- A new object. -/
def construction (g : Grammar) (primary : Parse Unit) : Parse Unit := do
  let m ← mark
  keyword "new"
  if ← atMark "." then
    -- The target of a construction is a member of the word.
    symbol "."
    keyword "target"
    close .construct m
  else
    let c ← mark
    if ← atWord "new" then g.reference
    else
      -- Accesses bind tighter than the construction, calls do not.
      primary
      accesses g c false
      many do
        if (← atMark "!") && (← sameLine) then
          symbol "!"
          close .nonNull c
          accesses g c false
          return true
        else return false
    if ← atChar '<' then let _ ← appliedTypes g false
    if ← atMark "(" then
      arguments g
      label .arguments
    close .construct m

/-- An expression in parentheses, or the parameters of a function with an arrow. -/
def parenthesized (g : Grammar) : Parse Unit := do
  let closing ← aheadOfClosing
  let group : Parse Unit := do
    let m ← mark
    symbol "("
    enclosing true do
      expressions g
      if ← atMark ":" then typeAnnotation g
      symbol ")"
    close .group m
  -- What stands behind the closing bracket decides. Before a colon both readings are possible.
  match closing with
  | some (.mark "=>") => arrowFunction g
  | some (.mark ":") => if (← state).chosen then group else orElse (arrowFunction g) group
  | _ => group

/-- An expression that starts with a word. -/
def wordExpression (g : Grammar) (primary : Parse Unit) (w : String) : Parse Unit := do
  let next ← second
  match w with
  | "function" => functionExpression g
  -- Words that start an expression of their own. Any other word is a name, or a parameter before an arrow.
  | "class" => classExpression g
  | "new" => construction g primary
  | "this" => shiftText .this w
  | "super" | "true" | "false" | "null" => shiftText .construct w
  | "undefined" => if next == .mark "=>" then shortArrow g else shiftText .construct w
  | "import" =>
    -- An import stands as a member or as a function that is called, and is a statement otherwise.
    if next == .mark "." then
      let m ← mark
      shiftText .token w
      symbol "."
      keyword "meta"
      close .construct m
    else if next == .mark "(" || next == .mark "<" then shiftText .importWord w
    else fail
  | "async" =>
    match next with
    -- A function, a function with an arrow, or the plain name.
    | .word "function" => functionExpression g
    | .mark "=>" => shortArrow g
    | .word _ =>
      -- One word more can be a parameter, which only the arrow behind it tells.
      if ← foresee (do keyword w; identifier; symbol "=>") then shortArrow g else identifier
    | .mark "(" =>
      let closing ← (do
        -- The bracket stands behind the word, so the text behind it is looked at from there.
        let s ← state
        let place := Lexeme.nextLexeme (s.next.skip w.length)
        return (behindBracket? (place.rest.length + 1) 1 '(' (place.rest.drop 1)).map fun after =>
          Lexeme.ahead (Lexeme.nextLexeme ⟨after, 0⟩).rest)
      match closing with
      | some (.mark "=>") => arrowFunction g
      | some (.mark ":") => if (← state).chosen then identifier else orElse (arrowFunction g) identifier
      | _ => identifier
    | .mark "<" => orElse (arrowFunction g) identifier
    | _ => identifier
  | "namespace" =>
    -- A word behind it on the same line is the name of a namespace.
    match next with
    | .word _ =>
      if ← breaksAfter then identifier
      else
        let m ← mark
        keyword w
        dottedName
        if ← atMark "\x7b" then block g
        close .construct m
    | _ => if next == .mark "=>" then shortArrow g else identifier
  | _ => if next == .mark "=>" then shortArrow g else identifier

/-- An expression without operators, members and calls. -/
def atom (g : Grammar) (primary : Parse Unit) : Parse Unit := do
  match ← ahead with
  | .word w => wordExpression g primary w
  | .bareName _ => identifier
  | .number => number
  | .quote _ => string
  | .hidden => hiddenName
  | .mark "\x60" => template g
  | .mark "(" => parenthesized g
  -- A list of values before an equals sign is read once more, as the pattern that it is.
  | .mark "[" => orElse (do array g; guard !(← atMark "=")) (do arrayPattern g; guard (← atMark "="))
  | .mark "\x7b" => orElse (do object g; guard !(← atMark "=")) (do objectPattern g; guard (← atMark "="))
  | .mark "/" | .mark "/=" => regularExpression
  | .mark "@" => classExpression g
  | .mark "<" =>
    -- Where a file has markup, an angle opens an element, unless type parameters cannot be mistaken for one.
    if (← setting).markup then
      orElse (do
        guard (← foresee (do
          angle '<'
          typeName
          guard ((← atWord "extends") || (← atMark ","))))
        arrowFunction g) (element g)
    else arrowFunction g
  -- What no branch reads fails as a name, so that the error names the place.
  | _ => identifier

/-- The marks that assign by an operation. -/
def updatingMarks : List String :=
  ["+=", "-=", "*=", "/=", "%=", "^=", "&=", "|=", ">>=", ">>>=", "<<=", "**=", "&&=", "||=", "??="]

/-- An assignment to, or an update of, the expression that starts at a mark. -/
def assignmentTo (g : Grammar) (m : Nat) : Parse Unit := do
  let target ← latestRole
  match ← ahead with
  | .mark s =>
    -- A mark of counting behind a line break belongs to what follows.
    if (s == "++" || s == "--") && (← sameLine) then
      label .argument
      symbol s
      close .update m
    -- Words first, then the marks from the loosest to the tightest.
    else if s == "=" then
      -- Only an expression that can be assigned to takes the mark. Otherwise it stays for what comes around.
      if isTarget target || target == .group || target == .construct || target == .array ||
          target == .object then
        label .left
        symbol s
        g.expression
        label .right
        close .assignment m
    else if updatingMarks.contains s then
      if isTarget target || target == .group then
        label .left
        symbol s
        g.expression
        label .right
        close .assignment m
  | _ => pure ()

/-- The level of an infix operator, and whether it groups to the right. -/
def infixLevel? : Lexeme.Ahead → Option (Nat × Bool)
  | .word "in" | .word "instanceof" => some (8, false)
  | .mark m =>
    match m with
    | "??" => some (1, false)
    | "||" => some (2, false)
    | "&&" => some (3, false)
    | "|" => some (4, false)
    | "^" => some (5, false)
    | "&" => some (6, false)
    | "==" | "!=" | "===" | "!==" => some (7, false)
    | "<" | ">" | "<=" | ">=" => some (8, false)
    | "<<" | ">>" | ">>>" => some (9, false)
    | "+" | "-" => some (10, false)
    | "*" | "/" | "%" => some (11, false)
    | "**" => some (12, true)
    | _ => none
  | _ => none

/-- Casts and assertions of presence behind the expression that starts at a mark. One is read at a time. -/
def castBehind (g : Grammar) (m : Nat) : Parse Bool := do
  if (← atMark "!") && (← sameLine) then
    symbol "!"
    close .nonNull m
    accesses g m true
    assignmentTo g m
    return true
  else if ((← atWord "as") || (← atWord "satisfies")) && (← sameLine) then
    -- The two words of a cast are read alike.
    match ← ahead with
    | .word w => keyword w
    | _ => fail
    g.anyType
    close .cast m
    return true
  else return false

/-- Infix operators from a level on. -/
def infixChain (g : Grammar) (least : Nat) (withCasts : Bool) : Parse Unit := do
  let m ← mark
  g.operand
  many do
    match infixLevel? (← ahead) with
    | some (level, groupsRight) =>
      -- A looser operator is left to the chain around this one.
      if level < least then return false
      match ← ahead with
      | .mark s | .word s => shiftText .token s
      | _ => fail
      -- An operator that groups to the left leaves its own level to the loop, and so takes a tighter operand.
      if groupsRight then g.infixed level true else g.infixed (level + 1) false
      close .construct m
      return true
    -- Casts take all of the chain before them, hence at the mark where it starts.
    | none => if withCasts then castBehind g m else return false

/-- The value that a generator hands out. -/
def yielded (g : Grammar) : Parse Unit := do
  let m ← mark
  keyword "yield"
  -- A star hands out the values of another generator, and so needs one.
  if ← optSymbol "*" then g.expression
  else if ← sameLine then
    match ← ahead with
    -- Nothing is handed out where something follows that closes or separates.
    | .mark s =>
      if [")", "]", "\x7d", ",", ";", ":", "=>", "=", "?", "."].contains s then pure () else g.expression
    | .word w => if w == "in" || w == "of" || w == "as" then pure () else g.expression
    | .ending => pure ()
    | _ => g.expression
  close .construct m

/-- An expression that binds tighter than every infix operator. -/
def operandOf (g : Grammar) (primary : Parse Unit) : Parse Unit := do
  skipMarkupComments
  -- The cases are the first lexeme: signs, counting, a cast in angles, the words that stand before an operand, and the
  -- rest.
  let m ← mark
  let signed (s : String) : Parse Unit := do
    shiftText .token s
    g.operand
    label .argument
    close .construct m
  let plain : Parse Unit := do
    primary
    accesses g m true
    assignmentTo g m
  match ← ahead with
  | .mark s =>
    if ["!", "~", "-", "+"].contains s then signed s
    else if s == "++" || s == "--" then
      symbol s
      g.operand
      label .argument
      close .update m
    -- Without markup an angle starts a function with type parameters or a cast, in that order.
    else if (s == "<" || s == "<<") && !(← setting).markup then
      orElse plain do
        typeArguments g
        g.operand
        close .construct m
    else plain
  | .word w =>
    if ["typeof", "void", "delete"].contains w then signed w
    else if w == "await" then
      keyword w
      let e ← mark
      g.operand
      -- A cast behind the operand takes what was awaited.
      many (castBehind g e)
      close .construct m
    else if w == "yield" then yielded g
    -- A declaration read as an expression must go on with its value.
    else if w == "using" then
      keyword w
      g.reference
      guard (← atMark "=")
      label .left
      symbol "="
      g.expression
      label .right
      close .assignment m
    else plain
  | _ => plain

/-- The two ends of a choice. A colon behind parentheses separates them, unless one more colon follows. -/
def choiceEnds (g : Grammar) : Parse Unit := do
  let separated : Parse Unit := do
    choosing g.expression
    symbol ":"
    g.expression
  -- Both readings of the parentheses are tried, first the one in which the colon behind them separates.
  if !(← state).chosen && (← atMark "(") && (← aheadOfClosing) == some (.mark ":") then
    orElse (do separated; guard !(← atMark ":")) do
      orElse (do g.expression; symbol ":"; g.expression) separated
  else separated

/-- A choice between two expressions, or an expression without one. -/
def choice (g : Grammar) : Parse Unit := do
  let m ← mark
  g.infixed 0 true
  if ← atMark "?" then
    symbol "?"
    choiceEnds g
    close .construct m

/-- A name, or a place that is read off another expression. -/
def referenceOf (g : Grammar) (primary : Parse Unit) : Parse Unit := do
  let m ← mark
  -- A pattern stands for a place as well. If it cannot be read, nothing is read, and the list is a value.
  match ← ahead with
  | .mark "[" => if ← attempt (arrayPattern g) then return
  | .mark "\x7b" => if ← attempt (objectPattern g) then return
  | _ => pure ()
  if ← atWord "new" then construction g primary
  else
    primary
    accesses g m true
    many do
      -- An assertion of presence may stand between accesses.
      if (← atMark "!") && (← sameLine) then
        symbol "!"
        close .nonNull m
        accesses g m true
        return true
      else return false

end LayerAudit.Script.Parse
