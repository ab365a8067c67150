import LayerAudit.Script.Cst
import LayerAudit.Script.Lexeme

/-!
Parsers of scripts. A parser moves over a text and keeps the nodes that it has finished, the latest first; closing a
construct gathers the nodes since its mark into one. A parser that gets stuck says where, with the nodes built so far.
Repairs are known beforehand: stretches that are passed over, and marks that are assumed where the text lacks them.
-/

namespace LayerAudit.Script

/-- What a parse depends on apart from the place in the text. -/
structure Setting where
  /-- An opening angle bracket at the start of an expression opens markup rather than a cast. -/
  markup : Bool
  /-- The stretches to pass over, in the order of the text. -/
  passed : List Span := []
  /-- The marks to assume, each before the lexeme at an offset, in the order of the text. -/
  assumed : List (Nat × String) := []
  /-- The offsets of words that count as names and never as keywords. -/
  bare : List Nat := []
  /-- More steps than any loop over the text takes. -/
  bound : Nat

/-- Where a parse got stuck: the offset of the lexeme that fits nowhere, and the nodes before it, the latest first. -/
structure Snag where
  offset : Nat
  built : List Cst
  deriving Inhabited

/-- How far a parse has come. -/
structure State where
  /-- The place right behind the last lexeme. -/
  last : Place
  /-- The place of the next lexeme. -/
  next : Place
  ahead : Lexeme.Ahead
  /-- Nodes that stand between the last lexeme and the next one. -/
  waiting : List Cst := []
  built : List Cst := []
  /-- The number of built nodes. -/
  size : Nat := 0
  /-- The marks still to assume. -/
  assumed : List (Nat × String)
  /-- The latest node stands for a mark that was assumed, and nothing has been read since. -/
  justAssumed : Bool := false
  /-- The parse is inside brackets, where no line end ends a statement. -/
  enclosed : Bool := false
  /-- A colon behind parentheses belongs to a choice around them and starts no result type. -/
  chosen : Bool := false
  /-- The farthest place at which some alternative got stuck. -/
  snag : Snag := ⟨0, []⟩

/-- The outcome of a parser. -/
inductive Outcome (α : Type)
  | done (value : α) (state : State)
  | stuck (snag : Snag)
  /-- The text nests deeper than any parser follows. -/
  | tooDeep

/-- A parser. -/
def Parse (α : Type) := Setting → State → Outcome α

namespace Parse

@[inline] instance : Monad Parse where
  pure a := fun _ state => .done a state
  bind p f := fun setting state =>
    -- A parser that is stuck or too deep ends the whole sequence.
    match p setting state with
    | .done a state => f a setting state
    | .stuck snag => .stuck snag
    | .tooDeep => .tooDeep

instance {α : Type} : Inhabited (Parse α) := ⟨fun _ _ => .tooDeep⟩

/-- The farther of two places to be stuck at, the earlier found of equal ones. -/
def farther (a b : Snag) : Snag := if a.offset < b.offset then b else a

/-- The state of the parse. -/
def state : Parse State := fun _ s => .done s s

/-- What the parse depends on. -/
def setting : Parse Setting := fun e s => .done e s

/-- What the next lexeme is. -/
def ahead : Parse Lexeme.Ahead := fun _ s => .done s.ahead s

/-- Get stuck at the next lexeme. -/
def fail {α : Type} : Parse α := fun _ s => .stuck (farther s.snag ⟨s.next.offset, s.waiting ++ s.built⟩)

/-- Give up because of deep nesting. -/
def exhausted {α : Type} : Parse α := fun _ _ => .tooDeep

/-- Run the second parser from the same place if the first gets stuck. -/
def orElse {α : Type} (p q : Parse α) : Parse α := fun e s =>
  match p e s with
  | .stuck snag => q e { s with snag := farther s.snag snag }
  | outcome => outcome

/-- Run a parser, and go back if it gets stuck. -/
def attempt (p : Parse Unit) : Parse Bool := orElse (do p; return true) (pure false)

/-- Whether a parser would get through from here. Nothing is read. -/
def foresee (p : Parse Unit) : Parse Bool := fun e s =>
  match p e s with
  | .done _ _ => .done true s
  | .stuck _ => .done false s
  | .tooDeep => .tooDeep

/-- Get stuck unless a condition holds. -/
def guard (condition : Bool) : Parse Unit := if condition then pure () else fail

/-- Repeat a step as long as it says so. -/
def repeating (step : Parse Bool) : Nat → Parse Unit
  | 0 => fail
  | fuel + 1 => do if ← step then repeating step fuel

/-- Repeat a step that reads something each time, as long as it says so. -/
def many (step : Parse Bool) : Parse Unit := fun e s => repeating step e.bound e s

/-! ### Moving over the text -/

/-- A node around a stretch that is passed over. -/
def errorNode (span : Span) : Cst := .mk { role := .error, span, extra := true } []

/-- The number of characters up to an offset. -/
def countTo (stop : Nat) : List Char → Nat → Nat
  | [], _ => 0
  | c :: rest, n => if n < stop then 1 + countTo stop rest (n + c.utf8Size) else 0

/-- Move to the next lexeme at or behind a place, past the stretches that begin where a lexeme would. -/
def settle (e : Setting) (place : Place) (s : State) : State :=
  let start : State := { s with last := place, next := Lexeme.nextLexeme place }
  let s := e.passed.foldl (fun s span =>
    -- A stretch counts only if it begins exactly where the next lexeme would.
    if span.start == s.next.offset && span.start < span.stop then
      let count := countTo span.stop s.next.rest s.next.offset
      let place := s.next.skip count
      { s with last := place, next := Lexeme.nextLexeme place, waiting := errorNode span :: s.waiting }
    else s) start
  let ahead := match Lexeme.ahead s.next.rest with
    -- A word that may be a name only is told from a keyword here, and nowhere else.
    | .word w => if e.bare.contains s.next.offset then .bareName w else .word w
    | other => other
  { s with ahead, justAssumed := false }

/-- Add the nodes that stand between lexemes. -/
def flush : Parse Unit := fun _ s =>
  .done () (if s.waiting.isEmpty then s else
    { s with built := s.waiting ++ s.built, size := s.size + s.waiting.length, waiting := [] })

/-- Add a finished node. -/
def push (node : Cst) : Parse Unit := fun _ s => .done () { s with built := node :: s.built, size := s.size + 1 }

/-- Read the next so many characters as a node without parts. -/
def shift (role : Role) (length : Nat) : Parse Unit := do
  -- What stands between the lexemes comes before the new node.
  flush
  fun e s =>
    let place := s.next.skip length
    let node := Cst.mk { role, span := ⟨s.next.offset, place.offset⟩ } []
    .done () (settle e place { s with built := node :: s.built, size := s.size + 1 })

/-- Read so many characters right behind the last lexeme as a node without parts. -/
def shiftClose (role : Role) (length : Nat) : Parse Unit := fun e s =>
  let place := s.last.skip length
  let node := Cst.mk { role, span := ⟨s.last.offset, place.offset⟩ } []
  .done () (settle e place { s with built := node :: s.built, size := s.size + 1 })

/-- The mark of a construct that starts with the next lexeme. -/
def mark : Parse Nat := do
  flush
  return (← state).size

/-- Gather the nodes since a mark into one. -/
def close (role : Role) (mark : Nat) : Parse Unit := fun _ s =>
  let count := s.size - mark
  let parts := (s.built.take count).reverse
  -- A construct without parts lies at the next lexeme, and covers nothing.
  let span : Span :=
    match parts.head?, s.built.head? with
    | some first, some latest => ⟨first.span.start, if count = 0 then first.span.stop else latest.span.stop⟩
    | _, _ => ⟨s.next.offset, s.next.offset⟩
  .done () { s with built := Cst.mk { role, span } parts :: s.built.drop count, size := mark + 1 }

/-- Say which part the latest node plays in its parent. -/
def label (l : Label) : Parse Unit := fun _ s =>
  .done () (match s.built with
    | node :: rest => { s with built := node.withLabel l :: rest }
    | [] => s)

/-- What the latest node is. -/
def latestRole : Parse Role := return ((← state).built.head?.map Cst.role).getD .token

/-- Give the latest node another role. -/
def recast (role : Role) : Parse Unit := fun _ s =>
  .done () (match s.built with
    | .mk head parts :: rest => { s with built := .mk { head with role } parts :: rest }
    | [] => s)

/-- Read inside brackets. -/
def enclosing (inside : Bool) (p : Parse Unit) : Parse Unit := fun e s =>
  match p e { s with enclosed := inside, chosen := false } with
  | .done _ after => .done () { after with enclosed := s.enclosed, chosen := s.chosen }
  | outcome => outcome

/-- Read what a choice takes if its condition holds. -/
def choosing (p : Parse Unit) : Parse Unit := fun e s =>
  match p e { s with chosen := true } with
  | .done _ after => .done () { after with chosen := s.chosen }
  | outcome => outcome

/-! ### Lexemes -/

/-- The next lexeme is a mark. -/
def atMark (m : String) : Parse Bool := return (← ahead) == .mark m

/-- The next lexeme is a word. -/
def atWord (w : String) : Parse Bool := return (← ahead) == .word w

/-- The next lexeme is one of some marks. -/
def atMarkOf (ms : List String) : Parse Bool := do
  match ← ahead with
  | .mark m => return ms.contains m
  | _ => return false

/-- The next lexeme is one of some words. -/
def atWordOf (ws : List String) : Parse Bool := do
  match ← ahead with
  | .word w => return ws.contains w
  | _ => return false

/-- Read the next lexeme, which is a mark or a word of a known text. -/
def shiftText (role : Role) (text : String) : Parse Unit := shift role text.length

/-- Stand a mark in for one that the text lacks. -/
def assumeMark (m : String) : Parse Bool := fun _ s =>
  match s.assumed with
  | (offset, assumed) :: rest =>
    -- A mark is assumed only at the lexeme for which the repairs name it.
    if assumed == m && offset == s.next.offset then
      let role : Role := if m == "name" then .identifier else .token
      let node := Cst.mk { role, span := ⟨s.last.offset, s.last.offset⟩, missing := true } []
      .done true { s with built := node :: s.built, size := s.size + 1, assumed := rest, justAssumed := true }
    else .done false s
  | [] => .done false s

/-- Read a mark. -/
def symbol (m : String) : Parse Unit := do
  if ← atMark m then shiftText .token m
  else if ← assumeMark m then pure ()
  else fail

/-- Read a mark if it is next. -/
def optSymbol (m : String) : Parse Bool := do
  if ← atMark m then shiftText .token m; return true
  else return false

/-- Read a keyword. -/
def keyword (w : String) : Parse Unit := do
  if ← atWord w then shiftText .token w else fail

/-- Read a keyword if it is next. -/
def optKeyword (w : String) : Parse Bool := do
  if ← atWord w then shiftText .token w; return true
  else return false

/-- Words that no longer count as names right behind damage. -/
def firmWords : List String :=
  ["break", "case", "catch", "class", "const", "continue", "debugger", "default", "delete", "do", "else",
    "enum", "export", "extends", "finally", "for", "function", "if", "import", "in", "instanceof",
    "interface", "new", "null", "return", "super", "switch", "this", "throw", "true", "false", "try",
    "typeof", "var", "void", "while", "with"]

/-- Read a word as a node. -/
def name (role : Role) : Parse Unit := do
  match ← ahead with
  | .word w =>
    -- Behind damage the next statement is told by its first word.
    if !(← state).waiting.isEmpty && firmWords.contains w then fail else shiftText role w
  | .bareName w => shiftText role w
  -- A name can be assumed like a mark.
  | _ => if role == .identifier && (← assumeMark "name") then pure () else fail

/-- The lexeme behind the next one, which is a mark or a word. -/
def second : Parse Lexeme.Ahead := do
  let s ← state
  match s.ahead with
  | .word w | .mark w => return Lexeme.ahead (Lexeme.nextLexeme (s.next.skip w.length)).rest
  | _ => return .ending

/-- The next lexeme is a word or a mark behind which the line breaks. -/
def breaksAfter : Parse Bool := do
  let s ← state
  match s.ahead with
  | .word w | .mark w => return Lexeme.breaksLine s.next.rest.length (s.next.skip w.length)
  | _ => return false

/-- No line end before the next lexeme could end a statement. -/
def sameLine : Parse Bool := do
  let s ← state
  return s.enclosed || !Lexeme.breaksLine (s.last.rest.length + 1) s.last

/-- Add the empty node of a statement's end that is not written, if there is one. Damage is never followed by one. -/
def impliedEnd (ending : Lexeme.Ending) : Parse Bool := fun e s =>
  -- Neither an assumed mark nor damage has an end of its own.
  if s.justAssumed || !s.waiting.isEmpty then .done false s else
  match Lexeme.statementEnd? ending (s.last.rest.length + 1) s.last with
  | some place =>
    let node := Cst.mk { role := .token, span := ⟨place.offset, place.offset⟩ } []
    .done true (settle e place { s with built := node :: s.built, size := s.size + 1 })
  | none => .done false s

/-- Read the end of a statement. -/
def semicolon (ending : Lexeme.Ending := {}) : Parse Unit := do
  if ← atMark ";" then shiftText .token ";"
  else if ← impliedEnd ending then pure ()
  else fail

/-- Read items between commas up to a closing mark. A step reads one item, or nothing where none stands. -/
def commaList (closing : String) (item : Parse Unit) (gaps : Bool := false) : Parse Unit := do
  many do
    if ← atMark closing then return false
    -- A comma alone stands for an item that is left out.
    if gaps && (← atMark ",") then
      symbol ","
      return true
    item
    -- A comma may stand behind the last item, too.
    optSymbol ","
  symbol closing

/-- Read one or more items between commas. -/
def commaItems (item : Parse Unit) : Parse Unit := do
  item
  many do
    if ← optSymbol "," then item; return true
    else return false

end Parse

end LayerAudit.Script
