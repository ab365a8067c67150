import LayerAudit.Pattern.Basic
import LayerAudit.Pattern.Property

/-!
Reading patterns. A pattern has the usual marks for groups, sets, repetitions and places; it cannot look ahead or refer
back to a group. A text that is no pattern is refused as a whole, and so is one that nests too deeply or describes too
much.
-/

namespace LayerAudit

namespace Pattern

/-- How the marks of a pattern are understood from some point on. -/
structure Mode where
  caseless : Bool := false
  /-- The marks for the start and the end of the text stand for lines. -/
  lines : Bool := false
  /-- The dot stands for line ends too. -/
  dotAll : Bool := false
  /-- Blanks and comments in the pattern do not count. -/
  spaced : Bool := false
  /-- A carriage return ends a line too. -/
  anyLineEnd : Bool := false
  /-- Classes are limited to the first 128 code points. -/
  plain : Bool := false
  deriving DecidableEq, Repr, Inhabited

/-- The text behind blanks and comments. -/
def skipSpaced (inComment : Bool) : List Char → List Char
  | [] => []
  | c :: rest =>
    if inComment then skipSpaced (c != '\n') rest
    else if Text.isBlank c then skipSpaced false rest
    else if c == '#' then skipSpaced true rest
    else c :: rest

/-- The text behind what does not count. -/
def Mode.skip (mode : Mode) (s : List Char) : List Char := if mode.spaced then skipSpaced false s else s

/-! ### Classes and escapes -/

/-- The decimal digits of a mode. -/
def Mode.digits (mode : Mode) : CharSet := if mode.plain then .range '0' '9' else .digit

/-- The white space of a mode. -/
def Mode.blanks (mode : Mode) : CharSet := if mode.plain then (CharSet.ofName? "space").getD .nothing else .blank

/-- The word characters of a mode. -/
def Mode.words (mode : Mode) : CharSet := if mode.plain then (CharSet.ofName? "word").getD .nothing else .word

/-- The complement of a set, which no plain mode has. -/
def Mode.without? (mode : Mode) (set : CharSet) : Option CharSet :=
  if mode.plain then none else some (.complement set)

/-- A set in any letter case if the mode wants it. -/
def Mode.cased (mode : Mode) (set : CharSet) : CharSet := if mode.caseless then .caseless set else set

/-- What stands for one character or for a place. -/
inductive Atom
  | char (c : Char)
  | set (set : CharSet)
  | look (look : Look)
  deriving DecidableEq, Repr, Inhabited

/-- The value of hexadecimal digits, if there are only such. -/
def hexValue? (digits : List Char) : Option Nat :=
  digits.foldl (fun value c => value.bind fun v =>
    if '0' ≤ c ∧ c ≤ '9' then some (16 * v + (c.toNat - '0'.toNat))
    else if 'a' ≤ c.toLower ∧ c.toLower ≤ 'f' then some (16 * v + (c.toLower.toNat - 'a'.toNat + 10))
    else none) (some 0)

/-- The character with a code point in hexadecimal digits. -/
def hexChar? (digits : List Char) : Option Char :=
  if digits.isEmpty then none
  else (hexValue? digits).bind fun v => if Nat.isValidChar v then some (Char.ofNat v) else none

/-- The character of an escape with its digits: so many of them, or any number between braces. -/
def hexEscape? (mode : Mode) (count : Nat) (s : List Char) : Option (Char × List Char) :=
  match mode.skip s with
  | '\x7b' :: rest =>
    let digits := rest.takeWhile (· != '\x7d')
    -- A brace that is never closed begins no escape.
    if digits.length < rest.length then
      (hexChar? (digits.filter fun c => !(mode.spaced && Text.isBlank c))).map fun c =>
        (c, rest.drop (digits.length + 1))
    else none
  | s =>
    -- Without braces the number of digits is fixed.
    if count ≤ s.length then (hexChar? (s.take count)).map fun c => (c, s.drop count) else none

/-- The name between braces of an edge of words, if the braces hold no count. -/
def edgeName? (mode : Mode) (s : List Char) : Option (List Char) :=
  match s with
  | '\x7b' :: rest =>
    let rest := mode.skip rest
    -- What begins with a digit is a count of repetitions, and the edge stands alone.
    if rest.head?.all fun c => c.isAlpha || c == '-' then some (rest.takeWhile (· != '\x7d')) else none
  | _ => none

/-- The place that an escaped letter b stands for. -/
def wordEdge? (mode : Mode) (s : List Char) : Option (Atom × List Char) :=
  match edgeName? mode s with
  | none => some (.look (.wordEdge mode.words), s)
  | some name =>
    let behind := (s.dropWhile (· != '\x7d')).drop 1
    -- A brace that is never closed is no name.
    if (s.dropWhile (· != '\x7d')).isEmpty then none
    else if name == "start".toList then some (.look (.wordStart mode.words), behind)
    else if name == "end".toList then some (.look (.wordEnd mode.words), behind)
    else if name == "start-half".toList then some (.look (.noWordBefore mode.words), behind)
    else if name == "end-half".toList then some (.look (.noWordAfter mode.words), behind)
    else none

/-- The text up to a closing brace, and the text behind that. -/
def braced? (mode : Mode) (inComment : Bool) : List Char → Option (List Char × List Char)
  | [] => none
  | c :: rest =>
    if inComment then braced? mode (c != '\n') rest
    -- Blanks and comments inside of the name do not count in this mode.
    else if mode.spaced && Text.isBlank c then braced? mode false rest
    else if mode.spaced && c == '#' then braced? mode true rest
    else if c == '\x7d' then some ([], rest)
    else (braced? mode false rest).map fun (name, behind) => (c :: name, behind)

/-- The texts before and after the first occurrence of some signs. -/
def cutAt? (signs : List Char) : List Char → Option (List Char × List Char)
  | [] => none
  | c :: rest =>
    if signs.isPrefixOf (c :: rest) then some ([], (c :: rest).drop signs.length)
    else (cutAt? signs rest).map fun (before, behind) => (c :: before, behind)

/-- The set of characters with a property. Which of the three signs stands in front of a value makes no difference. -/
def propertySet? (name : List Char) : Option CharSet :=
  match (cutAt? ['!', '='] name).or ((cutAt? [':'] name).or (cutAt? ['='] name)) with
  | some (property, value) => CharSet.ofPropertyValue? property value
  | none => CharSet.ofProperty? name

/-- The set that an escaped letter p stands for, by a name between braces or of one letter. -/
def property? (mode : Mode) (negated : Bool) (s : List Char) : Option (Atom × List Char) := do
  let (name, behind) ← match mode.skip s with
    -- There has to be a name, and a backslash is none.
    | [] | '\\' :: _ => none
    | '\x7b' :: rest => braced? mode false rest
    | c :: rest => some ([c], rest)
  -- A property goes beyond the first 128 code points.
  if mode.plain then none
  else
    let set := mode.cased (← propertySet? name)
    return (.set (if negated then .complement set else set), behind)

/-- A character of the first 128 code points that stands for itself behind a backslash. -/
def isEscapable (c : Char) : Bool := c.toNat < 128 && !c.isAlphanum && c != '<' && c != '>'

/-- What a backslash and the text behind it stand for. -/
def escape? (mode : Mode) : List Char → Option (Atom × List Char)
  | [] => none
  | c :: rest =>
    -- The letters for sets come first, then those for characters and places.
    match c with
    | 'd' => some (.set mode.digits, rest)
    | 's' => some (.set mode.blanks, rest)
    | 'w' => some (.set mode.words, rest)
    -- The complement of a set goes beyond the first 128 code points.
    | 'D' => (mode.without? mode.digits).map fun set => (.set set, rest)
    | 'S' => (mode.without? mode.blanks).map fun set => (.set set, rest)
    | 'W' => (mode.without? mode.words).map fun set => (.set set, rest)
    | 'p' => property? mode false rest
    | 'P' => property? mode true rest
    | 'a' => some (.char '\x07', rest)
    | 'f' => some (.char '\x0C', rest)
    | 't' => some (.char '\t', rest)
    | 'n' => some (.char '\n', rest)
    | 'r' => some (.char '\r', rest)
    | 'v' => some (.char '\x0B', rest)
    | 'x' => (hexEscape? mode 2 rest).map fun (c, rest) => (.char c, rest)
    | 'u' => (hexEscape? mode 4 rest).map fun (c, rest) => (.char c, rest)
    | 'U' => (hexEscape? mode 8 rest).map fun (c, rest) => (.char c, rest)
    | 'A' => some (.look .textStart, rest)
    | 'z' => some (.look .textEnd, rest)
    | 'b' => wordEdge? mode rest
    | 'B' => some (.look (.noWordEdge mode.words), rest)
    | '<' => some (.look (.wordStart mode.words), rest)
    | '>' => some (.look (.wordEnd mode.words), rest)
    -- No letter without a meaning may be escaped, as it could be given one.
    | _ => if isEscapable c then some (.char c, rest) else none

/-! ### Sets in brackets -/

/-- What joins two sets in brackets. -/
inductive SetJoin
  | common | minus | unshared
  deriving DecidableEq, Repr, Inhabited

/-- The set that two sets are joined to. -/
def SetJoin.apply : SetJoin → CharSet → CharSet → CharSet
  | common => .common
  | minus => .minus
  | unshared => .unshared

/-- How deep some parts are nested together: one deeper than the deepest if there are several. -/
def nested (depths : List Nat) : Nat :=
  match depths with
  | [] => 0
  | [depth] => depth
  | depths => depths.foldl max 0 + 1

/-- An opened bracket: the members so far, the set that they are to be joined with, and how deep both are nested. -/
structure Bracket where
  negated : Bool
  members : CharSet := .nothing
  depths : List Nat := []
  left : Option (SetJoin × CharSet × Nat) := none
  deriving DecidableEq, Repr, Inhabited

namespace Bracket

/-- The set up to here. -/
def soFar (mode : Mode) (bracket : Bracket) : CharSet :=
  match bracket.left with
  | none => bracket.members
  | some (join, left, _) => join.apply (mode.cased left) (mode.cased bracket.members)

/-- How deep the set up to here is nested. -/
def depth (bracket : Bracket) : Nat :=
  match bracket.left with
  | none => nested bracket.depths
  | some (_, _, depth) => max depth (nested bracket.depths) + 1

/-- The set of the whole bracket. -/
def close? (mode : Mode) (bracket : Bracket) : Option CharSet :=
  let set := mode.cased (bracket.soFar mode)
  if bracket.negated then mode.without? set else some set

/-- The bracket with one more set of members, nested so deep. -/
def add (set : CharSet) (depth : Nat) (bracket : Bracket) : Bracket :=
  { bracket with members := .union bracket.members set, depths := depth :: bracket.depths }

/-- The bracket as the left side of a join. -/
def joinedBy (mode : Mode) (join : SetJoin) (bracket : Bracket) : Bracket :=
  { bracket with members := .nothing, depths := [], left := some (join, bracket.soFar mode, bracket.depth) }

end Bracket

/-- A bracket that opens in front of a text: it may be negated, and hyphens or else a closing bracket at its start are
members. -/
def openBracket (mode : Mode) (s : List Char) : Bracket × List Char :=
  let s := mode.skip s
  let negated := s.head? == some '^'
  let s := mode.skip (if negated then s.drop 1 else s)
  let hyphens := (s.takeWhile (· == '-')).length
  -- A hyphen at the start is a character, as no range can begin there.
  if 0 < hyphens then
    ({ negated, members := .single '-', depths := List.replicate hyphens 0 }, s.drop hyphens)
  -- So is a closing bracket, as an empty bracket would hold nothing.
  else if s.head? == some ']' then ({ negated, members := .single ']', depths := [0] }, s.drop 1)
  else ({ negated }, s)

/-- A named set between brackets and colons. -/
def namedSet? (s : List Char) : Option (Bool × CharSet × List Char) :=
  match s with
  | '[' :: ':' :: rest =>
    let negated := rest.head? == some '^'
    let rest := if negated then rest.drop 1 else rest
    let name := rest.takeWhile (· != ':')
    match rest.drop name.length with
    | ':' :: ']' :: behind => (CharSet.ofName? (String.ofList name)).map fun set => (negated, set, behind)
    -- Anything else between brackets is a bracket in a bracket.
    | _ => none
  | _ => none

/-- A member of a bracket: a character or an escaped one. -/
def member? (mode : Mode) : List Char → Option (Atom × List Char)
  | [] => none
  | '\\' :: rest => escape? mode rest
  | c :: rest => if mode.plain && 128 ≤ c.toNat then none else some (.char c, rest)

/-- The members that a single member or a range of them stands for. -/
def members? (mode : Mode) (s : List Char) : Option (CharSet × List Char) := do
  let (first, behind) ← member? mode s
  let behind := mode.skip behind
  let ahead := (mode.skip (behind.drop 1)).head?
  -- A hyphen in front of a closing bracket, or of another hyphen, is no mark for a range.
  if behind.head? == some '-' && ahead != some ']' && ahead != some '-' then
    let (last, behind) ← member? mode (mode.skip (behind.drop 1))
    match first, last with
    | .char a, .char b => if a ≤ b then some (.range a b, behind) else none
    -- A range lies between two characters, not between sets.
    | _, _ => none
  else
    match first with
    | .char c => some (.single c, behind)
    | .set set => some (set, behind)
    -- A place is not a character.
    | .look _ => none

/-- The set of a bracket that lies in other brackets, with its depth and the text behind the outermost one. Every turn
uses up at least one character. -/
def bracketSet? (mode : Mode) : Nat → Bracket → List Bracket → List Char → Option (CharSet × Nat × List Char)
  | 0, _, _, _ => none
  | turns + 1, bracket, outer, s =>
    match mode.skip s with
    | [] => none
    | '[' :: rest =>
      -- A named set looks like a bracket at first.
      match namedSet? ('[' :: rest) with
      | some (negated, set, behind) => do
        let set ← if negated then mode.without? set else some set
        bracketSet? mode turns (bracket.add set 0) outer behind
      | none =>
        let (inner, rest) := openBracket mode rest
        bracketSet? mode turns inner (bracket :: outer) rest
    | ']' :: rest => do
      let set ← bracket.close? mode
      match outer with
      -- The outermost bracket is closed.
      | [] => some (set, bracket.depth + 1, rest)
      | enclosing :: outer => bracketSet? mode turns (enclosing.add set (bracket.depth + 1)) outer rest
    -- What joins two sets has two signs.
    | '&' :: '&' :: rest => bracketSet? mode turns (bracket.joinedBy mode .common) outer rest
    | '-' :: '-' :: rest => bracketSet? mode turns (bracket.joinedBy mode .minus) outer rest
    | '~' :: '~' :: rest => bracketSet? mode turns (bracket.joinedBy mode .unshared) outer rest
    | c :: rest => do
      let (set, behind) ← members? mode (c :: rest)
      bracketSet? mode turns (bracket.add set 0) outer behind

/-! ### Repetitions -/

/-- A count with blanks around it. -/
def count? (mode : Mode) (s : List Char) : Option (Option Nat × List Char) :=
  let s := s.dropWhile Text.isBlank
  let digits := s.takeWhile fun c => c.isDigit || (mode.spaced && Text.isBlank c)
  let behind := mode.skip ((s.drop digits.length).dropWhile Text.isBlank)
  let digits := digits.filter Char.isDigit
  -- A count that is missing is told from zero.
  if digits.isEmpty then some (none, behind)
  else
    let value := digits.foldl (fun value c => 10 * value + (c.toNat - '0'.toNat)) 0
    -- Larger counts do not fit.
    if value < UInt32.size then some (some value, behind) else none

/-- The limits of a counted repetition, behind its opening brace. -/
def limits? (mode : Mode) (s : List Char) : Option ((Nat × Option Nat) × List Char) := do
  let (least, behind) ← count? mode (mode.skip s)
  let least ← least
  match behind with
  -- One count is both limits.
  | '\x7d' :: rest => some ((least, some least), rest)
  | ',' :: rest =>
    match mode.skip rest with
    -- Without an upper limit there is none.
    | '\x7d' :: rest => some ((least, none), rest)
    | rest =>
      let (most, behind) ← count? mode rest
      let most ← most
      match behind with
      -- The limits may be equal.
      | '\x7d' :: rest => if least ≤ most then some ((least, some most), rest) else none
      | _ => none
  | _ => none

/-- The text behind the mark that makes a repetition as short as can be. -/
def behindLazy (mode : Mode) (s : List Char) : List Char :=
  match mode.skip s with
  | '?' :: rest => rest
  | s => s

/-! ### Groups -/

/-- A part of a branch: what it describes, and how deep that is nested. A change of mode describes nothing. -/
structure Part where
  node : Option Node
  depth : Nat := 0
  deriving DecidableEq, Repr, Inhabited

/-- An opened group: its finished branches and how deep each of them is nested, the parts of the branch at hand, last
first, and the mode around it. -/
structure Group where
  branches : Option Node := none
  depths : List Nat := []
  parts : List Part := []
  mode : Mode
  deriving DecidableEq, Repr, Inhabited

namespace Group

/-- What the branch at hand describes. -/
def branch (group : Group) : Node :=
  (group.parts.filterMap (·.node)).foldl (fun behind part =>
    match behind with
    | .empty => part
    | behind => .both part behind) .empty

/-- How deep the branch at hand is nested. -/
def branchDepth (group : Group) : Nat := nested (group.parts.map (·.depth))

/-- What the group describes. -/
def node (group : Group) : Node :=
  match group.branches with
  | none => group.branch
  | some branches => .either branches group.branch

/-- How deep the group is nested inside. -/
def depth (group : Group) : Nat := nested (group.branchDepth :: group.depths)

/-- The group with one more part. -/
def add (part : Part) (group : Group) : Group := { group with parts := part :: group.parts }

/-- The group with its last part repeated. Nothing can be repeated behind a change of mode. -/
def repeatLast? (least : Nat) (most : Option Nat) (group : Group) : Option Group :=
  match group.parts with
  | ⟨some part, depth⟩ :: parts =>
    some { group with parts := ⟨some (.repeated part least most), depth + 1⟩ :: parts }
  | _ => none

/-- The group at the start of its next branch. -/
def nextBranch (group : Group) : Group :=
  { group with branches := some group.node, depths := group.branchDepth :: group.depths, parts := [] }

end Group

/-- The name of a group starts with a letter or a low line; numbers, dots and brackets may follow. -/
def isGroupName (name : List Char) : Bool :=
  match name with
  | [] => false
  | first :: rest =>
    (first == '_' || Text.isAlphabetic first) &&
      rest.all fun c => Text.isAlphabetic c || Text.isNumeric c || ['_', '.', '[', ']'].contains c

/-- Set one letter of a mode on or off. -/
def Mode.set? (mode : Mode) (letter : Char) (on : Bool) : Option Mode :=
  match letter with
  | 'i' => some { mode with caseless := on }
  | 'm' => some { mode with lines := on }
  | 's' => some { mode with dotAll := on }
  | 'x' => some { mode with spaced := on }
  | 'R' => some { mode with anyLineEnd := on }
  -- Without the wide classes all others are plain.
  | 'u' => some { mode with plain := !on }
  -- Which repetitions come out longest makes no difference here.
  | 'U' => some mode
  | _ => none

/-- The mode that some letters make of a mode: those behind a hyphen are set off. No letter stands twice. -/
def Mode.letters? (mode : Mode) (letters : List Char) : Option Mode :=
  let on := letters.takeWhile (· != '-')
  let off := letters.drop on.length
  -- A letter that is set twice, or a hyphen without letters behind it, is refused.
  if !letters.Nodup || off == ['-'] then none
  else do
    let mode ← on.foldlM (fun mode letter => mode.set? letter true) mode
    (off.drop 1).foldlM (fun mode letter => mode.set? letter false) mode

/-- What an opening parenthesis begins. -/
inductive Opening
  | group (mode : Mode) (name : List Char)
  | modeChange (mode : Mode)
  deriving DecidableEq, Repr, Inhabited

/-- What an opening parenthesis in front of a text begins, with the text behind the signs for it. -/
def opening? (mode : Mode) (s : List Char) : Option (Opening × List Char) :=
  -- The name of a group stands between angle brackets.
  let named (rest : List Char) : Option (Opening × List Char) :=
    let name := rest.takeWhile (· != '>')
    if isGroupName name && name.length < rest.length then
      some (.group mode name, rest.drop (name.length + 1))
    else none
  match mode.skip s with
  -- Looking ahead is not supported.
  | '?' :: '=' :: _ | '?' :: '!' :: _ => none
  | '?' :: 'P' :: '<' :: rest => named rest
  | '?' :: '<' :: rest => named rest
  | '?' :: rest => do
    let letters := rest.takeWhile fun c => c != ':' && c != ')'
    let inner ← mode.letters? letters
    match rest.drop letters.length with
    | ':' :: behind => some (.group inner [], behind)
    -- A change of mode without letters would be empty.
    | ')' :: behind => if letters.isEmpty then none else some (.modeChange inner, behind)
    | _ => none
  | s => some (.group mode [], s)

/-- What the dot stands for. -/
def Mode.dot? (mode : Mode) : Option Node :=
  if mode.plain then none
  else if mode.dotAll then some (.one (.complement .nothing))
  else if mode.anyLineEnd then some (.one (.complement (.union (.single '\n') (.single '\r'))))
  else some (.one (.complement (.single '\n')))

/-- What the mark for the start stands for. -/
def Mode.start (mode : Mode) : Look :=
  if mode.lines then (if mode.anyLineEnd then .anyLineStart else .lineStart) else .textStart

/-- What the mark for the end stands for. -/
def Mode.stop (mode : Mode) : Look :=
  if mode.lines then (if mode.anyLineEnd then .anyLineEnd else .lineEnd) else .textEnd

/-- What an atom describes. -/
def Mode.node? (mode : Mode) : Atom → Option Node
  | .char c => if mode.plain && mode.caseless && 128 ≤ c.toNat then none else some (.one (mode.cased (.single c)))
  | .set set => some (.one set)
  | .look look => some (.look look)

/-- What a text describes that stands in a group, in other groups, and how deep it is nested. Every turn uses up at
least one character. -/
def read? : Nat → Mode → List (List Char) → Group → List Group → List Char → Option (Node × Nat)
  | 0, _, _, _, _, _ => none
  | turns + 1, mode, names, group, outer, s =>
    match mode.skip s with
    -- All groups are closed at the end.
    | [] => if outer.isEmpty then some (group.node, group.depth) else none
    | '(' :: rest => do
      match ← opening? mode rest with
      | (.modeChange inner, behind) =>
        -- The new mode holds up to the end of the group.
        read? turns inner names (group.add ⟨none, 0⟩) outer behind
      | (.group inner name, behind) =>
        -- No two groups have one name.
        if !name.isEmpty && names.contains name then none
        else read? turns inner (name :: names) { mode } (group :: outer) behind
    | ')' :: rest =>
      match outer with
      -- There is no group to close.
      | [] => none
      -- A closed group is a part of the one around it, in whose mode the pattern goes on.
      | enclosing :: outer => read? turns group.mode names (enclosing.add ⟨group.node, group.depth + 1⟩) outer rest
    | '|' :: rest => read? turns mode names group.nextBranch outer rest
    | '?' :: rest => do read? turns mode names (← group.repeatLast? 0 (some 1)) outer (behindLazy mode rest)
    | '*' :: rest => do read? turns mode names (← group.repeatLast? 0 none) outer (behindLazy mode rest)
    | '+' :: rest => do read? turns mode names (← group.repeatLast? 1 none) outer (behindLazy mode rest)
    | '\x7b' :: rest => do
      -- An opened brace is always a count.
      let ((least, most), behind) ← limits? mode rest
      read? turns mode names (← group.repeatLast? least most) outer (behindLazy mode behind)
    | '[' :: rest => do
      let (bracket, behind) := openBracket mode rest
      let (set, depth, behind) ← bracketSet? mode (rest.length + 1) bracket [] behind
      read? turns mode names (group.add ⟨some (.one set), depth⟩) outer behind
    | '\\' :: rest => do
      let (atom, behind) ← escape? mode rest
      read? turns mode names (group.add ⟨← mode.node? atom, 0⟩) outer behind
    | '.' :: rest => do read? turns mode names (group.add ⟨← mode.dot?, 0⟩) outer rest
    | '^' :: rest => read? turns mode names (group.add ⟨some (.look mode.start), 0⟩) outer rest
    | '$' :: rest => read? turns mode names (group.add ⟨some (.look mode.stop), 0⟩) outer rest
    | c :: rest => do read? turns mode names (group.add ⟨← mode.node? (.char c), 0⟩) outer rest

/-! ### Limits -/

/-- So deep a pattern may be nested. -/
def deepest : Nat := 250

/-- So many bytes a pattern may take when it is made ready for matching. -/
def mostBytes : Nat := 10 * 1024 * 1024

/-- About how many runs of code points a set consists of. -/
def runCount : CharSet → Nat
  | .nothing => 0
  | .range _ _ => 1
  | .blank => 10
  | .digit => 64
  -- The numbers of runs are those of the tables, and those of joined sets are at most added up.
  | .word => 768
  | .tagged table tags => table.runs.countP fun run => tags.contains run.1
  | .union a b => runCount a + runCount b
  | .common a b => max (runCount a) (runCount b)
  | .complement a => runCount a + 1
  | .caseless a => 2 * runCount a

/-- About how many bytes a description takes when every repetition is written out: a state of 32 bytes for each byte of
a single character, and two states and 8 to 64 bytes a run for a set. -/
def byteCount : Node → Nat
  | .empty => 32
  -- A single character is spelled by its bytes, and a range of plain ones takes one run.
  | .one (.range first last) => if first = last then 32 * first.utf8Size else 72
  | .one set => 64 * (runCount set + 1)
  | .look _ => 32
  | .both first second => byteCount first + byteCount second
  | .either first second => 72 + byteCount first + byteCount second
  | .repeated part least none => 40 + max least 1 * byteCount part
  -- Every repetition is written out, and those above the least number may be left out.
  | .repeated part least (some most) => most * byteCount part + (most - least) * 40

/-- The pattern that a text describes, within the limits. -/
def ofText? (text : String) : Option Pattern := do
  let s := text.toList
  let (node, depth) ← read? (s.length + 1) {} [] { mode := {} } [] s
  if deepest < depth || mostBytes < byteCount node then none else some ⟨node⟩

/-- The syntax with these marks. -/
instance : Syntax := ⟨ofText?⟩

end Pattern

end LayerAudit
