import LayerAudit.Pattern.CharSet

/-!
Patterns and where they match. A place in a text is the number of characters before it. Matching maps the set of
places where a match may start to the set of places where it may end, so it takes no guesses back.
-/

namespace LayerAudit

namespace Pattern

/-- A condition on a place that uses up no character. -/
inductive Look
  | textStart | textEnd
  /-- The start or end of a line, where lines end in a line feed. -/
  | lineStart | lineEnd
  /-- The start or end of a line, where lines end in a carriage return, a line feed or both. -/
  | anyLineStart | anyLineEnd
  /-- A place between a word and something else, by a set of word characters. -/
  | wordEdge (letters : CharSet)
  | noWordEdge (letters : CharSet)
  | wordStart (letters : CharSet)
  | wordEnd (letters : CharSet)
  /-- A place with no word before it, or none after it. -/
  | noWordBefore (letters : CharSet)
  | noWordAfter (letters : CharSet)
  deriving DecidableEq, Repr, Inhabited

/-- The character before a place. -/
def before? (text : Array Char) (place : Nat) : Option Char :=
  match place with
  | 0 => none
  | previous + 1 => text[previous]?

/-- The condition holds at a place. -/
def Look.holds (text : Array Char) (place : Nat) (look : Look) : Bool :=
  let before := before? text place
  let after := text[place]?
  match look with
  -- Before the first character there is none, and behind the last one neither.
  | textStart => before.isNone
  | textEnd => after.isNone
  | lineStart => before.all (· == '\n')
  | lineEnd => after.all (· == '\n')
  -- Between the two characters of one line end there is neither an end nor a start.
  | anyLineStart => before.all fun c => c == '\n' || (c == '\r' && after != some '\n')
  | anyLineEnd => after.all fun c => c == '\r' || (c == '\n' && before != some '\r')
  | wordEdge letters => before.any letters.contains != after.any letters.contains
  | noWordEdge letters => before.any letters.contains == after.any letters.contains
  | wordStart letters => !before.any letters.contains && after.any letters.contains
  | wordEnd letters => before.any letters.contains && !after.any letters.contains
  | noWordBefore letters => !before.any letters.contains
  | noWordAfter letters => !after.any letters.contains

/-- What a pattern describes. -/
inductive Node
  | empty
  /-- One character of a set. -/
  | one (set : CharSet)
  | look (look : Look)
  | both (first second : Node)
  | either (first second : Node)
  /-- At least so many repetitions, and at most so many if there is a limit. -/
  | repeated (part : Node) (least : Nat) (most : Option Nat)
  deriving DecidableEq, Repr, Inhabited

/-- All members of two sets of places. -/
def together (xs ys : List Nat) : List Nat := xs ++ ys.filter fun y => !xs.contains y

/-- The places after exactly so many steps. -/
def after (step : List Nat → List Nat) : Nat → List Nat → List Nat
  | 0, places => places
  | count + 1, places => if places.isEmpty then [] else after step count (step places)

/-- The places after up to so many steps, where only the places found last are followed on. -/
def within (step : List Nat → List Nat) : Nat → List Nat → List Nat → List Nat
  | 0, found, _ => found
  | count + 1, found, latest =>
    let fresh := (step latest).filter fun place => !found.contains place
    if fresh.isEmpty then found else within step count (found ++ fresh) fresh

/-- The places where a match that starts at one of the given places may end. -/
def ends (text : Array Char) : Node → List Nat → List Nat
  | .empty, places => places
  -- A character of the set is passed over, if there is one.
  | .one set, places => (places.filter fun place => text[place]?.any set.contains).map (· + 1)
  | .look look, places => places.filter fun place => look.holds text place
  | .both first second, places => ends text second (ends text first places)
  -- Both branches are followed at once, so that none has to be tried again.
  | .either first second, places => together (ends text first places) (ends text second places)
  | .repeated part least most, places =>
    let base := after (ends text part) least places
    -- Without a limit a step for each place is enough, since no place has to be found twice.
    let more := match most with
      | some most => most - least
      | none => text.size + 1
    within (ends text part) more base base

end Pattern

/-- A pattern for texts. -/
structure Pattern where
  node : Pattern.Node
  deriving DecidableEq, Repr, Inhabited

namespace Pattern

/-- The pattern matches somewhere in a text. -/
def matchesIn (pattern : Pattern) (text : String) : Bool :=
  let text := text.toList.toArray
  !(ends text pattern.node (List.range (text.size + 1))).isEmpty

/-- The syntax of patterns: which texts are patterns, and what they describe. -/
class Syntax where
  pattern? : String → Option Pattern

end Pattern

end LayerAudit
