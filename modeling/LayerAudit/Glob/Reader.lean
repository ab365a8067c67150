import LayerAudit.Glob.Basic

/-!
Reading globs. Stars, question marks, brackets and braces are marks unless a backslash stands before them. Braces hold
branches with commas between them and may be nested.
-/

namespace LayerAudit

namespace Glob

/-! ### Brackets -/

/-- A set in brackets as far as it is read: its runs, last first, and whether a hyphen has opened a run. -/
structure OpenSet where
  runs : List (Char × Char) := []
  inRun : Bool := false
  deriving DecidableEq, Repr, Inhabited

namespace OpenSet

/-- The set with one more character, which ends an opened run. A run does not go backwards. -/
def add? (c : Char) (set : OpenSet) : Option OpenSet :=
  match set.inRun, set.runs with
  | true, (first, _) :: rest => if first ≤ c then some ⟨(first, c) :: rest, false⟩ else none
  | _, runs => some ⟨(c, c) :: runs, false⟩

/-- The runs of the whole set. A hyphen at its end is a member. -/
def close (set : OpenSet) : List (Char × Char) :=
  (if set.inRun then ('-', '-') :: set.runs else set.runs).reverse

end OpenSet

/-- The runs of a set up to its closing bracket. Right at the start, a bracket or a hyphen is a member. -/
def setRuns? (set : OpenSet) (atStart : Bool) : List Char → Option (List (Char × Char) × List Char)
  | [] => none
  | c :: rest =>
    -- A bracket right at the start is a member, so that no set is empty.
    if c == ']' && !atStart then some (set.close, rest)
    -- A hyphen opens a run, unless one is open already.
    else if c == '-' && !atStart && !set.inRun then setRuns? { set with inRun := true } false rest
    else (set.add? c).bind fun set => setRuns? set false rest

/-- A set behind its opening bracket. -/
def set? (s : List Char) : Option (Part × List Char) :=
  let negated := s.head? == some '!' || s.head? == some '^'
  (setRuns? {} true (if negated then s.drop 1 else s)).map fun (runs, behind) => (.set negated runs, behind)

/-! ### Braces and stars -/

/-- An open choice, or the whole glob: the finished branches and the parts of the branch at hand, all last first. -/
structure Level where
  finished : List (List Part) := []
  parts : List Part := []
  deriving Repr, Inhabited

namespace Level

/-- The level with one more part. -/
def add (part : Part) (level : Level) : Level := { level with parts := part :: level.parts }

/-- The level with its last part replaced. Where the last part already stands for segments at the start or the end,
it stays. -/
def stretch (part : Part) (level : Level) : Level :=
  match level.parts with
  | .treeStart :: _ | .treeEnd :: _ => level
  | _ :: rest => { level with parts := part :: rest }
  | [] => level.add part

/-- The level at the start of its next branch. -/
def nextBranch (level : Level) : Level := ⟨level.parts.reverse :: level.finished, []⟩

/-- All branches of a choice. -/
def branches (level : Level) : List (List Part) := level.nextBranch.finished.reverse

end Level

/-- What two stars stand for behind some character, and the text behind them. Only whole segments stand for segments. -/
def stars (inChoice : Bool) (previous : Option Char) (level : Level) (s : List Char) : Level × List Char :=
  let plain := ((level.add .anyRun).add .anyRun, s)
  -- At the start of a branch or of the glob, a slash has to follow, or nothing.
  if level.parts.isEmpty then
    match s with
    | [] => (level.add .treeStart, [])
    | c :: rest => if c == '/' then (level.add .treeStart, rest) else plain
  -- Inside of a segment two stars are two wildcards.
  else if previous != some '/' && !(inChoice && (previous == some ',' || previous == some '\x7b')) then plain
  else
    match s with
    | [] => (level.stretch .treeEnd, [])
    | c :: rest =>
      -- The end of a branch ends the segment as well.
      if inChoice && (c == ',' || c == '\x7d') then (level.stretch .treeEnd, c :: rest)
      else if c == '/' then (level.stretch .treeBetween, rest)
      else plain

/-- The parts of a text behind some character, in open choices. Every turn uses up at least one character. -/
def read? : Nat → Option Char → Level → List Level → List Char → Option (List Part)
  | 0, _, _, _, _ => none
  | _ + 1, _, level, outer, [] => if outer.isEmpty then some level.parts.reverse else none
  | turns + 1, previous, level, outer, c :: rest =>
    -- By the character at hand, together with the next one where that decides.
    match c, rest with
    | '?', _ => read? turns (some c) (level.add .anyOne) outer rest
    | '*', '*' :: rest =>
      let (level, behind) := stars (!outer.isEmpty) previous level rest
      -- Where the stars took a slash, that is the character before the rest.
      read? turns (some (if behind.length < rest.length then '/' else '*')) level outer behind
    | '*', _ => read? turns (some c) (level.add .anyRun) outer rest
    | '[', _ => do
      let (part, behind) ← set? rest
      read? turns (some ']') (level.add part) outer behind
    -- A brace opens a choice. What is read so far waits in the outer levels.
    | '\x7b', _ => read? turns (some c) {} (level :: outer) rest
    | '\x7d', _ =>
      match outer with
      -- A closing brace needs an open choice.
      | [] => none
      | enclosing :: outer => read? turns (some c) (enclosing.add (.choice level.branches)) outer rest
    | ',', _ =>
      -- Outside of braces a comma is a character like any other.
      if outer.isEmpty then read? turns (some c) (level.add (.literal c)) outer rest
      else read? turns (some c) level.nextBranch outer rest
    | '\\', hidden :: rest => read? turns (some hidden) (level.add (.literal hidden)) outer rest
    -- A backslash must hide something.
    | '\\', [] => none
    | c, _ => read? turns (some c) (level.add (.literal c)) outer rest

/-- The glob that a text describes. -/
def ofText? (text : String) : Option Glob :=
  let s := text.toList
  (read? (s.length + 1) none {} [] s).map ofParts

instance : Syntax := ⟨ofText?⟩

end Glob

end LayerAudit
