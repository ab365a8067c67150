import LayerAudit.Pattern.Basic
import LayerAudit.Text.Basic

/-!
Globs and the paths that they match. A glob looks at the bytes of a whole path. Its wildcards match slashes too, and only
two stars that make up a whole segment stand for any number of segments.
-/

namespace LayerAudit

namespace Glob

/-- A part of a glob. -/
inductive Part
  | literal (c : Char)
  /-- Any byte. -/
  | anyOne
  /-- Any bytes. -/
  | anyRun
  /-- Any number of segments at the start. -/
  | treeStart
  /-- Anything below a directory. -/
  | treeEnd
  /-- Any number of segments between slashes. -/
  | treeBetween
  /-- A byte of a set, given by the first and the last characters of its runs. -/
  | set (negated : Bool) (runs : List (Char × Char))
  | choice (branches : List (List Part))
  deriving Repr, Inhabited

/-- The bytes of a text, each as one character. -/
def bytesOf (text : String) : List Char := text.toUTF8.data.toList.map fun byte => Char.ofNat byte.toNat

/-- Any byte. -/
def anyByte : Pattern.Node := .one (.complement .nothing)

/-- Any bytes. -/
def anyBytes : Pattern.Node := .repeated anyByte 0 none

/-- Exactly the given bytes. -/
def exactly (bytes : List Char) : Pattern.Node := bytes.foldr (fun byte rest => .both (.one (.single byte)) rest) .empty

/-- A slash. -/
def slash : Pattern.Node := exactly ['/']

/-- The bytes of a run. Of a character with several bytes, the first ones count on their own, and the run goes from the
last byte of its first character to the first byte of its last one. -/
def runSet (run : Char × Char) : CharSet :=
  let first := bytesOf (String.singleton run.1)
  let last := bytesOf (String.singleton run.2)
  -- One character stands for any of its own bytes.
  if run.1 = run.2 then .unions (first.map .single)
  else
    -- Each byte is a set on its own, but for the run between the two bytes that meet.
    let between := CharSet.range ((first.getLast?).getD run.1) ((last.head?).getD run.2)
    .unions ((first.dropLast.map .single) ++ [between] ++ ((last.drop 1).map .single))

mutual

/-- What a part matches. -/
def Part.node : Part → Pattern.Node
  | .literal c => exactly (bytesOf (String.singleton c))
  | .anyOne => anyByte
  | .anyRun => anyBytes
  -- At the start there may be one slash, or any directories with a slash behind them.
  | .treeStart => .either (.repeated slash 0 (some 1)) (.both anyBytes slash)
  | .treeEnd => .both slash anyBytes
  | .treeBetween => .either slash (.both slash (.both anyBytes slash))
  | .set negated runs =>
    let set := CharSet.unions (runs.map runSet)
    .one (if negated then .complement set else set)
  -- A choice of which all branches are empty matches nothing but the empty text.
  | .choice branches => (choiceNode branches).getD .empty

/-- What successive parts match. -/
def partsNode : List Part → Pattern.Node
  | [] => .empty
  | part :: rest => .both part.node (partsNode rest)

/-- What several branches match, of which the empty ones do not count. -/
def choiceNode : List (List Part) → Option Pattern.Node
  | [] => none
  | branch :: rest =>
    -- An empty branch is dropped, so it does not match the empty text.
    if branch.isEmpty then choiceNode rest
    else
      match choiceNode rest with
      | none => some (partsNode branch)
      | some others => some (.either (partsNode branch) others)

end

/-- A part that is a character. -/
def Part.isLiteral : Part → Bool
  | .literal _ => true
  | _ => false

/-- The parts behind any number of segments at the start. -/
def behindTreeStart : List Part → Option (List Part)
  | .treeStart :: rest => some rest
  | _ => none

/-- The glob asks for the base name or the extension of a path alone. -/
def looksAtName (parts : List Part) : Bool :=
  let isName (rest : List Part) : Bool := rest.all fun part =>
    match part with
    -- A wildcard in the name asks for more than the name alone.
    | .literal c => c != '/'
    | _ => false
  -- Either a star with an extension behind it, or any directories with a name behind them.
  match (behindTreeStart parts).getD parts with
  | .anyRun :: .literal '.' :: extension => isName extension
  | rest => (behindTreeStart parts).isSome && isName rest

/-- The glob asks for the end of a path alone, or for a whole path. -/
def looksAtEnd (parts : List Part) : Bool :=
  let rest := (behindTreeStart parts).getD parts
  match rest with
  | .anyRun :: rest => rest.all Part.isLiteral
  | rest => rest.all Part.isLiteral

/-- A path that ends in a dot has no base name, so a glob with a dot at its end takes it only if the end alone, or the
whole path, is asked for. -/
def admits (parts : List Part) (path : String) : Bool :=
  match parts.getLast? with
  | some (.literal '.') =>
    !Text.isEndOf "." path || (looksAtEnd parts && !looksAtName parts)
  | _ => true

end Glob

/-- A glob for paths. -/
structure Glob where
  parts : List Glob.Part
  node : Pattern.Node
  deriving Repr, Inhabited

namespace Glob

/-- The glob of some parts. Alone, any number of segments at the start stand for any path. -/
def ofParts (parts : List Part) : Glob :=
  match parts with
  | [.treeStart] => ⟨parts, anyBytes⟩
  | _ => ⟨parts, partsNode parts⟩

/-- The glob matches a whole path. -/
def accepts (glob : Glob) (path : String) : Bool :=
  let text := (bytesOf path).toArray
  (Pattern.ends text glob.node [0]).contains text.size && admits glob.parts path

/-- The syntax of globs: which texts are globs, and what they match. -/
class Syntax where
  glob? : String → Option Glob

end Glob

end LayerAudit
