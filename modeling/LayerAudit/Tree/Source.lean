import LayerAudit.Component.Blocks
import LayerAudit.Script.Parser
import LayerAudit.Tree.Lower

/-!
From the text of a file to its syntax tree. A component file is divided into blocks first. A text that is not free of
damage gets a second chance: its script alone is parsed once more, now with tolerance.
-/

namespace LayerAudit

open Script (ParseError)

/-- Why the first parse of a file failed. -/
inductive FirstFailure
  | blocks (error : Component.BlockError)
  | script (error : ParseError)
  deriving DecidableEq, Repr, Inhabited

/-- The text of a first failure. -/
def FirstFailure.message : FirstFailure → String
  | blocks error => error.message
  | script error => error.message

/-- Why both parses of a file failed. -/
structure Unparseable where
  first : FirstFailure
  second : ParseError
  deriving DecidableEq, Repr, Inhabited

/-- The text about a file that cannot be parsed. -/
def Unparseable.message (path : String) (failure : Unparseable) : String :=
  s!"failed to parse {path}: {failure.first.message}; fallback parse: {failure.second.message}"

/-- The tree of a file. -/
structure ParsedFile where
  tree : SyntaxTree
  /-- Only the second parse succeeded; then there is no template. -/
  usedFallback : Bool
  deriving Repr, Inhabited

namespace ParsedFile

variable [Script.Syntax]

/-- The path names a component file. -/
def isComponentPath (path : String) : Bool := Text.isEndOf ".vue" path

/-- The first parse: all blocks are closed and the script has no damage. -/
def first (path content : String) : Except FirstFailure SyntaxTree :=
  -- The blocks are divided first, since the tags of a component are no part of its script.
  if isComponentPath path then
    match Component.Blocks.ofSource content.toList with
    | .error error => .error (.blocks error)
    | .ok blocks =>
      let script := String.ofList blocks.script
      match Script.parseStrict script with
      | .error error => .error (.script error)
      | .ok root => .ok (Tree.ofScript script root blocks.tags)
  else
    -- Any other file is one script as a whole, and has no tags.
    match Script.parseStrict content with
    | .error error => .error (.script error)
    | .ok root => .ok (Tree.ofScript content root [])

/-- The script that the second parse reads. -/
def scriptOf (path content : String) : String :=
  if isComponentPath path then String.ofList (Component.lenientScript content.toList) else content

/-- The second parse: the script alone, with tolerance. -/
def second (path content : String) : Except ParseError SyntaxTree :=
  let script := scriptOf path content
  match Script.parsePermissive script with
  | .error error => .error error
  | .ok root => .ok (Tree.ofScript script root [])

/-- The tree of a file with some content. -/
def ofContent (path content : String) : Except Unparseable ParsedFile :=
  match first path content with
  | .ok tree => .ok ⟨tree, false⟩
  | .error failure =>
    -- The second parse has no tags, and forgives some damage.
    match second path content with
    | .ok tree => .ok ⟨tree, true⟩
    | .error error => .error ⟨failure, error⟩

end ParsedFile

end LayerAudit
