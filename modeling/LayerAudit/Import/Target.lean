import LayerAudit.Path
import Std.Data.HashSet

/-!
Where an import specifier leads. A specifier that starts with a dot is followed from the importing file, one that
starts with an alias is rewritten, and any other names a package.
-/

namespace LayerAudit

/-- The end of an import. -/
inductive ImportTarget
  /-- A path below the source root. -/
  | file (path : String)
  /-- A package, named by the specifier itself. -/
  | package (name : String)
  deriving DecidableEq, Repr, Inhabited

namespace ImportTarget

/-- The id that the target has in the graph. -/
def id : ImportTarget → String
  | file path => path
  | package name => name

end ImportTarget

/-- What specifiers are resolved against: the aliases and the discovered paths. -/
structure ImportScope where
  aliases : List (String × String)
  known : Std.HashSet String

namespace ImportScope

/-- Endings that are tried, in this order, where a path itself was not discovered. -/
def endings : List String := [".js", ".ts", ".mjs", ".vue", "/index.js", "/index.ts"]

/-- The discovered path that a path without its ending stands for, else the path itself. -/
def complete (scope : ImportScope) (path : String) : String :=
  if scope.known.contains path then path
  else ((endings.map (path ++ ·)).find? scope.known.contains).getD path

/-- The longest alias that a specifier starts with. -/
def aliasOf? (scope : ImportScope) (specifier : String) : Option (String × String) :=
  (scope.aliases.filter fun entry => Text.isStartOf entry.1 specifier).foldl (fun best entry =>
    match best with
    | some b => if entry.1.utf8ByteSize < b.1.utf8ByteSize then some b else some entry
    | none => some entry) none

/-- Resolve a specifier as it is written in a file. -/
def resolve (scope : ImportScope) (importer specifier : String) : ImportTarget :=
  if Text.isStartOf "." specifier then
    -- A file at the root has no directory to start from.
    let directory := Path.directory importer
    let joined := if directory = "" then specifier else directory ++ "/" ++ specifier
    -- Dots are taken out before the discovered paths are looked at.
    .file (scope.complete (Path.normalize joined))
  else
    match scope.aliasOf? specifier with
    | some (start, place) =>
      -- The place of the alias stands for the start that it names.
      let rest := String.ofList (specifier.toList.drop start.length)
      .file (scope.complete (Path.normalize (place ++ rest)))
    -- Anything else is a package, also the path of a discovered file.
    | none => .package specifier

end ImportScope

end LayerAudit
