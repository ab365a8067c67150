import LayerAudit.Command.Run
import LayerAudit.Glob.Reader
import LayerAudit.Pattern.Reader
import LayerAudit.Script.Repair
import LayerAudit.Toml.Document
import Std.Time.DateTime.Timestamp

/-!
The program. It takes over from the disk what a command can look at, runs the command on that, and brings back to the
disk what has changed.
-/

namespace LayerAudit.Main

/-- The names on the way from the root to a path without links. -/
def placeOf (path : String) : List String := (Location.segments path).filter (· ≠ "")

/-- The path without links that a path leads to. -/
def realPath? (path : String) : IO (Option String) := do
  match ← (IO.FS.realPath (if path = "" then "." else path)).toBaseIO with
  | .ok real => return some real.toString
  | .error _ => return none

/-- The target of links that lead nowhere. It is no name of any file. -/
def nowhere : String := "/\x00"

/-- Take over an entry, with its content if that is wanted by the path from the start, and say which links there are. -/
partial def takeTree (wanted : String → Bool) (path below : String) : IO (FileEntry × List String) := do
  let entries ← (← IO.FS.realPath path).readDir
  let mut taken : List (String × FileEntry) := []
  let mut links : List String := []
  for entry in entries do
    let name := entry.fileName
    let here := path ++ "/" ++ name
    let inner := if below = "" then name else below ++ "/" ++ name
    -- What a link leads to is taken over on its own, so that no link is followed here.
    match ← entry.path.symlinkMetadata.toBaseIO with
    | .ok { type := .dir, .. } =>
      let (subtree, more) ← takeTree wanted here inner
      taken := (name, subtree) :: taken
      links := more ++ links
    | .ok { type := .symlink, .. } =>
      taken := (name, .link ((← realPath? here).getD nowhere)) :: taken
      links := here :: links
    | .ok _ =>
      -- The content of a file that nobody reads is left out, and the file is taken over as an empty one.
      let content ← if wanted inner then IO.FS.readBinFile here else pure .empty
      taken := (name, .file content) :: taken
    -- An entry that cannot be looked at does not count, like one that is not there.
    | .error _ => pure ()
  return (.directory (Sorted.ofList taken), links)

/-- Take over what lies at a path without links. Directories that are there already stay. -/
def takeEntry (files : FileSystem) (path : String) : IO FileSystem := do
  let place := placeOf path
  if ← (← IO.FS.realPath path).isDir then
    return if (files.root.at? place).isSome then files else files.put place (.directory [])
  else return files.put place (.file (← IO.FS.readBinFile path))

/-- Take over a link. -/
def takeLink (files : FileSystem) (path : String) : IO FileSystem := do
  let some name := (Location.segments path).getLast? | return files
  let some parent ← realPath? ((Location.parent? path).getD "") | return files
  match ← ((← IO.FS.realPath parent) / name).symlinkMetadata.toBaseIO with
  | .ok { type := .symlink, .. } =>
    return files.put (placeOf parent ++ [name]) (.link ((← realPath? path).getD nowhere))
  | _ => return files

/-- Take over all that lies on the way of a path. -/
def takeWay (files : FileSystem) (path : String) : IO FileSystem :=
  (Location.lineage path).foldrM (fun path files => do
    let files ← match ← realPath? path with
      | some real => takeEntry files real
      | none => pure files
    takeLink files path) files

/-- The paths where settings are looked for. -/
def settingsPaths (request : Request) : IO (List String) := do
  match request.config with
  | some path => return [path]
  | none =>
    -- The path of the root may be a relative one, so that the directories above it are told by its real path.
    let start := (← realPath? request.root).getD request.root
    return (Location.lineage start).map (Location.join · Config.fileName)

/-- Take over the source tree of an audit. -/
def takeSources (setup : Setup) (files : FileSystem) (root : String) : IO FileSystem := do
  let files ← takeWay files root
  -- Without a root directory nothing else is looked at.
  let some real ← realPath? root | return files
  unless ← (← IO.FS.realPath real).isDir do return files
  let (tree, links) ← takeTree setup.selects real ""
  links.foldlM takeWay (files.put (placeOf real) tree)

/-- Take over what an audit looks at. -/
def takeForAudit (request : Request) (empty : FileSystem) : IO FileSystem := do
  let paths ← settingsPaths request
  -- The settings tell which files are read, so that they are taken over before the rest.
  let files ← (request.root :: paths).foldlM takeWay empty
  let .ok (config, _) := request.readConfig files | return files
  let .ok setup := Request.setup config | return files
  let files ← takeSources setup empty request.root
  -- The place of the document is looked at, too, and it is known only by the settings.
  (request.target config :: paths).foldlM takeWay files

/-- Take over what a command looks at. -/
def take (command : Option Command) : IO FileSystem := do
  let some here ← realPath? "." | return { root := .directory [], workingDirectory := [] }
  let empty : FileSystem := { root := .directory [], workingDirectory := placeOf here }
  let empty ← takeEntry empty here
  match command with
  | some (.create root _) => takeWay empty (Location.join root Config.fileName)
  | some (.audit request) => takeForAudit request empty
  | _ => return empty

/-- Bring changes back to the disk. -/
partial def bringBack (path : String) (before : Option FileEntry) (after : FileEntry) : IO Unit := do
  match after with
  | .directory entries =>
    -- A directory is made before its entries.
    if before.isNone then IO.FS.createDir path
    for (name, entry) in entries do
      bringBack (path ++ "/" ++ name) (before.bind (·.at? [name])) entry
  | .file content =>
    match before with
    -- A file with the same content is not touched.
    | some (.file earlier) => unless earlier == content do IO.FS.writeBinFile path content
    | _ => IO.FS.writeBinFile path content
  -- No link is ever made.
  | .link _ => return

/-- Run a call of the program, and return its exit code. -/
def run (arguments : List String) : IO UInt32 := do
  let files ← take (Command.ofArguments? arguments)
  let seconds := (← Std.Time.Timestamp.now).toSecondsSinceUnixEpoch.val
  let output ← IO.getStdout
  let colored := (← output.isTty) && (← IO.getEnv "NO_COLOR").isNone
  let outcome := Command.runArguments arguments .sorted files seconds colored
  bringBack "" (some files.root) outcome.files.root
  output.putStr outcome.shown
  for line in outcome.told do IO.eprintln line
  return outcome.code.toUInt32

end LayerAudit.Main

/-- The program. An error of the disk itself ends it like any other error. -/
def main (arguments : List String) : IO UInt32 := do
  match ← (LayerAudit.Main.run arguments).toBaseIO with
  | .ok code => return code
  | .error error =>
    IO.eprintln s!"Error: {error}"
    return 2
