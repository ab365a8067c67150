import LayerAudit.Files.Location
import LayerAudit.Files.Tree

/-! File systems: where a path leads through directories and links, and what reading and writing there does. -/

namespace LayerAudit

/-- Why an operation on files fails. -/
inductive FileFailure
  | notFound | alreadyExists | notDirectory | isDirectory | nameTooLong | tooManyLinks
  deriving DecidableEq, Repr, Inhabited

namespace FileFailure

/-- The text of a failure, with its number. -/
def message : FileFailure → String
  | notFound => "No such file or directory (os error 2)"
  | alreadyExists => "File exists (os error 17)"
  | notDirectory => "Not a directory (os error 20)"
  | isDirectory => "Is a directory (os error 21)"
  | nameTooLong => "File name too long (os error 36)"
  | tooManyLinks => "Too many levels of symbolic links (os error 40)"

end FileFailure

/-- A tree of files with a working directory, which is given by its names from the root. -/
structure FileSystem where
  root : FileEntry
  workingDirectory : List String
  deriving Inhabited

/-- Where a path leads. -/
inductive Spot
  | taken (place : List String) (entry : FileEntry)
  /-- A free place in a directory; the path may end in a slash. -/
  | free (place : List String) (endsInSlash : Bool)
  deriving Inhabited

namespace FileSystem

/-- The longest name of an entry, in bytes. -/
def longestName : Nat := 255

/-- The most links on the way of one path. -/
def mostLinks : Nat := 40

/-- Follow segments from a directory. A link at the very end is followed only if asked for. -/
def follow (files : FileSystem) (throughLast : Bool) (links : Nat) (here : List String) (segments : List String) :
    Except FileFailure Spot :=
  match segments with
  | [] =>
    match files.root.at? here with
    | some entry => .ok (.taken here entry)
    | none => .error .notFound
  | name :: rest =>
    -- Empty segments and dots lead nowhere else.
    if name = "" ∨ name = "." then follow files throughLast links here rest
    -- Above the root is the root itself.
    else if name = ".." then follow files throughLast links here.dropLast rest
    else if longestName < name.utf8ByteSize then .error .nameTooLong
    else
      let place := here ++ [name]
      match files.root.at? place with
      -- An entry can be made under a free name, if nothing but slashes follows it.
      | none => if rest.all (· = "") then .ok (.free place !rest.isEmpty) else .error .notFound
      | some (.directory _) => follow files throughLast links place rest
      -- Below a file there is nothing.
      | some (.file content) => if rest.isEmpty then .ok (.taken place (.file content)) else .error .notDirectory
      | some (.link target) =>
        -- A link at the end is an entry of its own, if it is not to be followed.
        if rest.isEmpty && !throughLast then .ok (.taken place (.link target))
        else
          match links with
          | 0 => .error .tooManyLinks
          | links + 1 =>
            -- The segments of the target come before those that are left.
            follow files throughLast links (if Text.isStartOf "/" target then [] else here)
              (Location.segments target ++ rest)
termination_by (links, segments.length)

/-- Where a path leads from the working directory. -/
def locate (files : FileSystem) (throughLast : Bool) (path : String) : Except FileFailure Spot :=
  if path = "" then .error .notFound
  else
    files.follow throughLast mostLinks (if Text.isStartOf "/" path then [] else files.workingDirectory)
      (Location.segments path)

/-- The entry that a path leads to, through all links. -/
def entry? (files : FileSystem) (path : String) : Option FileEntry :=
  match files.locate true path with
  | .ok (.taken _ entry) => some entry
  | _ => none

/-- A path leads to an entry. -/
def contains (files : FileSystem) (path : String) : Bool := (files.entry? path).isSome

/-- A path leads to a directory. -/
def isDirectory (files : FileSystem) (path : String) : Bool := (files.entry? path).any FileEntry.isDirectory

/-- The path from the root, without links, of what a path leads to. -/
def canonical? (files : FileSystem) (path : String) : Option String :=
  match files.locate true path with
  | .ok (.taken place _) => some ("/" ++ Text.joinWith "/" place)
  | _ => none

/-- The content of the file that a path leads to. -/
def read (files : FileSystem) (path : String) : Except FileFailure ByteArray :=
  match files.locate true path with
  | .ok (.taken _ (.file content)) => .ok content
  | .ok (.taken _ (.directory _)) => .error .isDirectory
  -- A link is left over only if it could not be followed.
  | .ok (.taken _ (.link _)) => .error .tooManyLinks
  | .ok (.free _ _) => .error .notFound
  | .error failure => .error failure

/-- Put an entry at a place. -/
def put (files : FileSystem) (place : List String) (entry : FileEntry) : FileSystem :=
  { files with root := FileEntry.putAt entry place files.root }

/-- Write a file, in place of an earlier one. Its directory has to be there. -/
def write (files : FileSystem) (path : String) (content : ByteArray) : Except FileFailure FileSystem :=
  match files.locate true path with
  | .ok (.taken place (.file _)) => .ok (files.put place (.file content))
  | .ok (.taken _ (.directory _)) => .error .isDirectory
  | .ok (.taken _ (.link _)) => .error .tooManyLinks
  | .ok (.free place endsInSlash) =>
    -- No file is made by the name of a directory.
    if endsInSlash then .error .isDirectory else .ok (files.put place (.file content))
  | .error failure => .error failure

/-- Make one directory. -/
def makeDirectory (files : FileSystem) (path : String) : Except FileFailure FileSystem :=
  match files.locate false path with
  | .ok (.taken _ _) => .error .alreadyExists
  | .ok (.free place _) => .ok (files.put place (.directory []))
  | .error failure => .error failure

/-- Make a directory unless it is there, and say what went wrong. -/
def ensureDirectory (files : FileSystem) (path : String) : FileSystem × Option FileFailure :=
  match files.makeDirectory path with
  | .ok files => (files, none)
  | .error failure =>
    if failure = .alreadyExists && files.isDirectory path then (files, none) else (files, some failure)

/-- Make the first of some directories, each of which lies in the next one. What was made before a failure stays. -/
def ensureLineage (files : FileSystem) : List String → FileSystem × Option FileFailure
  | [] => (files, none)
  | path :: above =>
    match files.ensureDirectory path with
    | (files, some .notFound) =>
      -- The directories above come first, and then this one is tried again.
      match files.ensureLineage above with
      | (files, none) => files.ensureDirectory path
      -- What could not be made above cannot be made here.
      | failed => failed
    -- Any other failure would come again.
    | outcome => outcome

/-- Make a directory and those above it, as far as they are missing. -/
def ensureDirectories (files : FileSystem) (path : String) : FileSystem × Option FileFailure :=
  files.ensureLineage ((Location.lineage path).filter fun p => p ≠ "" ∧ p ≠ "/")

end FileSystem

end LayerAudit
