import LayerAudit.Sorted

/-! Trees of files. A directory holds named entries, sorted by name; a link holds the path that it stands for. -/

namespace LayerAudit

/-- An entry of a file system. -/
inductive FileEntry
  | file (content : ByteArray)
  | link (target : String)
  | directory (entries : List (String × FileEntry))
  deriving Inhabited

namespace FileEntry

/-- The entry is a directory. -/
def isDirectory : FileEntry → Bool
  | directory _ => true
  | _ => false

/-- The entry at the end of some names, where no link is followed. -/
def at? : List String → FileEntry → Option FileEntry
  | [], entry => some entry
  | name :: names, directory entries => (Sorted.get? name entries).bind (at? names)
  | _ :: _, _ => none

/-- Put an entry at the end of some names, below directories. -/
def putAt (new : FileEntry) : List String → FileEntry → FileEntry
  | [], _ => new
  | name :: names, directory entries =>
    directory (Sorted.put name (putAt new names ((Sorted.get? name entries).getD (directory []))) entries)
  | _ :: _, entry => entry

mutual

/-- The places of all entries below that are no directories, as names from here. -/
def leaves : FileEntry → List (List String)
  | directory entries => leavesOf entries
  | _ => [[]]

/-- The places of all entries in and below a list that are no directories. -/
def leavesOf : List (String × FileEntry) → List (List String)
  | [] => []
  | (name, entry) :: rest => (leaves entry).map (name :: ·) ++ leavesOf rest

end

end FileEntry

end LayerAudit
