import LayerAudit.Audit.Setup
import LayerAudit.Files.System

/-! Discovery: the selected paths below a source root. -/

namespace LayerAudit

/-- The source root is no directory. -/
structure BadRoot where
  path : String
  deriving DecidableEq, Repr, Inhabited

/-- The text about a bad source root. -/
def BadRoot.message (bad : BadRoot) : String := s!"source root '{bad.path}' is not a directory"

namespace Setup

/-- The paths of all entries below a root that are no directories. Links are not followed, except for the root; a root
that is a link counts as an entry itself. -/
def entriesBelow (files : FileSystem) (root : String) : Option (List String) :=
  match files.entry? root with
  | some (.directory entries) =>
    let below := (FileEntry.leavesOf entries).map fun names => Text.slashed (Text.joinWith "/" names)
    -- A root that is a link is listed once more, under the empty path.
    match files.locate false root with
    | .ok (.taken _ (.link _)) => some ("" :: below)
    | _ => some below
  | _ => none

/-- The selected paths below a source root, in increasing order. -/
def discover (setup : Setup) (files : FileSystem) (root : String) : Except BadRoot (List String) :=
  match entriesBelow files root with
  | some paths => .ok ((paths.filter setup.selects).mergeSort fun a b => !(b < a))
  | none => .error ⟨root⟩

end Setup

end LayerAudit
