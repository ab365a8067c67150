import LayerAudit.Text.Basic

/-!
Paths as they are written: joining two of them, and the directories above one. Nothing here asks whether a path leads
anywhere.
-/

namespace LayerAudit.Location

/-- The segments of a written path. -/
def segments (path : String) : List String := (Text.pieces '/' path.toList).map String.ofList

/-- A path that is read from another one. An absolute path stands on its own. -/
def join (base path : String) : String :=
  if Text.isStartOf "/" path || base = "" then path
  else if Text.isEndOf "/" base then base ++ path
  else base ++ "/" ++ path

/-- The written path of segments that are given last first. -/
def ofReversed (segments : List String) : String := Text.joinWith "/" segments.reverse

/-- The written paths of some segments, given last first, and of all directories above them. Empty segments and dots are
passed over, except for the first of all. -/
def lineageOf : List String → List String
  | [] => []
  | [first] => if first = "" then ["/"] else [first, ""]
  | segment :: above =>
    if segment = "" ∨ segment = "." then lineageOf above else ofReversed (segment :: above) :: lineageOf above

/-- A path and all directories above it, the nearest first. The last one is the root, or is empty for a path from the
working directory. -/
def lineage (path : String) : List String := if path = "" then [""] else lineageOf (segments path).reverse

/-- The directory above a path. -/
def parent? (path : String) : Option String := (lineage path)[1]?

end LayerAudit.Location
