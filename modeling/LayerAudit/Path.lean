import LayerAudit.Text.Basic

/-!
Forward-slash paths: the normal form drops empty and dot segments and lets a parent segment cancel the name before it.
-/

namespace LayerAudit.Path

/-- The segments of a path, its backslashes read as slashes. -/
def segments (path : String) : List String :=
  (Text.pieces '/' (Text.slashed path).toList).map String.ofList

/-- Follow one segment from a place, written as the names back to the start, innermost first. -/
def follow (place : List String) (segment : String) : List String :=
  if segment = "" ∨ segment = "." then place
  else if segment = ".." then
    match place with
    -- There is no name to take back at the start of a path, so that the segment is kept.
    | [] => [".."]
    | name :: outer => if name = ".." then ".." :: place else outer
  else segment :: place

/-- The segments of a path's normal form. -/
def normalSegments (path : String) : List String :=
  ((segments path).foldl follow []).reverse

/-- The normal form of a path. -/
def normalize (path : String) : String := Text.joinWith "/" (normalSegments path)

/-- The directory part of a forward-slash path, empty at the top. -/
def directory (path : String) : String :=
  match Text.cutLast? '/' path.toList with
  | some (before, _) => String.ofList before
  | none => ""

/-- The last segment of a forward-slash path. -/
def lastSegment (path : String) : String :=
  match Text.cutLast? '/' path.toList with
  | some (_, after) => String.ofList after
  | none => path

end LayerAudit.Path
