import LayerAudit.Proofs.Path.Walk

/-!
A path that consists of names is its own normal form. From the directory of a file with such a path, as many parent
segments as it is deep lead up to the root.
-/

namespace LayerAudit.Path

/-- A path consists of names alone. -/
structure IsNormal (path : String) : Prop where
  noBackslash : '\\' ∉ path.toList
  plain : ∀ segment ∈ segments path, IsPlain segment

instance (path : String) : Decidable (IsNormal path) :=
  decidable_of_iff ('\\' ∉ path.toList ∧ ∀ segment ∈ segments path, IsPlain segment)
    ⟨fun ⟨noBackslash, plain⟩ => ⟨noBackslash, plain⟩, fun normal => ⟨normal.noBackslash, normal.plain⟩⟩

/-- The number of directories that a file lies in, one inside the other. -/
def depth (path : String) : Nat := (segments path).length - 1

/-- The way up to the root from a directory at some depth, as a specifier begins with it. -/
def ascent (depth : Nat) : String := if depth = 0 then "./" else String.join (List.replicate depth "../")

variable {path first second : String} {names : List String}

/-! ### Joined paths -/

/-- The segments of a path behind a slash follow those before it. -/
theorem segments_slash (first second : String) :
    segments (first ++ "/" ++ second) = segments first ++ segments second := by
  have slash : Text.slashed "/" = "/" := rfl
  simp [segments, slash, Text.pieces_append]

/-- A path behind a slash is walked from where the path before it leads. -/
theorem walk?_slash (first second : String) (stack : List String) :
    walk? (first ++ "/" ++ second) stack = (walk? first stack).bind (walk? second) := by
  rw [walk?, segments_slash, List.foldlM_append]
  rfl

/-- A path of names leads down along them. -/
theorem walk?_plain (plain : ∀ segment ∈ segments path, IsPlain segment) (stack : List String) :
    walk? path stack = some ((segments path).reverse ++ stack) :=
  foldlM_plain plain stack

/-- A dot leads nowhere else. -/
theorem walk?_here (path : String) (stack : List String) : walk? ("./" ++ path) stack = walk? path stack := by
  have split : "./" = "." ++ "/" := rfl
  have only : segments "." = ["."] := rfl
  rw [split, walk?_slash]
  simp [walk?, only, step?]

/-- A parent segment leads out of the innermost directory. -/
theorem walk?_parent (path : String) (stack : List String) :
    walk? ("../" ++ path) stack = stack.tail?.bind (walk? path) := by
  have split : "../" = ".." ++ "/" := rfl
  have only : segments ".." = [".."] := rfl
  rw [split, walk?_slash]
  simp [walk?, only, step?_above]

/-- As many parent segments lead out of as many directories. -/
theorem walk?_parents (names : List String) (path : String) (stack : List String) :
    walk? (String.join (List.replicate names.length "../") ++ path) (names ++ stack) = walk? path stack := by
  induction names with
  | nil => simp
  | cons name outer ih =>
    -- The first parent segment leaves the innermost directory, and the others those around it.
    rw [List.length_cons, List.replicate_succ, String.join_cons, String.append_assoc, walk?_parent, List.cons_append,
      List.tail?_cons, Option.bind_some, ih]

/-- The way up leaves all the directories that it is meant for. -/
theorem walk?_ascent (names : List String) (path : String) (stack : List String) :
    walk? (ascent names.length ++ path) (names ++ stack) = walk? path stack := by
  unfold ascent
  split
  · -- There is no directory to leave.
    rename_i flat
    rw [List.eq_nil_of_length_eq_zero flat, walk?_here, List.nil_append]
  · exact walk?_parents names path stack

/-! ### Normal paths -/

/-- Names are followed down. -/
theorem foldl_follow_plain (plain : ∀ name ∈ names, IsPlain name) (place : List String) :
    names.foldl follow place = names.reverse ++ place := by
  induction names generalizing place with
  | nil => rfl
  | cons name rest ih =>
    -- A name is entered, whatever the place is.
    obtain ⟨nonempty, notHere, notAbove⟩ := plain name (List.mem_cons_self ..)
    have entered : follow place name = name :: place := by simp [follow, nonempty, notHere, notAbove]
    rw [List.foldl_cons, entered, ih fun other member => plain other (List.mem_cons_of_mem _ member)]
    simp

namespace IsNormal

/-- A path of names is its own normal form. -/
theorem normalize_eq (normal : IsNormal path) : normalize path = path := by
  have same : normalSegments path = segments path := by
    rw [normalSegments, foldl_follow_plain normal.plain]
    simp
  rw [normalize, same, segments, Text.slashed_eq_self normal.noBackslash]
  simpa using Text.joinWith_pieces '/' path.toList

/-- A file lies in the root, or its directory is a path of as many names as the file is deep. -/
theorem directory_cases (normal : IsNormal path) :
    (directory path = "" ∧ depth path = 0) ∨
      directory path ≠ "" ∧ (segments (directory path)).length = depth path ∧
        ∀ segment ∈ segments (directory path), IsPlain segment := by
  cases found : Text.cutLast? '/' path.toList with
  | none =>
    -- Without a slash there is only one segment.
    have only : Text.pieces '/' path.toList = [path.toList] :=
      Text.pieces_of_not_mem (Text.cutLast?_eq_none_iff.mp found)
    left
    simp [directory, found, depth, segments, Text.slashed_eq_self normal.noBackslash, only]
  | some parts =>
    obtain ⟨before, after⟩ := parts
    obtain ⟨split, noSlash⟩ := Text.cutLast?_split found
    have isDirectory : directory path = String.ofList before := by simp [directory, found]
    -- The path is its directory and the name of the file, with the last slash between them.
    have whole : path = directory path ++ "/" ++ String.ofList after := by
      rw [isDirectory, ← String.toList_inj, split]
      simp
    -- What stands behind the last slash is one segment more.
    have last : segments (String.ofList after) = [String.ofList after] := by
      have noBackslash : '\\' ∉ (String.ofList after).toList := by
        intro member
        refine normal.noBackslash ?_
        rw [split]
        simpa using Or.inr member
      rw [segments, Text.slashed_eq_self noBackslash, String.toList_ofList, Text.pieces_of_not_mem noSlash]
      rfl
    have segmentsOf : segments path = segments (directory path) ++ [String.ofList after] := by
      rw [← last, ← segments_slash, ← whole]
    have plain : ∀ segment ∈ segments (directory path), IsPlain segment := by
      intro segment member
      refine normal.plain segment ?_
      rw [segmentsOf]
      exact List.mem_append_left _ member
    -- A directory of names has no empty segment, as the empty path has.
    refine Or.inr ⟨fun empty => ?_, by simp [depth, segmentsOf], plain⟩
    have emptySegment : "" ∈ segments (directory path) := by
      rw [empty]
      decide
    exact (plain "" emptySegment).nonempty rfl

end IsNormal

end LayerAudit.Path
