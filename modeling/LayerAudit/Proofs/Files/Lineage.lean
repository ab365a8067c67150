import LayerAudit.Proofs.Files.Location
import LayerAudit.Proofs.Iteration

/-!
The directories above a path, one step at a time. Going up from directory to directory gives the same as taking all of
them from the written path at once. The path itself may be written with dots and empty segments; a name that is joined
to it leads to the same spot without them.
-/

namespace LayerAudit

namespace Location

variable {path directory : String} {reversed : List String} {steps : Nat}

/-! ### Segments -/

/-- The segments that lead away from where one is. -/
def moves (segments : List String) : List String := segments.filter fun segment => segment ≠ "" ∧ segment ≠ "."

/-- The moves of two lists of segments come one after another. -/
theorem moves_append (first second : List String) : moves (first ++ second) = moves first ++ moves second :=
  List.filter_append ..

/-- Among moves all segments are moves. -/
theorem moves_moves (segments : List String) : moves (moves segments) = moves segments := by
  simp [moves, List.filter_filter]

/-- A segment holds no slash. -/
theorem not_mem_segment {segment : String} (member : segment ∈ segments path) : '/' ∉ segment.toList := by
  obtain ⟨piece, isPiece, rfl⟩ := List.mem_map.mp member
  simpa using Text.not_mem_of_mem_pieces isPiece

/-- Every path has a segment. -/
theorem segments_ne_nil (path : String) : segments path ≠ [] := by
  simpa [segments] using Text.pieces_ne_nil '/' path.toList

/-- The path of some segments has these segments. -/
theorem segments_ofReversed (nonempty : reversed ≠ []) (slashless : ∀ segment ∈ reversed, '/' ∉ segment.toList) :
    segments (ofReversed reversed) = reversed.reverse :=
  Text.pieces_joinWith (by simpa using nonempty) fun segment member => slashless segment (List.mem_reverse.mp member)

/-- A text without a slash is one segment. -/
theorem segments_of_not_mem (slashless : '/' ∉ path.toList) : segments path = [path] := by
  simp [segments, Text.pieces_of_not_mem slashless]

/-- A path that is not empty begins with a slash exactly if its first segment is empty. -/
theorem isStartOf_slash_iff (nonempty : path ≠ "") :
    Text.isStartOf "/" path = true ↔ (segments path).head? = some "" := by
  obtain ⟨c, rest, split⟩ := List.exists_cons_of_ne_nil (mt String.toList_eq_nil_iff.mp nonempty)
  obtain ⟨piece, others, _, pieces⟩ := Text.pieces_cons '/' c rest
  rw [isStartOf_slash, segments, split, pieces]
  by_cases slash : c = '/'
  · -- A slash at the front parts an empty first segment from the rest.
    simp [slash]
  · simp [slash, ← String.toList_eq_nil_iff]

/-! ### Directories above -/

/-- A path that is not empty has the lineage of its segments. -/
theorem lineage_of_ne_empty (nonempty : path ≠ "") : lineage path = lineageOf (segments path).reverse :=
  if_neg nonempty

/-- A path of some segments, of which the last one leads away, is not empty. -/
theorem ofReversed_ne_empty {segment : String} {above : List String}
    (slashless : ∀ part ∈ segment :: above, '/' ∉ part.toList) (leads : segment ≠ "") :
    ofReversed (segment :: above) ≠ "" := by
  intro empty
  -- An empty path would have one segment, the empty one, but the last segment here is not empty.
  have only := segments_ofReversed (List.cons_ne_nil segment above) slashless
  rw [empty] at only
  have member : segment ∈ segments "" := only ▸ List.mem_reverse.mpr (List.mem_cons_self ..)
  exact leads (List.mem_singleton.mp member)

/-- Above each of the directories are the ones behind it. -/
theorem lineage_of_getElem?_lineageOf (slashless : ∀ segment ∈ reversed, '/' ∉ segment.toList)
    (found : (lineageOf reversed)[steps]? = some directory) :
    lineage directory = (lineageOf reversed).drop steps := by
  fun_induction lineageOf reversed generalizing steps with
  | case1 => simp at found
  | case2 =>
    -- The root has nothing above it.
    obtain ⟨rfl, rfl⟩ : steps = 0 ∧ "/" = directory := by
      cases steps <;> simp_all
    decide
  -- A single segment has only the empty path above it, which stands for the working directory.
  | case3 first nonempty =>
    have only : lineage first = [first, ""] := by
      rw [lineage_of_ne_empty nonempty, segments_of_not_mem (slashless first (List.mem_singleton_self _))]
      exact if_neg nonempty
    match steps with
    | 0 =>
      cases found
      exact only
    | 1 =>
      cases found
      rfl
    | steps + 2 => simp at found
  -- A segment that does not lead away is passed, and the directories are those of the rest.
  | case4 segment above _ passed ih =>
    exact ih (fun part member => slashless part (List.mem_cons_of_mem _ member)) found
  -- The segment leads away: the path to it comes first, and the others are those above it.
  | case5 segment above isLast leads ih =>
    cases steps with
    | zero =>
      cases found
      have nonempty := ofReversed_ne_empty slashless (not_or.mp leads).1
      rw [lineage_of_ne_empty nonempty, segments_ofReversed (List.cons_ne_nil _ _) slashless, List.reverse_reverse,
        List.drop_zero, lineageOf, if_neg leads]
      exact isLast
    | succ steps => exact ih (fun part member => slashless part (List.mem_cons_of_mem _ member)) found

/-- Above each of the directories are the ones behind it. -/
theorem lineage_of_getElem? (found : (lineage path)[steps]? = some directory) :
    lineage directory = (lineage path).drop steps := by
  by_cases empty : path = ""
  · subst empty
    obtain ⟨rfl, rfl⟩ : steps = 0 ∧ "" = directory := by
      cases steps <;> simp_all [lineage]
    rfl
  · rw [lineage_of_ne_empty empty] at found ⊢
    exact lineage_of_getElem?_lineageOf (fun segment member => not_mem_segment (List.mem_reverse.mp member)) found

/-- Going up step by step leads to the directories above. -/
theorem iterate?_parent? (steps : Nat) (path : String) :
    iterate? parent? (steps + 1) path = (lineage path)[steps + 1]? := by
  induction steps generalizing path with
  | zero => simp [iterate?, parent?]
  | succ steps ih =>
    rw [iterate?]
    cases above : parent? path with
    -- Nothing is above the path, so that its lineage is the path alone.
    | none =>
      have short : (lineage path).length ≤ 1 := List.getElem?_eq_none_iff.mp above
      exact (List.getElem?_eq_none (by omega)).symm
    | some directory =>
      rw [Option.bind_some, ih, lineage_of_getElem? above, List.getElem?_drop]
      congr 1
      omega

/-- Going up comes to an end. -/
theorem exists_iterate?_parent?_eq_none (path : String) : ∃ steps, iterate? parent? steps path = none :=
  ⟨(lineage path).length + 1, by rw [iterate?_parent?]; exact List.getElem?_eq_none (by omega)⟩

/-! ### The path itself -/

/-- The nearest of the directories is the path without what does not lead away. -/
theorem head_lineageOf (slashless : ∀ segment ∈ reversed, '/' ∉ segment.toList)
    (found : (lineageOf reversed)[0]? = some directory) :
    directory ≠ "" ∧ (segments directory).head? = reversed.getLast? ∧
      moves (segments directory) = moves reversed.reverse := by
  fun_induction lineageOf reversed with
  | case1 => simp at found
  | case2 =>
    cases found
    decide
  -- A single segment is the whole path.
  | case3 first nonempty =>
    cases found
    rw [segments_of_not_mem (slashless _ (List.mem_singleton_self _))]
    exact ⟨nonempty, rfl, rfl⟩
  | case4 segment above more passed ih =>
    obtain ⟨nonempty, first, same⟩ :=
      ih (fun part member => slashless part (List.mem_cons_of_mem _ member)) found
    refine ⟨nonempty, ?_, ?_⟩
    · rw [first, List.getLast?_cons_of_ne_nil more]
    · -- The segment that is passed over is no move.
      have none : moves [segment] = [] := by simpa [moves, or_iff_not_imp_left] using passed
      rw [same, List.reverse_cons, moves, moves, List.filter_append]
      exact (List.append_nil _).symm.trans (congrArg _ none.symm)
  -- The nearest directory is the path up to this segment, of which nothing is left out.
  | case5 segment above more leads ih =>
    cases found
    rw [segments_ofReversed (List.cons_ne_nil _ _) slashless, List.head?_reverse]
    exact ⟨ofReversed_ne_empty slashless (not_or.mp leads).1, rfl, rfl⟩

/-- Segments have a lineage. -/
theorem lineageOf_ne_nil (nonempty : reversed ≠ []) : lineageOf reversed ≠ [] := by
  fun_induction lineageOf reversed with
  | case1 => exact absurd rfl nonempty
  | case4 _ _ more _ ih => exact ih more
  | _ => exact List.cons_ne_nil _ _

/-- A path has a lineage. -/
theorem exists_head_lineage (path : String) : ∃ directory, (lineage path)[0]? = some directory := by
  by_cases empty : path = ""
  · exact ⟨"", by rw [lineage, if_pos empty]; rfl⟩
  · have reversed : (segments path).reverse ≠ [] := mt List.reverse_eq_nil_iff.mp (segments_ne_nil path)
    obtain ⟨directory, rest, split⟩ := List.exists_cons_of_ne_nil (lineageOf_ne_nil reversed)
    exact ⟨directory, by rw [lineage_of_ne_empty empty, split]; rfl⟩

end Location

namespace FileSystem

open Location

variable {files : FileSystem} {throughLast : Bool} {name path directory : String} {steps : Nat}

/-- Before a name, segments that do not lead away make no difference. -/
theorem follow_moves (files : FileSystem) (throughLast : Bool) (isName : IsName name) (links : Nat)
    (here segments : List String) :
    files.follow throughLast links here (moves segments ++ [name]) =
      files.follow throughLast links here (segments ++ [name]) := by
  -- The induction is on the links, since the segments of a link's target come in front of those that follow.
  induction links using Nat.strongRecOn generalizing here segments with
  | _ links ihLinks =>
    induction segments generalizing here with
    | nil => rfl
    | cons segment rest ih =>
      -- A segment that does not lead away is passed on both sides.
      by_cases passed : segment = "" ∨ segment = "."
      · have same : moves (segment :: rest) = moves rest := by
          rw [moves, List.filter_cons_of_neg (by simpa [or_iff_not_imp_left] using passed)]
          rfl
        rw [same, ih, List.cons_append, follow, if_pos passed]
      · have kept : moves (segment :: rest) = segment :: moves rest := by
          rw [moves, List.filter_cons_of_pos (by simpa using not_or.mp passed)]
          rfl
        -- The name behind keeps the segments from being the last ones.
        have notLast (before : List String) : (before ++ [name]).all (· = "") = false := by
          simp [isName.nonempty]
        have notEmpty (before : List String) : (before ++ [name]).isEmpty = false := by simp
        rw [kept, List.cons_append, List.cons_append, follow, follow, if_neg passed, if_neg passed]
        simp only [ih, notLast, notEmpty, Bool.false_and, Bool.false_eq_true, if_false]
        -- On both sides the step is the same: up, to nothing, through a file, into a directory or along a link.
        split
        · rfl
        · split
          · rfl
          · split
            · rfl
            · rfl
            · rfl
            · -- A link leads on with its target in front, and with one link less.
              rename_i target _
              cases links with
              | zero => rfl
              | succ links =>
                have less : links < links + 1 := Nat.lt_succ_self links
                dsimp only
                rw [← List.append_assoc, ← List.append_assoc, ← ihLinks links less _ (segments target ++ moves rest),
                  ← ihLinks links less _ (segments target ++ rest), moves_append, moves_append, moves_moves]

/-- A name that is joined to a path leads on from where the moves of the path lead. -/
theorem locate_join (files : FileSystem) (throughLast : Bool) (isEntryName : IsEntryName name) (path : String) :
    files.locate throughLast (join path name) =
      files.follow throughLast mostLinks (startOf files.workingDirectory path) (moves (segments path) ++ [name]) := by
  -- A name has no slash, so that it is no path of its own.
  have relative : Text.isStartOf "/" name = false := by
    refine eq_false_of_ne_true fun starts => ?_
    obtain ⟨rest, split⟩ := isStartOf_slash.mp starts
    exact isEntryName.noSlash (split ▸ List.mem_cons_self ..)
  have only : segments name = [name] := segments_of_not_mem isEntryName.noSlash
  rw [follow_moves files throughLast isEntryName.toIsName]
  -- The empty path adds nothing to the name.
  by_cases empty : path = ""
  · have alone : join path name = name := by simp [join, empty]
    have start : startOf files.workingDirectory path = startOf files.workingDirectory name := by
      rw [startOf, startOf, relative, empty]
      rfl
    have passed : files.follow throughLast mostLinks (startOf files.workingDirectory name) (segments path ++ [name]) =
        files.follow throughLast mostLinks (startOf files.workingDirectory name) [name] := by
      rw [empty]
      exact (follow_moves files throughLast isEntryName.toIsName ..).symm
    rw [alone, locate_eq isEntryName.nonempty, start, only, passed]
  · obtain ⟨first, ends, whole⟩ := segments_join empty relative
    have nonempty : join path name ≠ "" := by
      intro none
      have last := whole
      rw [none, only] at last
      have member : name ∈ segments "" := last ▸ List.mem_append_right _ (List.mem_singleton_self name)
      exact isEntryName.nonempty (List.mem_singleton.mp member)
    -- A slash at the end of the path is no move.
    have same : moves (segments path) = moves first := by
      rcases ends with ends | ends
      · rw [ends]
      · rw [ends, moves_append]
        exact List.append_nil _
    rw [locate_eq nonempty, startOf, isStartOf_join empty relative, whole, only,
      ← follow_moves files throughLast isEntryName.toIsName _ _ first, ← same,
      follow_moves files throughLast isEntryName.toIsName]
    rfl

/-- A name in a directory of the lineage leads to the same spot as one in the directory that is reached step by step. -/
theorem locate_join_of_lineage (files : FileSystem) (throughLast : Bool) (isEntryName : IsEntryName name)
    {reached : String} (listed : (lineage path)[steps]? = some directory)
    (above : iterate? parent? steps path = some reached) :
    files.locate throughLast (join directory name) = files.locate throughLast (join reached name) := by
  -- Only the path itself may be written in two ways; what is above it is the same text either way.
  cases steps with
  | succ steps =>
    rw [iterate?_parent?, listed] at above
    cases above
    rfl
  | zero =>
    cases above
    by_cases empty : path = ""
    · subst empty
      cases listed
      rfl
    · rw [lineage_of_ne_empty empty] at listed
      obtain ⟨nonempty, first, same⟩ :=
        head_lineageOf (fun segment member => not_mem_segment (List.mem_reverse.mp member)) listed
      rw [List.getLast?_reverse] at first
      rw [List.reverse_reverse] at same
      -- Both paths begin at the same place, and make the same moves.
      have absolute : Text.isStartOf "/" directory = Text.isStartOf "/" path := by
        rw [Bool.eq_iff_iff, isStartOf_slash_iff nonempty, isStartOf_slash_iff empty, first]
      rw [locate_join files throughLast isEntryName, locate_join files throughLast isEntryName, startOf, startOf,
        absolute, same]

end FileSystem

end LayerAudit
