import LayerAudit.Proofs.Files.Paths

/-! A path below a directory leads to what is there under the names in the path. -/

namespace LayerAudit

namespace Location

variable {names others : List String} {root path : String}

/-- Names joined by slashes are the segments. -/
theorem segments_joinWith (nonempty : names ≠ []) (isEntryName : ∀ name ∈ names, IsEntryName name) :
    segments (Text.joinWith "/" names) = names :=
  Text.pieces_joinWith nonempty fun name member => (isEntryName name member).noSlash

/-- A path of names is not empty. -/
theorem joinWith_ne_empty (nonempty : names ≠ []) (isEntryName : ∀ name ∈ names, IsEntryName name) :
    Text.joinWith "/" names ≠ "" := by
  intro empty
  have only : [""] = names := by simpa [empty, segments, Text.pieces] using segments_joinWith nonempty isEntryName
  exact (isEntryName "" (only ▸ List.mem_singleton_self _)).nonempty rfl

/-- Paths of other names are other paths. -/
theorem joinWith_injective (isEntryName : ∀ name ∈ names, IsEntryName name)
    (otherNames : ∀ name ∈ others, IsEntryName name) (same : Text.joinWith "/" names = Text.joinWith "/" others) :
    names = others := by
  -- Without names the path is empty, and other paths tell their names as segments.
  by_cases first : names = []
  · by_cases second : others = []
    · rw [first, second]
    · exact absurd (by rw [← same, first]; rfl) (joinWith_ne_empty second otherNames)
  · by_cases second : others = []
    · exact absurd (by rw [same, second]; rfl) (joinWith_ne_empty first isEntryName)
    · rw [← segments_joinWith first isEntryName, same, segments_joinWith second otherNames]

/-- A path begins with a slash exactly if its first character is one. -/
theorem isStartOf_slash : Text.isStartOf "/" path = true ↔ ∃ rest, path.toList = '/' :: rest := by
  unfold Text.isStartOf
  rw [List.isPrefixOf_iff_prefix]
  exact exists_congr fun _ => eq_comm

/-- A path ends in a slash exactly if its last character is one. -/
theorem isEndOf_slash : Text.isEndOf "/" path = true ↔ ∃ before, path.toList = before ++ ['/'] := by
  unfold Text.isEndOf
  rw [List.isSuffixOf_iff_suffix]
  exact exists_congr fun _ => eq_comm

/-- A path of names does not begin with a slash. -/
theorem isStartOf_joinWith (nonempty : names ≠ []) (isEntryName : ∀ name ∈ names, IsEntryName name) :
    Text.isStartOf "/" (Text.joinWith "/" names) = false := by
  refine eq_false_of_ne_true fun starts => ?_
  obtain ⟨rest, split⟩ := isStartOf_slash.mp starts
  -- Otherwise the first name is empty.
  have first : "" ∈ segments (Text.joinWith "/" names) := by
    rw [segments, split, ← List.nil_append ('/' :: rest), Text.pieces_append]
    simp [Text.pieces]
  rw [segments_joinWith nonempty isEntryName] at first
  exact (isEntryName "" first).nonempty rfl

/-- What follows a path that is not empty does not change whether it is absolute. -/
theorem isStartOf_append (nonempty : root ≠ "") (path : String) :
    Text.isStartOf "/" (root ++ path) = Text.isStartOf "/" root := by
  obtain ⟨c, rest, split⟩ := List.exists_cons_of_ne_nil (mt String.toList_eq_nil_iff.mp nonempty)
  simp [Text.isStartOf, split, List.isPrefixOf]

/-- The segments of a path from a directory follow those of the directory, which are written with a slash at their end
or without. -/
theorem segments_join (nonempty : root ≠ "") (relative : Text.isStartOf "/" path = false) :
    ∃ first, (segments root = first ∨ segments root = first ++ [""]) ∧
      segments (join root path) = first ++ segments path := by
  have join_eq : join root path = if Text.isEndOf "/" root then root ++ path else root ++ "/" ++ path := by
    simp [join, relative, nonempty]
  rw [join_eq]
  -- A directory may be written with a slash at its end or without.
  by_cases slash : Text.isEndOf "/" root
  · -- The slash is there already, so the last segment of the directory is empty.
    obtain ⟨before, split⟩ := isEndOf_slash.mp slash
    refine ⟨(Text.pieces '/' before).map String.ofList, Or.inr ?_, ?_⟩
    · simp [segments, split, Text.pieces_append, Text.pieces]
    · simp [segments, slash, split, Text.pieces_append]
  · -- Without it a slash is put between, which parts the segments of the two.
    refine ⟨segments root, Or.inl rfl, ?_⟩
    simp [segments, slash, Text.pieces_append]

/-- A path from a directory starts where the directory's path starts. -/
theorem isStartOf_join (nonempty : root ≠ "") (relative : Text.isStartOf "/" path = false) :
    Text.isStartOf "/" (join root path) = Text.isStartOf "/" root := by
  simp only [join, relative, nonempty, Bool.false_eq_true, if_false, Bool.or_false, decide_false]
  split
  · exact isStartOf_append nonempty path
  · rw [String.append_assoc]
    exact isStartOf_append nonempty _

end Location

namespace FileSystem

variable {files : FileSystem} {root : String} {place names : List String} {entries : List (String × FileEntry)}
  {content : ByteArray}

/-- A path of names leads from the working directory to where the names lead. -/
theorem locate_joinWith {throughLast : Bool} {trail : List (List String)} {result : Except FileFailure Spot}
    (nonempty : names ≠ []) (isEntryName : ∀ name ∈ names, IsEntryName name)
    (leads : Leads files throughLast mostLinks files.workingDirectory names trail result) :
    files.locate throughLast (Text.joinWith "/" names) = result := by
  have relative := Location.isStartOf_joinWith nonempty isEntryName
  rw [locate_eq (Location.joinWith_ne_empty nonempty isEntryName), startOf, if_neg (ne_true_of_eq_false relative),
    Location.segments_joinWith nonempty isEntryName]
  exact leads.follow_eq

/-- The names of a directory below the working directory lead to it. -/
theorem locate_directory (throughLast : Bool) (nonempty : names ≠ []) (isEntryName : ∀ name ∈ names, IsEntryName name)
    (there : files.root.at? (files.workingDirectory ++ names) = some (.directory entries)) :
    files.locate throughLast (Text.joinWith "/" names) =
      .ok (.taken (files.workingDirectory ++ names) (.directory entries)) := by
  -- The names lead down one directory after another, and the last one arrives.
  obtain ⟨_, leads⟩ := Leads.descend (fun name member => (isEntryName name member).toIsName) ⟨entries, there⟩
    (.arrived there)
  rw [List.append_nil] at leads
  exact locate_joinWith nonempty isEntryName leads

/-- The names of a directory below the working directory and a new one lead to a free place. -/
theorem locate_free {name : String} (throughLast : Bool) (isEntryName : ∀ other ∈ names ++ [name], IsEntryName other)
    (above : files.HasDirectory (files.workingDirectory ++ names))
    (nothing : files.root.at? (files.workingDirectory ++ names ++ [name]) = none) :
    files.locate throughLast (Text.joinWith "/" (names ++ [name])) =
      .ok (.free (files.workingDirectory ++ names ++ [name]) false) := by
  have isName := isEntryName name (List.mem_append_right _ (List.mem_singleton_self _))
  obtain ⟨_, leads⟩ := Leads.descend
    (fun other member => (isEntryName other (List.mem_append_left _ member)).toIsName) above
    (.free isName.toIsName nothing List.all_nil)
  exact locate_joinWith (by simp) isEntryName leads

/-- The names of a file below a directory lead to it. -/
theorem locate_below (found : files.locate true root = .ok (.taken place (.directory entries)))
    (isEntryName : ∀ name ∈ names, IsEntryName name)
    (there : (FileEntry.directory entries).at? names = some (.file content)) :
    files.locate true (Location.join root (Text.joinWith "/" names)) =
      .ok (.taken (place ++ names) (.file content)) := by
  -- Without names the directory itself would be the file.
  have nonempty : names ≠ [] := by
    rintro rfl
    simp at there
  have rootNonempty := ne_empty_of_locate found
  have relative := Location.isStartOf_joinWith nonempty isEntryName
  obtain ⟨first, rootSegments, segments⟩ := Location.segments_join rootNonempty relative
  obtain ⟨_, leads⟩ := exists_leads_of_locate found
  have atRoot := leads.there
  -- A slash at the end of the root makes no difference.
  obtain ⟨_, leads⟩ : ∃ trail, Leads files true mostLinks (startOf files.workingDirectory root) first trail
      (.ok (.taken place (.directory entries))) := by
    rcases rootSegments with same | slash
    · exact ⟨_, same ▸ leads⟩
    · exact (slash ▸ leads).without_slash
  -- From there the names lead down to the file.
  obtain ⟨left, go⟩ := leads.append names
  have below : files.root.at? (place ++ names) = some (.file content) := by
    rw [FileEntry.at?_append, atRoot]
    exact there
  have isName : ∀ name ∈ names, IsName name := fun name member => (isEntryName name member).toIsName
  obtain ⟨_, descent⟩ := Leads.descend_file left isName nonempty below
  obtain ⟨_, whole⟩ := go descent
  -- The written path is the root with the names behind it, and starts where the root starts.
  have joined : Location.segments (Location.join root (Text.joinWith "/" names)) = first ++ names := by
    rw [segments, Location.segments_joinWith nonempty isEntryName]
  have start : startOf files.workingDirectory (Location.join root (Text.joinWith "/" names)) =
      startOf files.workingDirectory root := by
    rw [startOf, Location.isStartOf_join rootNonempty relative, startOf]
  rw [← joined, ← start] at whole
  have pathNonempty : Location.join root (Text.joinWith "/" names) ≠ "" := by
    intro empty
    have only : [""] = first ++ names := by simpa [empty, Location.segments, Text.pieces] using joined
    obtain ⟨name, member⟩ := List.exists_mem_of_ne_nil names nonempty
    have last : name ∈ [""] := only ▸ List.mem_append_right first member
    exact (isEntryName name member).nonempty (List.mem_singleton.mp last)
  rw [locate_eq pathNonempty, whole.follow_eq]

/-- A file below a directory is read under its names. -/
theorem read_below (found : files.locate true root = .ok (.taken place (.directory entries)))
    (isEntryName : ∀ name ∈ names, IsEntryName name)
    (there : (FileEntry.directory entries).at? names = some (.file content)) :
    files.read (Location.join root (Text.joinWith "/" names)) = .ok content := by
  rw [read, locate_below found isEntryName there]

end FileSystem

end LayerAudit
