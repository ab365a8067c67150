import LayerAudit.Proofs.Files.Paths

/-!
Making directories and writing a file change what they are about and keep everything else. What was made or written is
there afterwards.
-/

namespace LayerAudit.FileSystem

/-- The tree is well-formed, and the working directory is in it. -/
structure WellFormed (files : FileSystem) : Prop where
  tree : files.root.WellFormed
  here : files.HasDirectory files.workingDirectory

/-- There are the same entries, and perhaps some more directories. -/
structure Grows (before after : FileSystem) : Prop where
  sameDirectory : before.workingDirectory = after.workingDirectory
  places : ∀ place, FileEntry.Alike (before.root.at? place) (after.root.at? place) ∨
    before.root.at? place = none ∧ after.HasDirectory place

variable {files before after : FileSystem} {throughLast : Bool} {path : String} {place : List String}

/-! ### Slots -/

/-- A path is followed from a directory. -/
theorem WellFormed.start (well : files.WellFormed) (path : String) :
    files.HasDirectory (startOf files.workingDirectory path) :=
  well.here.startOf path

/-- A free place that a path leads to is a slot. -/
theorem WellFormed.isSlot_free {slash : Bool} (well : files.WellFormed)
    (found : files.locate throughLast path = .ok (.free place slash)) :
    files.IsSlot place ∧ files.root.at? place = none := by
  obtain ⟨_, leads⟩ := exists_leads_of_locate found
  exact leads.isSlot_free (well.start path) fun _ member => not_mem_segments member

/-- The place of a file is a slot. -/
theorem WellFormed.isSlot_file {content : ByteArray} (well : files.WellFormed)
    (there : files.root.at? place = some (.file content)) : files.IsSlot place := by
  rcases List.eq_nil_or_concat place with rfl | ⟨parent, name, rfl⟩
  · -- The root is a directory, as the working directory is below it.
    obtain ⟨_, root⟩ := well.here.root
    simp [root] at there
  · rw [List.concat_eq_append] at there ⊢
    -- Below the root the last name is that of the file in its directory.
    have isEntryName := well.tree.isEntryName there name (by simp)
    refine ⟨⟨parent, name, rfl, FileEntry.directory_of_at? there, isEntryName⟩, fun _ same => ?_⟩
    exact ⟨content, Option.some.inj (same.symm.trans there)⟩

namespace IsSlot

variable {new : FileEntry} (slot : files.IsSlot place)
include slot

/-- What is put into a slot is there. -/
theorem there (new : FileEntry) : (files.put place new).root.at? place = some new := by
  obtain ⟨parent, name, rfl, ⟨_, above⟩, _⟩ := slot.inside
  exact FileEntry.at?_putAt_self above

/-- Putting an entry without others into a slot changes no other place. -/
theorem elsewhere (bare : new.IsBare) {other : List String} (apart : other ≠ place) :
    FileEntry.Alike (files.root.at? other) ((files.put place new).root.at? other) := by
  obtain ⟨parent, name, rfl, ⟨_, above⟩, _⟩ := slot.inside
  refine FileEntry.alike_putAt above (fun old found => ?_) bare apart
  obtain ⟨content, rfl⟩ := slot.plain old found
  exact FileEntry.isBare_file content

/-- Directories and links stay when an entry is put into a slot. -/
theorem keeps (bare : new.IsBare) : Keeps files (files.put place new) where
  directories other found := by
    obtain ⟨entries, there⟩ := found
    -- In the slot there is at most a file.
    have apart : other ≠ place := fun same => by cases (slot.plain _ (same ▸ there)).choose_spec
    exact (there ▸ slot.elsewhere bare apart).symm.of_directory
  links other target there := by
    have apart : other ≠ place := fun same => by cases (slot.plain _ (same ▸ there)).choose_spec
    exact (there ▸ slot.elsewhere bare apart).symm.of_link

/-- Putting an entry without others into a slot keeps the files well-formed. -/
theorem wellFormed (bare : new.IsBare) (newWell : new.WellFormed) (well : files.WellFormed) :
    (files.put place new).WellFormed where
  tree := by
    obtain ⟨parent, name, rfl, ⟨_, above⟩, isEntryName⟩ := slot.inside
    exact well.tree.putAt newWell isEntryName above
  here := (slot.keeps bare).directories _ well.here

end IsSlot

/-! ### Directories -/

namespace Grows

/-- Nothing has to be made. -/
theorem refl (files : FileSystem) : files.Grows files := ⟨rfl, fun _ => Or.inl (.refl _)⟩

/-- More directories can be made later. -/
theorem trans {last : FileSystem} (first : before.Grows after) (second : after.Grows last) : before.Grows last where
  sameDirectory := first.sameDirectory.trans second.sameDirectory
  places place := by
    -- A directory is made by the first or by the second, and stays after that.
    rcases second.places place with alike | ⟨nothing, made⟩
    · rcases first.places place with same | ⟨nothing, _, made⟩
      · exact Or.inl (same.trans alike)
      · exact Or.inr ⟨nothing, (made ▸ alike).symm.of_directory⟩
    · rcases first.places place with same | ⟨free, _⟩
      · exact Or.inr ⟨(nothing ▸ same).of_nothing, made⟩
      · exact Or.inr ⟨free, made⟩

/-- What is there stays there. -/
theorem keeps (grows : before.Grows after) : Keeps before after where
  directories place found := by
    -- What was there is a directory, so that it is not one of the places where nothing was.
    obtain ⟨entries, there⟩ := found
    rcases grows.places place with alike | ⟨nothing, _⟩
    · exact (there ▸ alike).symm.of_directory
    · simp [there] at nothing
  links place target there := by
    rcases grows.places place with alike | ⟨nothing, _⟩
    · exact (there ▸ alike).symm.of_link
    · simp [there] at nothing

/-- No file and no link is made or lost. -/
theorem leaf_iff (grows : before.Grows after) {entry : FileEntry} (leaf : entry.isDirectory = false) :
    before.root.at? place = some entry ↔ after.root.at? place = some entry := by
  rcases grows.places place with alike | ⟨nothing, _, made⟩
  · exact alike.leaf_iff leaf
  · -- What was made is a directory.
    rw [nothing, made]
    refine ⟨fun same => (by cases same), fun same => ?_⟩
    cases same
    cases leaf

end Grows

/-- Making a directory makes nothing else. -/
theorem makeDirectory_grows (well : files.WellFormed) (made : files.makeDirectory path = .ok after) :
    after.WellFormed ∧ files.Grows after ∧ after.isDirectory path := by
  unfold makeDirectory at made
  split at made
  · -- Something is at the path already, and the call fails.
    cases made
  · rename_i place slash found
    cases made
    obtain ⟨slot, nothing⟩ := well.isSlot_free found
    have bare := FileEntry.isBare_empty
    have there : (files.put place (.directory [])).HasDirectory place := ⟨[], slot.there _⟩
    refine ⟨slot.wellFormed bare (.directory .nil (by simp) (by simp)) well, ⟨rfl, fun other => ?_⟩, ?_⟩
    · -- At the place there was nothing, and no other one changes.
      by_cases same : other = place
      · subst same
        exact Or.inr ⟨nothing, there⟩
      · exact Or.inl (slot.elsewhere bare same)
    · -- The path leads to the place, be it through a link.
      exact isDirectory_onto (locate_with_last_link found (by simp)) rfl (slot.keeps bare) there
  · cases made

/-- A directory that is there is not made again. -/
theorem ensureDirectory_of_isDirectory (there : files.isDirectory path) :
    files.ensureDirectory path = (files, none) := by
  obtain ⟨_, _, leads⟩ := isDirectory_iff.mp there
  obtain ⟨_, _, taken⟩ := locate_without_last_link leads
  simp [ensureDirectory, makeDirectory, taken, there]

/-- Files after some directories were asked for: they are well-formed and have grown. -/
structure Made (before : FileSystem) (outcome : FileSystem × Option FileFailure) : Prop where
  wellFormed : outcome.1.WellFormed
  grows : before.Grows outcome.1

/-- A directory is there when it was asked for without a failure. -/
theorem ensureDirectory_made (well : files.WellFormed) (path : String) :
    Made files (files.ensureDirectory path) ∧
      ((files.ensureDirectory path).2 = none → (files.ensureDirectory path).1.isDirectory path) := by
  unfold ensureDirectory
  split
  · rename_i after made
    obtain ⟨wellAfter, grows, there⟩ := makeDirectory_grows well made
    exact ⟨⟨wellAfter, grows⟩, fun _ => there⟩
  · -- The directory could not be made, be it since it is there.
    split
    · rename_i present
      exact ⟨⟨well, .refl _⟩, fun _ => (Bool.and_eq_true_iff.mp present).2⟩
    · exact ⟨⟨well, .refl _⟩, fun done => by cases done⟩

/-- The first of some directories is there when they were asked for without a failure. -/
theorem ensureLineage_made (well : files.WellFormed) (paths : List String) :
    Made files (files.ensureLineage paths) ∧
      ((files.ensureLineage paths).2 = none →
        ∀ path ∈ paths.head?, (files.ensureLineage paths).1.isDirectory path) := by
  induction paths generalizing files with
  | nil => exact ⟨⟨well, .refl _⟩, fun _ _ member => by cases member⟩
  | cons path above ih =>
    obtain ⟨made, there⟩ := ensureDirectory_made well path
    rw [ensureLineage]
    split
    · -- The directories above come first, and then this one is asked for again.
      rename_i after missing
      rw [missing] at made
      obtain ⟨madeAbove, _⟩ := ih made.wellFormed
      split
      · rename_i last done
        rw [done] at madeAbove
        obtain ⟨again, there⟩ := ensureDirectory_made madeAbove.wellFormed path
        refine ⟨⟨again.wellFormed, made.grows.trans (madeAbove.grows.trans again.grows)⟩, fun done _ same => ?_⟩
        cases same
        exact there done
      · -- Directories that were made before a failure stay.
        rename_i failed
        refine ⟨⟨madeAbove.wellFormed, made.grows.trans madeAbove.grows⟩, fun done => ?_⟩
        exact (failed _ (Prod.ext rfl done)).elim
    · -- The call made the directory, or failed for another reason than a missing directory above.
      refine ⟨made, fun done _ same => ?_⟩
      cases same
      exact there done

/-- Directories that were asked for without a failure are there, and asking for them again makes nothing. -/
theorem ensureLineage_again (well : files.WellFormed) (paths : List String)
    (done : (files.ensureLineage paths).2 = none)
    (sameDirectory : (files.ensureLineage paths).1.workingDirectory = after.workingDirectory)
    (keeps : Keeps (files.ensureLineage paths).1 after) : after.ensureLineage paths = (after, none) := by
  cases paths with
  | nil => rfl
  | cons path above =>
    -- The nearest directory is asked for first, and since it is there the others are not asked for.
    have there := (ensureLineage_made well (path :: above)).2 done path rfl
    rw [ensureLineage, ensureDirectory_of_isDirectory (isDirectory_of_keeps sameDirectory keeps there)]

/-! ### Files -/

/-- A path leads to a place where a file is or can be. -/
inductive TakesFile (files : FileSystem) (path : String) : List String → Prop
  | earlier {place : List String} {content : ByteArray}
    (found : files.locate true path = .ok (.taken place (.file content))) :
    TakesFile files path place
  | free {place : List String} (found : files.locate true path = .ok (.free place false)) : TakesFile files path place

/-- A file is written to a place that takes it. -/
theorem TakesFile.write_eq (takes : files.TakesFile path place) (content : ByteArray) :
    files.write path content = .ok (files.put place (.file content)) := by
  cases takes with
  | earlier found => simp [write, found]
  | free found => simp [write, found]

/-- A file is written only to a place that takes it. -/
theorem takesFile_of_write {content : ByteArray} (written : files.write path content = .ok after) :
    ∃ place, files.TakesFile path place := by
  unfold write at written
  split at written
  · -- A file is there, which is overwritten.
    exact ⟨_, .earlier ‹_›⟩
  · cases written
  · cases written
  · rename_i place slash found
    -- A free place takes a file unless a slash is written behind its name.
    cases slash with
    | false => exact ⟨place, .free found⟩
    | true => cases written
  · cases written

/-- The place that takes a file is a slot. -/
theorem TakesFile.isSlot (takes : files.TakesFile path place) (well : files.WellFormed) : files.IsSlot place := by
  cases takes with
  | earlier found => exact well.isSlot_file (there_of_locate found)
  | free found => exact (well.isSlot_free found).1

/-- A file that was written is where the path leads. -/
theorem TakesFile.locate_written (takes : files.TakesFile path place) (well : files.WellFormed) (content : ByteArray) :
    (files.put place (.file content)).locate true path = .ok (.taken place (.file content)) := by
  have slot := takes.isSlot well
  have keeps := slot.keeps (FileEntry.isBare_file content)
  have there := slot.there (.file content)
  obtain ⟨entry, leads⟩ : ∃ entry, (files.put place (.file content)).locate true path = .ok (.taken place entry) := by
    -- The path leads to the place as before: to the file that was there, or to the free place.
    cases takes with
    | earlier found => exact locate_onto found rfl keeps (.taken there)
    | free found => exact locate_onto found rfl keeps (.free there rfl)
  cases Option.some.inj ((there_of_locate leads).symm.trans there)
  exact leads

end LayerAudit.FileSystem
