import LayerAudit.Proofs.Files.Lookup

/-!
Where a path leads depends only on the places that it looks at, and it still leads there while directories and links
stay what they are.
-/

namespace LayerAudit.FileSystem

variable {files before after : FileSystem} {throughLast : Bool} {path : String} {place : List String}

/-! ### Looking -/

/-- A path is followed by looking at the place. -/
def LooksAt (files : FileSystem) (throughLast : Bool) (path : String) (place : List String) : Prop :=
  ∃ trail, place ∈ trail ∧
    Leads files throughLast mostLinks (startOf files.workingDirectory path) (Location.segments path) trail
      (files.follow throughLast mostLinks (startOf files.workingDirectory path) (Location.segments path))

/-- A path leads where its segments do. -/
theorem locate_eq (nonempty : path ≠ "") :
    files.locate throughLast path =
      files.follow throughLast mostLinks (startOf files.workingDirectory path) (Location.segments path) := by
  -- Only the empty path is treated apart.
  rw [locate, if_neg nonempty]
  rfl

/-- A path that leads to something is not empty. -/
theorem ne_empty_of_locate {spot : Spot} (found : files.locate throughLast path = .ok spot) : path ≠ "" := by
  rintro rfl
  simp [locate] at found

/-- A path leads where its segments lead. -/
theorem exists_leads_of_locate {spot : Spot} (found : files.locate throughLast path = .ok spot) :
    ∃ trail, Leads files throughLast mostLinks (startOf files.workingDirectory path) (Location.segments path) trail
      (.ok spot) := by
  rw [locate_eq (ne_empty_of_locate found)] at found
  exact found ▸ exists_leads ..

/-- A path that leads somewhere else does not look at a file. -/
theorem not_looksAt {spot : Spot} {content : ByteArray} (found : files.locate throughLast path = .ok spot)
    (file : files.root.at? place = some (.file content)) (apart : spot ≠ .taken place (.file content)) :
    -- If the path looked at the file, its trail would end there.
    ¬files.LooksAt throughLast path place := by
  rintro ⟨trail, looked, leads⟩
  rw [← locate_eq (ne_empty_of_locate found), found] at leads
  -- A way that looks at a file ends there.
  rcases leads.ends_at_file file looked with ends | ends
  · exact apart (Except.ok.inj ends)
  · cases ends

/-- Where all places that are looked at are alike, a path ends alike. -/
theorem locate_congr (sameDirectory : before.workingDirectory = after.workingDirectory)
    (alike : ∀ place, after.LooksAt throughLast path place →
      FileEntry.Alike (before.root.at? place) (after.root.at? place)) :
    EndsAlike (before.locate throughLast path) (after.locate throughLast path) := by
  by_cases empty : path = ""
  · -- The empty path leads nowhere, whatever the files are.
    simpa [locate, empty] using .failed _
  · rw [locate_eq empty, locate_eq empty, sameDirectory]
    -- The trail of one of the two file systems is followed in the other.
    obtain ⟨trail, leads⟩ := exists_leads after throughLast mostLinks (startOf after.workingDirectory path)
      (Location.segments path)
    exact leads.follow_congr fun place listed => alike place ⟨trail, listed, leads⟩

/-! ### Paths that end alike -/

section

variable (same : EndsAlike (before.locate true path) (after.locate true path))
include same

/-- The content is the same where paths end alike. -/
theorem read_congr : before.read path = after.read path := by
  unfold read
  generalize before.locate true path = first at same
  generalize after.locate true path = second at same
  -- Only of a file is the content read, and a file is like itself alone.
  cases same with
  | taken _ alike => cases alike <;> rfl
  | _ => rfl

/-- The same paths lead somewhere where they end alike. -/
theorem contains_congr : before.contains path = after.contains path := by
  unfold contains entry?
  -- That there is something depends on the kind of the end alone.
  generalize before.locate true path = first at same
  generalize after.locate true path = second at same
  cases same <;> rfl

/-- The place is the same where paths end alike. -/
theorem canonical?_congr : before.canonical? path = after.canonical? path := by
  unfold canonical?
  -- The place stands in the end itself.
  generalize before.locate true path = first at same
  generalize after.locate true path = second at same
  cases same <;> rfl

end

/-! ### What a path leads to -/

/-- The entry of a path is what the path leads to. -/
theorem entry?_eq_some_iff {entry : FileEntry} :
    files.entry? path = some entry ↔ ∃ place, files.locate true path = .ok (.taken place entry) := by
  unfold entry?
  rcases files.locate true path with failure | ⟨place, other⟩ | ⟨place, slash⟩ <;> simp

/-- A path to a directory ends there. -/
theorem isDirectory_iff : files.isDirectory path = true ↔
    ∃ place entries, files.locate true path = .ok (.taken place (.directory entries)) := by
  -- An entry that is a directory is the one that the path leads to.
  rw [isDirectory, Option.any_eq_true]
  constructor
  · rintro ⟨entry, found, directory⟩
    obtain ⟨place, located⟩ := entry?_eq_some_iff.mp found
    cases entry with
    | directory entries => exact ⟨place, entries, located⟩
    | _ => cases directory
  · rintro ⟨place, entries, located⟩
    exact ⟨.directory entries, entry?_eq_some_iff.mpr ⟨place, located⟩, rfl⟩

/-- Where a path led before, it leads after an entry was put there that fits. -/
theorem locate_onto {spot : Spot} (found : before.locate throughLast path = .ok spot)
    (sameDirectory : before.workingDirectory = after.workingDirectory) (keeps : Keeps before after)
    (fits : Fits after spot) : ∃ entry, after.locate throughLast path = .ok (.taken spot.place entry) := by
  -- The same trail is walked again, with the entry at its end put in place of the earlier one.
  obtain ⟨_, leads⟩ := exists_leads_of_locate found
  obtain ⟨_, entry, after⟩ := leads.onto keeps fits
  rw [locate_eq (ne_empty_of_locate found), ← sameDirectory, after.follow_eq]
  exact ⟨entry, rfl⟩

/-- What a path leads to is there. -/
theorem there_of_locate {entry : FileEntry} (found : files.locate throughLast path = .ok (.taken place entry)) :
    files.root.at? place = some entry := by
  obtain ⟨_, leads⟩ := exists_leads_of_locate found
  exact leads.there

/-- Unless a path ends at a link that is not followed, it leads to the same spot when it is. -/
theorem locate_with_last_link {spot : Spot} (found : files.locate false path = .ok spot)
    (noLink : ∀ place target, spot ≠ .taken place (.link target)) : files.locate true path = .ok spot := by
  obtain ⟨_, leads⟩ := exists_leads_of_locate found
  rw [locate_eq (ne_empty_of_locate found), (leads.with_last_link noLink).follow_eq]

/-- A path that leads somewhere when all links are followed does so when a last link is not. -/
theorem locate_without_last_link {entry : FileEntry} (found : files.locate true path = .ok (.taken place entry)) :
    ∃ place entry, files.locate false path = .ok (.taken place entry) := by
  -- The walk without the last link stops one step earlier, at an entry all the same.
  obtain ⟨_, leads⟩ := exists_leads_of_locate found
  obtain ⟨_, other, end_, leads⟩ := leads.without_last_link
  exact ⟨other, end_, by rw [locate_eq (ne_empty_of_locate found), leads.follow_eq]⟩

/-- A path leads to a directory that is at the spot where it led before. -/
theorem isDirectory_onto {spot : Spot} (found : before.locate true path = .ok spot)
    (sameDirectory : before.workingDirectory = after.workingDirectory) (keeps : Keeps before after)
    (there : after.HasDirectory spot.place) : after.isDirectory path := by
  -- The place is reached again, since the directory is there to be walked on.
  obtain ⟨entry, leads⟩ := locate_onto found sameDirectory keeps (.directory there)
  obtain ⟨entries, there⟩ := there
  -- The path leads to the place, and what is there is the directory.
  cases Option.some.inj ((there_of_locate leads).symm.trans there)
  exact isDirectory_iff.mpr ⟨_, _, leads⟩

/-- A path still leads to a directory while all directories and links stay. -/
theorem isDirectory_of_keeps (sameDirectory : before.workingDirectory = after.workingDirectory)
    (keeps : Keeps before after) (found : before.isDirectory path) : after.isDirectory path := by
  obtain ⟨place, entries, leads⟩ := isDirectory_iff.mp found
  exact isDirectory_onto leads sameDirectory keeps (keeps.directories place ⟨entries, there_of_locate leads⟩)

end LayerAudit.FileSystem
