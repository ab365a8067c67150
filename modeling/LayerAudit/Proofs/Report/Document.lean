import LayerAudit.Proofs.Files.Writing
import LayerAudit.Report.Document

/-! Where a document can be written, it is written there and nowhere else, and then it can be written again. -/

namespace LayerAudit.Report

/-- A document can be written: its directory is there or can be made, and then the path leads to where a file is or can
be. -/
structure Writable (files : FileSystem) (path : String) : Prop where
  directory : (ensureParent files path).2 = none
  place : ∃ place, (ensureParent files path).1.TakesFile path place

/-- A file was written, and apart from it there are the same files and links as before. Directories may have been
made. -/
structure Wrote (before after : FileSystem) (path : String) (content : ByteArray) : Prop where
  written : after.read path = .ok content
  others : ∃ place, after.locate true path = .ok (.taken place (.file content)) ∧ ∀ other, other ≠ place →
    ∀ entry, entry.isDirectory = false → (before.root.at? other = some entry ↔ after.root.at? other = some entry)
  directories : ∀ place, before.HasDirectory place → after.HasDirectory place
  sameDirectory : before.workingDirectory = after.workingDirectory

variable {files : FileSystem} {path text : String}

/-- Where a file was written, no file and no link is lost. -/
theorem Wrote.stays {before after : FileSystem} {content : ByteArray} (wrote : Wrote before after path content)
    (place : List String) (entry : FileEntry) (there : before.root.at? place = some entry)
    (leaf : entry.isDirectory = false) : ∃ other, after.root.at? place = some other ∧ other.isDirectory = false := by
  obtain ⟨written, located, others⟩ := wrote.others
  -- At the place of the document there is a file in any case.
  by_cases same : place = written
  · exact ⟨.file content, same ▸ FileSystem.there_of_locate located, rfl⟩
  · exact ⟨entry, (others place same entry leaf).mp there, leaf⟩

/-- Making the directory of a path is asking for some directories, the nearest one first. -/
theorem ensureParent_lineage (path : String) :
    ∃ (above : List String) (error : FileFailure → WriteError), ∀ files, ensureParent files path =
      ((files.ensureLineage above).1, (files.ensureLineage above).2.map error) := by
  unfold ensureParent
  cases Location.parent? path with
  | none =>
    -- Nothing is asked for, so that no failure has to be told.
    exact ⟨[], .directory "", fun _ => rfl⟩
  | some parent =>
    -- The directories of the lineage are asked for, but neither the empty path nor the root.
    refine ⟨(Location.lineage parent).filter fun p => p ≠ "" ∧ p ≠ "/", .directory parent, fun files => ?_⟩
    dsimp only [FileSystem.ensureDirectories]
    split
    all_goals
      rename_i outcome
      rw [outcome]
      rfl

/-- Making the directory of a path makes directories only. -/
theorem ensureParent_grows (well : files.WellFormed) (path : String) :
    (ensureParent files path).1.WellFormed ∧ files.Grows (ensureParent files path).1 := by
  obtain ⟨above, error, same⟩ := ensureParent_lineage path
  have made := (FileSystem.ensureLineage_made well above).1
  rw [same files]
  exact ⟨made.wellFormed, made.grows⟩

/-- A directory that was made for a path is not made again while all directories and links stay. -/
theorem ensureParent_again {after : FileSystem} (well : files.WellFormed) (done : (ensureParent files path).2 = none)
    (sameDirectory : (ensureParent files path).1.workingDirectory = after.workingDirectory)
    (keeps : FileSystem.Keeps (ensureParent files path).1 after) : ensureParent after path = (after, none) := by
  obtain ⟨above, error, same⟩ := ensureParent_lineage path
  rw [same files] at done sameDirectory keeps
  have again := FileSystem.ensureLineage_again well above (Option.map_eq_none_iff.mp done) sameDirectory keeps
  simp [same after, again]

/-- A document that was written could be written. -/
theorem writable_of_writeDocument (text : String) (done : (writeDocument files path text).2 = none) :
    Writable files path := by
  unfold writeDocument at done
  -- The document is written only after its directory was made, and only if the path takes a file.
  split at done
  · cases done
  · rename_i made parent
    split at done
    · rename_i written
      exact ⟨by rw [parent], by rw [parent]; exact FileSystem.takesFile_of_write written⟩
    · cases done

/-- Where a document can be written, it is written there and nowhere else, and it can be written again. -/
theorem Writable.writes (writable : Writable files path) (well : files.WellFormed) (text : String) :
    ∃ after, writeDocument files path text = (after, none) ∧ after.WellFormed ∧
      Wrote files after path (text ++ "\n").toUTF8 ∧ Writable after path := by
  obtain ⟨wellMade, grows⟩ := ensureParent_grows well path
  obtain ⟨done, place, takes⟩ := writable
  rcases parent : ensureParent files path with ⟨made, failure⟩
  simp only [parent] at wellMade grows done takes
  subst done
  -- After the directories there is one more entry, the file in its slot.
  generalize content : (text ++ "\n").toUTF8 = bytes
  have slot := takes.isSlot wellMade
  have bare := FileEntry.isBare_file bytes
  have found := takes.locate_written wellMade bytes
  have again : ensureParent (made.put place (.file bytes)) path = (made.put place (.file bytes), none) :=
    ensureParent_again well (by rw [parent]) (by rw [parent]; rfl) (by rw [parent]; exact slot.keeps bare)
  refine ⟨made.put place (.file bytes), ?_, slot.wellFormed bare (.file _) wellMade, ?_, ?_⟩
  · -- The document is written, in front of a line end.
    simp only [writeDocument, parent, content, takes.write_eq]
  · refine ⟨by simp [FileSystem.read, found], ⟨place, found, fun other apart entry leaf => ?_⟩, fun other there => ?_,
      grows.sameDirectory⟩
    · -- No other file was touched, neither by the directories nor by the document.
      exact (grows.leaf_iff leaf).trans ((slot.elsewhere bare apart).leaf_iff leaf)
    · -- All directories that were there or were made stay.
      exact (slot.keeps bare).directories _ (grows.keeps.directories _ there)
  · -- Its directory is there now, and the document itself is an earlier file.
    exact ⟨by rw [again], place, by rw [again]; exact .earlier found⟩

end LayerAudit.Report
