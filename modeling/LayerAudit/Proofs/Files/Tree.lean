import LayerAudit.Files.System
import LayerAudit.Proofs.Sorted
import Mathlib.Data.List.Nodup

/-!
Putting an entry into a tree of files changes its own place and no other one, and in a tree without repeated names the
entries that are no directories have one place each.
-/

namespace LayerAudit

/-- The segment of a path leads down: it is the name of something. -/
structure IsName (segment : String) : Prop where
  nonempty : segment ≠ ""
  notHere : segment ≠ "."
  notAbove : segment ≠ ".."
  short : segment.utf8ByteSize ≤ FileSystem.longestName

/-- An entry can have the name. -/
structure IsEntryName (name : String) : Prop extends IsName name where
  noSlash : '/' ∉ name.toList

instance (name : String) : Decidable (IsEntryName name) :=
  decidable_of_iff
    ((name ≠ "" ∧ name ≠ "." ∧ name ≠ ".." ∧ name.utf8ByteSize ≤ FileSystem.longestName) ∧ '/' ∉ name.toList)
    ⟨fun ⟨⟨nonempty, notHere, notAbove, short⟩, noSlash⟩ => ⟨⟨nonempty, notHere, notAbove, short⟩, noSlash⟩,
      fun isName => ⟨⟨isName.nonempty, isName.notHere, isName.notAbove, isName.short⟩, isName.noSlash⟩⟩

namespace FileEntry

/-- Every directory holds its entries under names of their own, sorted by name. -/
inductive WellFormed : FileEntry → Prop
  | file (content : ByteArray) : WellFormed (.file content)
  | link (target : String) : WellFormed (.link target)
  | directory {entries : List (String × FileEntry)} (ordered : Sorted.Ordered entries)
    (named : ∀ entry ∈ entries, IsEntryName entry.1) (below : ∀ entry ∈ entries, entry.2.WellFormed) :
    WellFormed (.directory entries)

/-- At both places there is the same file or link, or a directory with any entries, or nothing. -/
inductive Alike : Option FileEntry → Option FileEntry → Prop
  | nothing : Alike none none
  | file (content : ByteArray) : Alike (some (.file content)) (some (.file content))
  | link (target : String) : Alike (some (.link target)) (some (.link target))
  | directory (entries others : List (String × FileEntry)) :
    Alike (some (.directory entries)) (some (.directory others))

namespace Alike

variable {first second third : Option FileEntry}

/-- Every place is like itself. -/
theorem refl (entry : Option FileEntry) : Alike entry entry := by
  cases entry with
  | none => exact nothing
  | some entry =>
    cases entry with
    | file content => exact file content
    | link target => exact link target
    | directory entries => exact directory entries entries

/-- Likeness goes both ways. -/
theorem symm (alike : Alike first second) : Alike second first := by
  cases alike with
  | nothing => exact nothing
  | file content => exact file content
  | link target => exact link target
  | directory entries others => exact directory others entries

/-- Likeness goes on. -/
theorem trans (one : Alike first second) (other : Alike second third) : Alike first third := by
  cases one with
  | nothing | file | link => exact other
  | directory entries others =>
    cases other with
    | directory _ last => exact directory entries last

/-- At places that are alike there are the same files and links. -/
theorem leaf_iff {entry : FileEntry} (alike : Alike first second) (leaf : entry.isDirectory = false) :
    first = some entry ↔ second = some entry := by
  cases alike with
  | nothing | file | link => rfl
  -- A directory is neither of these.
  | directory entries others =>
    refine ⟨fun same => ?_, fun same => ?_⟩
    all_goals
      cases same
      cases leaf

end Alike

/-- There is nothing below the entry. -/
def IsBare (entry : FileEntry) : Prop := ∀ name names, entry.at? (name :: names) = none

variable {tree new entry : FileEntry} {entries : List (String × FileEntry)} {place names parent : List String}
  {name : String}

/-! ### Places -/

/-- An entry is found in it without any names. -/
@[simp] theorem at?_nil (entry : FileEntry) : entry.at? [] = some entry := by rw [at?]

/-- The first name is looked for in the directory, and the others below what is there. -/
@[simp] theorem at?_directory (name : String) (names : List String) (entries : List (String × FileEntry)) :
    (directory entries).at? (name :: names) = (Sorted.get? name entries).bind (at? names) := by
  rw [at?]

/-- The places in and below a file are those of nothing. -/
theorem isBare_file (content : ByteArray) : (file content).IsBare := fun _ _ => by simp [at?]

/-- A new directory has nothing below it. -/
theorem isBare_empty : (directory []).IsBare := fun name names => by simp

/-- Some names and then others lead to what the others lead to from there. -/
theorem at?_append (names others : List String) (tree : FileEntry) :
    tree.at? (names ++ others) = (tree.at? names).bind (at? others) := by
  induction names generalizing tree with
  | nil => simp
  -- The first name leads to what the other names are looked for in.
  | cons name rest ih =>
    cases tree with
    | directory entries =>
      simp only [List.cons_append, at?_directory]
      cases Sorted.get? name entries with
      | none => rfl
      | some below => exact ih below
    -- Nothing lies below a file or a link, whatever other names follow.
    | file content => simp [at?]
    | link target => simp [at?]

/-- Something lies below an entry only if that is a directory. -/
theorem directory_of_at? {found : FileEntry} (there : tree.at? (parent ++ [name]) = some found) :
    ∃ entries, tree.at? parent = some (.directory entries) := by
  rw [at?_append] at there
  obtain ⟨entry, above, inside⟩ := Option.bind_eq_some_iff.mp there
  cases entry with
  | directory entries => exact ⟨entries, above⟩
  | file content => simp [at?] at inside
  | link target => simp [at?] at inside

/-- The way to a directory leads through directories. -/
theorem directory_of_append {others : List String} (there : tree.at? (names ++ others) = some (.directory entries)) :
    ∃ above, tree.at? names = some (.directory above) := by
  cases others with
  | nil => exact ⟨entries, by simpa using there⟩
  | cons name rest =>
    have split : names ++ name :: rest = (names ++ [name]) ++ rest := by simp
    rw [split, at?_append] at there
    obtain ⟨entry, above, _⟩ := Option.bind_eq_some_iff.mp there
    exact directory_of_at? above

/-! ### Putting -/

/-- What is put into a directory is found there. -/
theorem at?_putAt_self (above : tree.at? parent = some (.directory entries)) :
    (putAt new (parent ++ [name]) tree).at? (parent ++ [name]) = some new := by
  induction parent generalizing tree with
  | nil =>
    -- The directory is the tree itself, and holds what was put under its last name.
    cases above
    simp [putAt, Sorted.get?_put]
  | cons first rest ih =>
    cases tree with
    | directory all =>
      rw [at?_directory] at above
      -- The names go on in the directory under the first one.
      obtain ⟨below, found, inside⟩ := Option.bind_eq_some_iff.mp above
      simpa [putAt, Sorted.get?_put, found] using ih inside
    | file content => simp [at?] at above
    | link target => simp [at?] at above

/-- Where there was nothing below a place and nothing is put there, no other place changes. -/
theorem alike_putAt (above : tree.at? parent = some (.directory entries))
    (bare : ∀ old, tree.at? (parent ++ [name]) = some old → old.IsBare) (newBare : new.IsBare)
    (other : place ≠ parent ++ [name]) :
    Alike (tree.at? place) ((putAt new (parent ++ [name]) tree).at? place) := by
  -- The induction goes down to the directory; beside the way to it nothing changes.
  induction parent generalizing tree place with
  | nil =>
    cases above
    cases place with
    | nil => simpa [putAt] using Alike.directory _ _
    | cons first rest =>
      by_cases same : first = name
      · -- Below the place there was nothing, and there is nothing now.
        subst same
        obtain ⟨second, more, rfl⟩ := List.exists_cons_of_ne_nil (fun none => other (by simp [none]) : rest ≠ [])
        have nothing : (directory entries).at? (first :: second :: more) = none := by
          rw [at?_directory]
          cases found : Sorted.get? first entries with
          | none => rfl
          | some old => exact bare old (by simp [found]) second more
        rw [nothing]
        simpa [putAt, Sorted.get?_put, newBare second more] using Alike.nothing
      · simpa [putAt, Sorted.get?_put, same] using Alike.refl _
  | cons first rest ih =>
    cases tree with
    | directory all =>
      rw [at?_directory] at above
      obtain ⟨below, found, inside⟩ := Option.bind_eq_some_iff.mp above
      cases place with
      | nil => simpa [putAt] using Alike.directory _ _
      | cons head tail =>
        by_cases same : head = first
        · -- On the way the other place stays another one.
          subst same
          have apart : tail ≠ rest ++ [name] := fun equal => other (by simp [equal])
          -- An old entry at the end of the way is one of the whole tree.
          have bareBelow (old : FileEntry) (there : below.at? (rest ++ [name]) = some old) : old.IsBare :=
            bare old (by simpa [found] using there)
          simpa [putAt, Sorted.get?_put, found] using ih inside bareBelow apart
        · -- Under another name is what was there.
          simpa [putAt, Sorted.get?_put, same] using Alike.refl _
    | file content => simp [at?] at above
    | link target => simp [at?] at above

/-! ### Well-formed trees -/

namespace WellFormed

/-- A directory with one entry is well-formed if that is. -/
theorem single (isName : IsEntryName name) (well : entry.WellFormed) :
    (FileEntry.directory [(name, entry)]).WellFormed :=
  .directory (List.pairwise_singleton _ _) (List.forall_mem_singleton.mpr isName) (List.forall_mem_singleton.mpr well)

/-- What is below a directory of a well-formed tree is well-formed. -/
theorem at? (well : tree.WellFormed) {names : List String} {found : FileEntry} (there : tree.at? names = some found) :
    found.WellFormed := by
  induction names generalizing tree with
  | nil =>
    cases there
    exact well
  | cons name rest ih =>
    cases well with
    | directory ordered named below =>
      rw [at?_directory] at there
      obtain ⟨entry, here, inside⟩ := Option.bind_eq_some_iff.mp there
      exact ih (below _ (Sorted.mem_of_get? here)) inside
    | file content => simp [FileEntry.at?] at there
    | link target => simp [FileEntry.at?] at there

/-- Putting a well-formed entry into a directory of a well-formed tree gives a well-formed tree. -/
theorem putAt (well : tree.WellFormed) (newWell : new.WellFormed) (isName : IsEntryName name)
    (above : tree.at? parent = some (.directory entries)) : (putAt new (parent ++ [name]) tree).WellFormed := by
  induction parent generalizing tree with
  | nil =>
    cases above
    cases well with
    | directory ordered named below =>
      simp only [List.nil_append, FileEntry.putAt]
      refine .directory (ordered.put name new) (fun entry member => ?_) fun entry member => ?_
      · rcases Sorted.mem_put member with rfl | older
        · exact isName
        · exact named entry older
      · rcases Sorted.mem_put member with rfl | older
        · exact newWell
        · exact below entry older
  | cons first rest ih =>
    cases well with
    | directory ordered named below =>
      rw [at?_directory] at above
      obtain ⟨inner, found, inside⟩ := Option.bind_eq_some_iff.mp above
      have member := Sorted.mem_of_get? found
      simp only [List.cons_append, FileEntry.putAt, found, Option.getD_some]
      -- The one entry that changes is well-formed by induction, and no name is new.
      refine .directory (ordered.put first _) (fun entry listed => ?_) fun entry listed => ?_
      · rcases Sorted.mem_put listed with rfl | older
        · exact named (first, inner) member
        · exact named entry older
      · rcases Sorted.mem_put listed with rfl | older
        · exact ih (below _ member) inside
        · exact below entry older
    | file content => simp [FileEntry.at?] at above
    | link target => simp [FileEntry.at?] at above

end WellFormed

/-! ### Leaves -/

/-- The leaves of some entries are those of each entry, behind its name. -/
theorem leavesOf_eq_flatMap (entries : List (String × FileEntry)) :
    leavesOf entries = entries.flatMap fun entry => entry.2.leaves.map (entry.1 :: ·) := by
  induction entries with
  | nil => rfl
  | cons entry rest ih => rw [leavesOf, ih, List.flatMap_cons]

/-- The leaves of a well-formed tree are the places of its entries that are no directories. -/
theorem WellFormed.mem_leaves (well : tree.WellFormed) {names : List String} :
    names ∈ tree.leaves ↔ ∃ entry, tree.at? names = some entry ∧ entry.isDirectory = false := by
  induction well generalizing names with
  | file content => cases names <;> simp [leaves, FileEntry.at?, isDirectory]
  | link target => cases names <;> simp [leaves, FileEntry.at?, isDirectory]
  | @directory entries ordered named below ih =>
    rw [leaves, leavesOf_eq_flatMap]
    cases names with
    | nil => simp [isDirectory]
    | cons name rest =>
      simp only [List.mem_flatMap, List.mem_map, at?_directory, Option.bind_eq_some_iff]
      -- A name finds its entry, since the entries are sorted by name.
      constructor
      · rintro ⟨entry, member, _, leaf, same⟩
        obtain ⟨rfl, rfl⟩ := List.cons.inj same
        obtain ⟨found, there, isLeaf⟩ := (ih entry member).mp leaf
        -- The entry of the leaf is the one under its first name.
        exact ⟨found, ⟨entry.2, ordered.get?_of_mem member, there⟩, isLeaf⟩
      · rintro ⟨found, ⟨inner, here, there⟩, isLeaf⟩
        have member := Sorted.mem_of_get? here
        exact ⟨_, member, rest, (ih _ member).mpr ⟨found, there, isLeaf⟩, rfl⟩

/-- A well-formed tree has no leaf twice. -/
theorem WellFormed.nodup_leaves (well : tree.WellFormed) : tree.leaves.Nodup := by
  induction well with
  | file content => simp [leaves]
  | link target => simp [leaves]
  | @directory entries ordered named below ih =>
    rw [leaves, leavesOf_eq_flatMap]
    -- No entry has a leaf twice.
    refine List.nodup_flatMap.mpr ⟨fun entry member => ?_, ordered.imp fun {first second} before => ?_⟩
    · exact (ih entry member).map fun _ _ same => (List.cons.inj same).2
    · -- Leaves of two entries differ in their first name.
      intro names inFirst inSecond
      obtain ⟨_, _, rfl⟩ := List.mem_map.mp inFirst
      obtain ⟨_, _, same⟩ := List.mem_map.mp inSecond
      exact absurd ((List.cons.inj same).1 ▸ before) (String.lt_irrefl _)

/-- The names of an entry in a well-formed tree are names of entries. -/
theorem WellFormed.isEntryName (well : tree.WellFormed) {names : List String} {found : FileEntry}
    (there : tree.at? names = some found) : ∀ name ∈ names, IsEntryName name := by
  induction names generalizing tree with
  | nil => exact fun _ member => absurd member List.not_mem_nil
  | cons first rest ih =>
    cases well with
    | directory ordered named below =>
      rw [at?_directory] at there
      obtain ⟨inner, here, inside⟩ := Option.bind_eq_some_iff.mp there
      have member := Sorted.mem_of_get? here
      -- The first name is one of a directory's entries, and the others are names below it.
      exact List.forall_mem_cons.mpr ⟨named _ member, ih (below _ member) inside⟩
    | file content => simp [FileEntry.at?] at there
    | link target => simp [FileEntry.at?] at there

end FileEntry

end LayerAudit
