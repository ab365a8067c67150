import LayerAudit.Audit.Discovery
import LayerAudit.Glob.Reader
import LayerAudit.Pattern.Reader
import LayerAudit.Proofs.Audit.Setup
import LayerAudit.Proofs.Files.Location
import LayerAudit.Proofs.Files.Writing

/-!
Discovery lists the selected entries below a source root in increasing order. Backslashes in names are written as
slashes on the way, so it lists exactly the entries as long as no such name is selected in either spelling.
-/

namespace LayerAudit.Setup

/-- What a list of discovered paths owes to the entries below the source root. -/
structure ListsEntries (setup : Setup) (files : FileSystem) (root : String) (entries : List (String × FileEntry))
    (paths : List String) : Prop where
  increasing : paths.Pairwise (· < ·)
  /-- The paths are those of the entries that are no directories and that some glob includes and none excludes. -/
  listed : ∀ path, path ∈ paths ↔
    (∃ names entry, Text.joinWith "/" names = path ∧ (FileEntry.directory entries).at? names = some entry ∧
      entry.isDirectory = false) ∧
    (∃ glob ∈ setup.included, glob.accepts path) ∧ ∀ glob ∈ setup.excluded, glob.accepts path = false
  /-- Every file that is listed is read under its path. -/
  readable : ∀ names content, (FileEntry.directory entries).at? names = some (.file content) →
    Text.joinWith "/" names ∈ paths → files.read (Location.join root (Text.joinWith "/" names)) = .ok content

/-- Neither a path with a backslash nor the root itself is selected as an entry. -/
structure SelectsPlainly (setup : Setup) (files : FileSystem) (root : String) (entries : List (String × FileEntry)) :
    Prop where
  /-- The spelling with a slash counts as well. -/
  noBackslash : ∀ names entry, (FileEntry.directory entries).at? names = some entry → entry.isDirectory = false →
    '\\' ∈ (Text.joinWith "/" names).toList →
    setup.selects (Text.joinWith "/" names) = false ∧ setup.selects (Text.slashed (Text.joinWith "/" names)) = false
  /-- A root that is a link is an entry with the empty path. -/
  rootNoEntry : (∃ place target, files.locate false root = .ok (.taken place (.link target))) → setup.selects "" = false

variable {setup : Setup} {files : FileSystem} {root : String} {entries : List (String × FileEntry)}
  {paths : List String}

/-! ### The discovered paths -/

/-- Paths are discovered in increasing order. -/
theorem sorted_of_discover (found : setup.discover files root = .ok paths) : paths.Pairwise (· ≤ ·) := by
  unfold discover at found
  cases below : entriesBelow files root with
  | none => simp [below] at found
  | some entries =>
    simp only [below, Except.ok.injEq] at found
    subst found
    -- Sorting goes by the failure of the strict order the other way round, which is the weak order.
    have ordered := @List.pairwise_mergeSort String (fun a b => !(b < a))
      (fun a b c ab bc => by
        simp only [Bool.not_eq_true', decide_eq_false_iff_not, String.not_lt] at ab bc ⊢
        exact String.le_trans ab bc)
      (fun a b => by
        simp only [Bool.or_eq_true, Bool.not_eq_true', decide_eq_false_iff_not, String.not_lt]
        exact String.le_total a b)
      (entries.filter setup.selects)
    refine ordered.imp fun {a b} ab => ?_
    simpa only [Bool.not_eq_true', decide_eq_false_iff_not, String.not_lt] using ab

/-- The path under which discovery knows the entry with some names. -/
def writtenPath (names : List String) : String := Text.slashed (Text.joinWith "/" names)

/-- The path of the root, if that is a link and so an entry itself. -/
def rootPaths (files : FileSystem) (root : String) : List String :=
  match files.locate false root with
  | .ok (.taken _ (.link _)) => [""]
  | _ => []

/-- The empty path is that of a root that is a link. -/
theorem mem_rootPaths {path : String} : path ∈ rootPaths files root ↔
    (∃ place target, files.locate false root = .ok (.taken place (.link target))) ∧ path = "" := by
  unfold rootPaths
  split
  · rename_i place target found
    simp [found]
  · rename_i noLink
    simpa using fun place target found => (noLink place target found).elim

/-- The discovered paths are the selected ones among those of the root and of the entries below. -/
theorem perm_of_discover (setup : Setup) (found : files.entry? root = some (.directory entries)) :
    ∃ paths, setup.discover files root = .ok paths ∧
      paths.Perm
        ((rootPaths files root ++ (FileEntry.directory entries).leaves.map writtenPath).filter setup.selects) := by
  have below : entriesBelow files root =
      some (rootPaths files root ++ (FileEntry.directory entries).leaves.map writtenPath) := by
    simp only [entriesBelow, rootPaths, found, FileEntry.leaves]
    -- Only a root that is a link is an entry itself.
    rcases files.locate false root with failure | ⟨place, content | target | below⟩ | ⟨place, slash⟩ <;> rfl
  rw [discover, below]
  exact ⟨_, rfl, List.mergeSort_perm _ _⟩

/-- Whether the root is an entry depends on where its path ends. -/
theorem rootPaths_congr {before after : FileSystem}
    (ends : FileSystem.EndsAlike (before.locate false root) (after.locate false root)) :
    rootPaths before root = rootPaths after root := by
  unfold rootPaths
  generalize before.locate false root = first at ends
  generalize after.locate false root = second at ends
  cases ends with
  | taken _ alike => cases alike <;> rfl
  | _ => rfl

/-- The same paths are discovered below two roots that hold the same selected entries. -/
theorem discover_congr {before after : FileSystem} {others : List (String × FileEntry)}
    (found : before.entry? root = some (.directory entries)) (refound : after.entry? root = some (.directory others))
    (sameRoot : rootPaths before root = rootPaths after root)
    (same : ((FileEntry.directory entries).leaves.filter (setup.selects ∘ writtenPath)).Perm
      ((FileEntry.directory others).leaves.filter (setup.selects ∘ writtenPath))) :
    setup.discover before root = setup.discover after root := by
  -- Discovery gives some order of the selected entries on both sides.
  obtain ⟨first, discovered, perm⟩ := perm_of_discover setup found
  obtain ⟨second, rediscovered, permAfter⟩ := perm_of_discover setup refound
  have permBoth : first.Perm second := by
    refine perm.trans (List.Perm.trans ?_ permAfter.symm)
    rw [List.filter_append, List.filter_append, List.filter_map, List.filter_map, sameRoot]
    exact (same.map _).append_left _
  -- Both lists are sorted, so they are one and the same.
  have equal : first = second :=
    List.Perm.eq_of_pairwise (fun _ _ _ _ => String.le_antisymm) (sorted_of_discover discovered)
      (sorted_of_discover rediscovered) permBoth
  rw [discovered, rediscovered, equal]

/-- Something is discovered below directories, and nothing else. -/
theorem exists_discover_iff (setup : Setup) :
    (∃ paths, setup.discover files root = .ok paths) ↔ files.isDirectory root := by
  unfold discover entriesBelow FileSystem.isDirectory
  cases files.entry? root with
  | none => simp
  | some entry =>
    -- Discovery asks for a directory, whatever lies at the root otherwise.
    cases entry with
    | directory => rcases files.locate false root with _ | ⟨_, _ | _ | _⟩ | _ <;> simp [FileEntry.isDirectory]
    | _ => simp [FileEntry.isDirectory]

/-- The discovered paths are those of selected entries, as they are written. -/
theorem mem_of_perm
    (perm : paths.Perm ((rootPaths files root ++ (FileEntry.directory entries).leaves.map writtenPath).filter
      setup.selects)) {path : String} :
    path ∈ paths ↔ (path ∈ rootPaths files root ∨
      ∃ names ∈ (FileEntry.directory entries).leaves, writtenPath names = path) ∧ setup.selects path := by
  rw [perm.mem_iff, List.mem_filter, List.mem_append, List.mem_map]

/-- A path is selected if some glob includes it and none excludes it. -/
theorem selects_iff {path : String} : setup.selects path = true ↔
    (∃ glob ∈ setup.included, glob.accepts path) ∧ ∀ glob ∈ setup.excluded, glob.accepts path = false := by
  simp [selects]

/-! ### Backslashes -/

/-- No written path has a backslash. -/
theorem not_mem_writtenPath (names : List String) : '\\' ∉ (writtenPath names).toList := Text.not_mem_slashed _

/-- A path without backslashes is written as it is. -/
theorem writtenPath_of_plain {names : List String} (plain : '\\' ∉ (Text.joinWith "/" names).toList) :
    writtenPath names = Text.joinWith "/" names := Text.slashed_eq_self plain

section

variable (well : (FileEntry.directory entries).WellFormed)
include well

/-- Where entries are selected plainly, a selected one is written as it is. -/
theorem SelectsPlainly.writtenPath_eq (plainly : setup.SelectsPlainly files root entries) {names : List String}
    (leaf : names ∈ (FileEntry.directory entries).leaves) (selected : setup.selects (writtenPath names)) :
    writtenPath names = Text.joinWith "/" names := by
  -- The path of a selected leaf has no backslash, since discovery would change it.
  obtain ⟨entry, there, noDirectory⟩ := well.mem_leaves.mp leaf
  refine writtenPath_of_plain fun backslash => ?_
  have unselected : setup.selects (writtenPath names) = false :=
    (plainly.noBackslash names entry there noDirectory backslash).2
  rw [unselected] at selected
  cases selected

variable (perm : paths.Perm ((rootPaths files root ++ (FileEntry.directory entries).leaves.map writtenPath).filter
    setup.selects))
include perm

/-- Where entries are selected plainly, exactly the selected ones are listed. -/
theorem SelectsPlainly.mem_iff (plainly : setup.SelectsPlainly files root entries) {path : String} :
    path ∈ paths ↔ (∃ names ∈ (FileEntry.directory entries).leaves, Text.joinWith "/" names = path) ∧
      setup.selects path := by
  rw [mem_of_perm perm]
  refine and_congr_left fun selected => ⟨fun listed => ?_, fun ⟨names, leaf, same⟩ => Or.inr ⟨names, leaf, ?_⟩⟩
  · rcases listed with root | ⟨names, leaf, rfl⟩
    · -- If the root is a link, the empty path is not selected.
      obtain ⟨link, rfl⟩ := mem_rootPaths.mp root
      rw [plainly.rootNoEntry link] at selected
      cases selected
    · exact ⟨names, leaf, (plainly.writtenPath_eq well leaf selected).symm⟩
  · obtain ⟨entry, there, noDirectory⟩ := well.mem_leaves.mp leaf
    subst same
    refine writtenPath_of_plain fun backslash => ?_
    rw [(plainly.noBackslash names entry there noDirectory backslash).1] at selected
    cases selected

/-- Where entries are selected plainly, none is listed twice. -/
theorem SelectsPlainly.nodup (plainly : setup.SelectsPlainly files root entries) : paths.Nodup := by
  -- The root itself is not among the selected paths.
  have noRoot : (rootPaths files root).filter setup.selects = [] := by
    refine List.filter_eq_nil_iff.mpr fun path member => ?_
    obtain ⟨link, rfl⟩ := mem_rootPaths.mp member
    simp [plainly.rootNoEntry link]
  -- What is left are the leaves, which are distinct as names.
  rw [perm.nodup_iff, List.filter_append, noRoot, List.nil_append, List.filter_map]
  refine List.Nodup.map_on (fun names member others otherMember same => ?_) (well.nodup_leaves.filter _)
  -- Written as they are, paths tell the names.
  obtain ⟨leaf, selected⟩ := List.mem_filter.mp member
  obtain ⟨otherLeaf, otherSelected⟩ := List.mem_filter.mp otherMember
  rw [plainly.writtenPath_eq well leaf selected, plainly.writtenPath_eq well otherLeaf otherSelected] at same
  obtain ⟨_, there, _⟩ := well.mem_leaves.mp leaf
  obtain ⟨_, otherThere, _⟩ := well.mem_leaves.mp otherLeaf
  exact Location.joinWith_injective (well.isEntryName there) (well.isEntryName otherThere) same

/-- Where the selected entries are listed, each once, they are selected plainly. -/
theorem ListsEntries.selectsPlainly (lists : setup.ListsEntries files root entries paths) :
    setup.SelectsPlainly files root entries where
  noBackslash names entry there noDirectory backslash := by
    -- The entry is no directory, so that it is among the leaves.
    have leaf : names ∈ (FileEntry.directory entries).leaves := well.mem_leaves.mpr ⟨entry, there, noDirectory⟩
    refine ⟨eq_false_of_ne_true fun selected => ?_, eq_false_of_ne_true fun selected => ?_⟩
    · -- The entry has to be listed under a path that discovery never writes.
      have listed := (lists.listed _).mpr ⟨⟨names, entry, rfl, there, noDirectory⟩, selects_iff.mp selected⟩
      rcases ((mem_of_perm perm).mp listed).1 with root | ⟨others, _, same⟩
      · rw [(mem_rootPaths.mp root).2] at backslash
        simp at backslash
      · exact not_mem_writtenPath others (same ▸ backslash)
    · -- The path is listed for this entry, so another entry has it, and it is listed twice.
      have listed := (mem_of_perm perm).mpr ⟨Or.inr ⟨names, leaf, rfl⟩, selected⟩
      obtain ⟨⟨others, other, same, otherThere, otherNoDirectory⟩, _⟩ := (lists.listed _).mp listed
      have otherLeaf : others ∈ (FileEntry.directory entries).leaves :=
        well.mem_leaves.mpr ⟨other, otherThere, otherNoDirectory⟩
      have otherPlain : '\\' ∉ (Text.joinWith "/" others).toList := same ▸ not_mem_writtenPath names
      have bothWritten : writtenPath names = writtenPath others := by rw [writtenPath_of_plain otherPlain, same]
      -- Increasing paths are distinct.
      have distinct : paths.Pairwise (· ≠ ·) := by
        refine lists.increasing.imp fun {earlier later} before same => ?_
        exact String.lt_irrefl later (same ▸ before)
      have nodup := perm.nodup_iff.mp distinct
      rw [List.filter_append, List.filter_map] at nodup
      have otherSelected : setup.selects (writtenPath others) := bothWritten ▸ selected
      have equal : names = others :=
        List.inj_on_of_nodup_map (List.nodup_append.mp nodup).2.1 (List.mem_filter.mpr ⟨leaf, selected⟩)
          (List.mem_filter.mpr ⟨otherLeaf, otherSelected⟩) bothWritten
      exact otherPlain (equal ▸ backslash)
  rootNoEntry link := by
    -- If the root is listed, it has to be an entry below itself, and none of those has the empty path.
    refine eq_false_of_ne_true fun selected => ?_
    have listed := (mem_of_perm perm).mpr ⟨Or.inl (mem_rootPaths.mpr ⟨link, rfl⟩), selected⟩
    obtain ⟨⟨names, entry, empty, there, noDirectory⟩, _⟩ := (lists.listed _).mp listed
    cases names with
    | nil =>
      cases there
      cases noDirectory
    | cons name rest => exact Location.joinWith_ne_empty (List.cons_ne_nil _ _) (well.isEntryName there) empty

end

/-- Discovery below a directory gives a list, which holds exactly the selected entries if these are selected plainly.
Names are texts and every entry may be looked at: file systems also have names that are no text, which discovery would
list with replacement characters, and entries that permissions hide; nothing is said about those. -/
theorem discover_lists_entries_iff (well : files.WellFormed) (found : files.entry? root = some (.directory entries)) :
    ∃ paths, setup.discover files root = .ok paths ∧
      (setup.ListsEntries files root entries paths ↔ setup.SelectsPlainly files root entries) := by
  -- Discovery itself never fails below a directory.
  obtain ⟨paths, discovered, perm⟩ := perm_of_discover setup found
  obtain ⟨place, located⟩ := FileSystem.entry?_eq_some_iff.mp found
  have wellBelow := well.tree.at? (FileSystem.there_of_locate located)
  refine ⟨paths, discovered, fun lists => lists.selectsPlainly wellBelow perm, fun plainly => ?_⟩
  refine ⟨?_, fun path => ?_, fun names content there _ => ?_⟩
  · -- Sorted paths without repetition increase.
    refine (sorted_of_discover discovered).imp₂ (fun _ _ atMost apart => ?_) (plainly.nodup wellBelow perm)
    exact String.not_le.mp fun atLeast => apart (String.le_antisymm atMost atLeast)
  · -- The paths are those of selected leaves, and leaves are the entries that are no directories.
    rw [plainly.mem_iff wellBelow perm, selects_iff]
    refine and_congr_left fun _ => exists_congr fun names => ?_
    rw [wellBelow.mem_leaves, and_comm, ← exists_and_left]
  · exact FileSystem.read_below located (wellBelow.isEntryName there) there

/-! ### Small applications -/

/-- What an audit goes by without a configuration. -/
def usual : Setup := ((ofConfig (readVocabulary {}).toOption {}).toOption).getD default

/-- Without a configuration an audit can be set up. -/
theorem ofConfig_usual : ofConfig (readVocabulary {}).toOption {} = .ok usual :=
  ofConfig_getD default (by decide +kernel)

/-- What is set up then goes by the usual settings. -/
theorem goesBy_usual : usual.GoesBy {} := goesBy_of_ofConfig ofConfig_usual

/-- Contents are analyzed, since the usual pattern for hooks can be read. -/
theorem vocabulary_usual : usual.vocabulary.isSome := by
  rw [vocabulary_of_ofConfig ofConfig_usual]
  rfl

/-- An application with some entries in the directory that is its source root, and with some entries beside that. -/
def application (entries beside : List (String × FileEntry)) : FileSystem where
  root := .directory (("app", .directory entries) :: beside)
  workingDirectory := []

section

variable {beside : List (String × FileEntry)} {names : List String} {path : String} {content : ByteArray}

/-- The source root of an application is a directory. -/
theorem locate_application (throughLast : Bool) (entries beside : List (String × FileEntry)) :
    (application entries beside).locate throughLast "app" = .ok (.taken ["app"] (.directory entries)) := by
  have path : Text.joinWith "/" ["app"] = "app" := by decide
  rw [← path]
  exact FileSystem.locate_directory throughLast (List.cons_ne_nil _ _) (by decide)
    (by simp [application, Sorted.get?_cons])

/-- A file of an application is read under its path. -/
theorem read_application (well : (FileEntry.directory entries).WellFormed)
    (there : (FileEntry.directory entries).at? names = some (.file content)) (isPath : Text.joinWith "/" names = path) :
    (application entries beside).read (Location.join "app" path) = .ok content :=
  isPath ▸ FileSystem.read_below (locate_application true entries beside) (well.isEntryName there) there

/-- The selected entries of an application are discovered. -/
theorem discover_application (sorted : paths.Pairwise (· ≤ ·))
    (selected : ((FileEntry.directory entries).leaves.map writtenPath).filter setup.selects = paths) :
    setup.discover (application entries beside) "app" = .ok paths := by
  obtain ⟨found, discovered, perm⟩ := perm_of_discover setup
    (FileSystem.entry?_eq_some_iff.mpr ⟨_, locate_application true entries beside⟩)
  -- The root of an application is a directory, and no link to one.
  have noLink : rootPaths (application entries beside) "app" = [] := by simp only [rootPaths, locate_application]
  rw [noLink, List.nil_append, selected] at perm
  -- Both lists are sorted.
  have same : found = paths :=
    List.Perm.eq_of_pairwise (fun _ _ _ _ => String.le_antisymm) (sorted_of_discover discovered) sorted perm
  rw [discovered, same]

/-- A well-formed application is a well-formed file system. -/
theorem wellFormed_application (well : (FileEntry.directory entries).WellFormed) :
    (application entries []).WellFormed where
  tree := .single (by decide) well
  here := ⟨_, FileEntry.at?_nil _⟩

end

/-- The entries of an application of two scripts. -/
def twoEntries (first second : ByteArray) : List (String × FileEntry) :=
  [("src", .directory [("a.js", .file first), ("b.js", .file second)])]

/-- An application of two scripts. -/
def twoScripts (first second : ByteArray) : FileSystem := application (twoEntries first second) []

/-- The entries are well-formed, whatever the scripts contain. -/
theorem wellFormed_twoEntries (first second : ByteArray) :
    (FileEntry.directory (twoEntries first second)).WellFormed := by
  have names : IsEntryName "src" ∧ IsEntryName "a.js" ∧ IsEntryName "b.js" := by decide
  obtain ⟨src, a, b⟩ := names
  refine .single src ?_
  refine .directory (List.pairwise_pair.mpr (show "a.js" < "b.js" by decide)) (by simp [a, b]) ?_
  simp [FileEntry.WellFormed.file]

/-- Both scripts are read under their paths. -/
theorem read_twoScripts (first second : ByteArray) :
    (twoScripts first second).read (Location.join "app" "src/a.js") = .ok first ∧
      (twoScripts first second).read (Location.join "app" "src/b.js") = .ok second := by
  -- The names on the way are those that an entry may have.
  have well := wellFormed_twoEntries first second
  have firstThere : (FileEntry.directory (twoEntries first second)).at? ["src", "a.js"] = some (.file first) := by
    simp [twoEntries, Sorted.get?_cons]
  have secondThere : (FileEntry.directory (twoEntries first second)).at? ["src", "b.js"] = some (.file second) := by
    simp [twoEntries, Sorted.get?_cons]
  exact ⟨read_application well firstThere rfl, read_application well secondThere rfl⟩

/-- Both scripts of the application are discovered. -/
theorem discover_twoScripts (first second : ByteArray) :
    usual.discover (twoScripts first second) "app" = .ok ["src/a.js", "src/b.js"] := by
  have written : writtenPath ["src", "a.js"] = "src/a.js" ∧ writtenPath ["src", "b.js"] = "src/b.js" :=
    ⟨rfl, rfl⟩
  have selected : ["src/a.js", "src/b.js"].filter usual.selects = ["src/a.js", "src/b.js"] := by
    rw [goesBy_usual.selects_eq]
    decide +kernel
  refine discover_application (by decide) ?_
  simpa [twoEntries, FileEntry.leavesOf, FileEntry.leaves, written] using selected

/-- The entries of an application with a script that is none, a link that leads nowhere, notes that no glob includes, an
entry point out of place, and an import that climbs. -/
def faultyEntries : List (String × FileEntry) :=
  [("src", .directory
    [("features", .directory [("b.js", .file ")".toByteArray)]),
      ("gone.js", .link "nowhere.js"),
      ("notes\\old.txt", .file .empty),
      ("pages", .directory [("app", .directory [("main.js", .file .empty)])]),
      ("shared", .directory [("a.js", .file "import \"../features/b.js\"".toByteArray)])])]

/-- The paths of the entries that are selected. -/
def faultyPaths : List String := ["src/features/b.js", "src/gone.js", "src/pages/app/main.js", "src/shared/a.js"]

/-- The entries are well-formed. -/
theorem wellFormed_faultyEntries : (FileEntry.directory faultyEntries).WellFormed := by
  have names : ∀ name ∈ ["src", "features", "b.js", "gone.js", "notes\\old.txt", "pages", "app", "main.js", "shared",
      "a.js"], IsEntryName name := by
    decide
  have ordered : (["features", "gone.js", "notes\\old.txt", "pages", "shared"] : List String).Pairwise (· < ·) := by
    decide
  -- Each of the innermost directories has one file.
  have file {name : String} (listed : name ∈ ["b.js", "main.js", "a.js"]) (content : ByteArray) :
      (FileEntry.directory [(name, .file content)]).WellFormed := by
    refine .single (names name ?_) (.file content)
    exact (show ["b.js", "main.js", "a.js"] ⊆ _ by decide) listed
  refine .single (names "src" (by decide)) (.directory (List.pairwise_map.mp ordered) ?_ ?_)
  · simp [names]
  · simp [FileEntry.WellFormed.file, FileEntry.WellFormed.link, file, FileEntry.WellFormed.single, names]

/-- The leaves among the entries, as they are written. -/
theorem leaves_faultyEntries : (FileEntry.directory faultyEntries).leaves =
    [["src", "features", "b.js"], ["src", "gone.js"], ["src", "notes\\old.txt"], ["src", "pages", "app", "main.js"],
      ["src", "shared", "a.js"]] := by
  simp [faultyEntries, FileEntry.leaves, FileEntry.leavesOf]

/-- No glob includes the notes. -/
theorem discover_faulty : usual.discover (application faultyEntries []) "app" = .ok faultyPaths := by
  refine discover_application (by decide) ?_
  rw [leaves_faultyEntries, goesBy_usual.selects_eq]
  decide +kernel

/-- Of the entries of this application the selected ones are listed, since the one with a backslash is not among them. -/
theorem discover_lists_entries_iff_faulty :
    (application faultyEntries []).WellFormed ∧
      FileSystem.entry? (application faultyEntries []) "app" = some (.directory faultyEntries) ∧
      usual.SelectsPlainly (application faultyEntries []) "app" faultyEntries ∧
      usual.discover (application faultyEntries []) "app" = .ok faultyPaths ∧
      usual.ListsEntries (application faultyEntries []) "app" faultyEntries faultyPaths := by
  have well := wellFormed_application wellFormed_faultyEntries
  have root : FileSystem.entry? (application faultyEntries []) "app" = some (.directory faultyEntries) :=
    -- The path of the root leads to the directory of the entries.
    FileSystem.entry?_eq_some_iff.mpr ⟨_, locate_application true faultyEntries []⟩
  have plainly : usual.SelectsPlainly (application faultyEntries []) "app" faultyEntries := by
    constructor
    · intro names entry there noDirectory
      have leaf := wellFormed_faultyEntries.mem_leaves.mpr ⟨entry, there, noDirectory⟩
      -- Each leaf either has no backslash or is not selected in either spelling.
      have unselected : ∀ names ∈ (FileEntry.directory faultyEntries).leaves,
          '\\' ∈ (Text.joinWith "/" names).toList →
          usual.selects (Text.joinWith "/" names) = false ∧
            usual.selects (Text.slashed (Text.joinWith "/" names)) = false := by
        rw [leaves_faultyEntries, goesBy_usual.selects_eq]
        decide +kernel
      exact unselected names leaf
    · -- The root is a directory, so that no path of its own is selected.
      rintro ⟨place, target, link⟩
      rw [locate_application] at link
      cases link
  obtain ⟨paths, discovered, lists⟩ := discover_lists_entries_iff well root
  -- Both discoveries give one list.
  obtain rfl : faultyPaths = paths := Except.ok.inj (discover_faulty.symm.trans discovered)
  exact ⟨well, root, plainly, discovered, lists.mpr plainly⟩

/-- An application whose only script has a backslash in its name. -/
def backslashed : FileSystem where
  root := .directory [("app", .directory [("src", .directory [("a\\b.js", .file .empty)])])]
  workingDirectory := []

/-- A script with a backslash in its name is listed under a path where there is nothing, and cannot be read there. -/
theorem discover_respells_backslashed :
    usual.selects "src/a\\b.js" = true ∧
      backslashed.root.at? ["app", "src", "a\\b.js"] = some (.file .empty) ∧
      usual.discover backslashed "app" = .ok ["src/a/b.js"] ∧
      backslashed.read (Location.join "app" "src/a/b.js") = .error .notFound ∧
      ¬usual.ListsEntries backslashed "app" [("src", .directory [("a\\b.js", .file .empty)])] ["src/a/b.js"] := by
  have selected : usual.selects "src/a\\b.js" = true ∧ usual.selects "src/a/b.js" = true := by
    rw [goesBy_usual.selects_eq]
    decide +kernel
  have relative : Text.isStartOf "/" "app" = false ∧ Text.isStartOf "/" "app/src/a/b.js" = false := ⟨rfl, rfl⟩
  have segments : Location.segments "app" = ["app"] ∧
      Location.segments "app/src/a/b.js" = ["app", "src", "a", "b.js"] :=
    ⟨rfl, rfl⟩
  have short : "app".utf8ByteSize = 3 ∧ "src".utf8ByteSize = 3 ∧ "a".utf8ByteSize = 1 := ⟨rfl, rfl, rfl⟩
  have written : Text.slashed (Text.joinWith "/" ["src", "a\\b.js"]) = "src/a/b.js" := by decide
  have joined : Location.join "app" "src/a/b.js" = "app/src/a/b.js" := rfl
  -- The script is the only entry, and its path is written with a slash.
  have entries : entriesBelow backslashed "app" = some ["src/a/b.js"] := by
    simp [entriesBelow, FileSystem.entry?, FileSystem.locate, relative, segments, FileSystem.follow, short,
      FileSystem.longestName, backslashed, Sorted.get?_cons, FileEntry.leavesOf, FileEntry.leaves, written]
  refine ⟨selected.1, by simp [backslashed, Sorted.get?_cons], by simp [discover, entries, selected.2], ?_, ?_⟩
  · -- Below the source root there is no directory with the name in front of the slash.
    simp [joined, FileSystem.read, FileSystem.locate, relative, segments, FileSystem.follow, short,
      FileSystem.longestName, backslashed, Sorted.get?_cons]
  · -- The entry is selected, but its path is not on the list.
    intro lists
    have listed := (lists.listed "src/a\\b.js").mpr
      ⟨⟨["src", "a\\b.js"], .file .empty, by decide, by simp [Sorted.get?_cons], rfl⟩,
        selects_iff.mp selected.1⟩
    exact absurd listed (by decide)

end LayerAudit.Setup
