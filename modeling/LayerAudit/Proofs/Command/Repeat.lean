import LayerAudit.Proofs.Audit.Isolation
import LayerAudit.Proofs.Command.Run
import Mathlib.Data.List.Find

/-!
A second run of an audit writes the document of the first one again, at its own time, as long as no component has an
ambiguous tag and the run sees nothing that the first one changed. Where it sees the first document, it writes another
one.
-/

namespace LayerAudit

/-- A document without the time at which it was made. -/
def Report.withoutTime : Report.Json → Report.Json
  | .record fields => .record (fields.filter (·.1 ≠ "generated_at"))
  | other => other

/-- Documents that differ in their times only have the same nodes. -/
theorem Report.nodes_of_withoutTime {first second : Audit} {policy : Policy} {spec : ReportSpec} {seconds later : Int}
    (same : withoutTime (document first policy spec seconds) = withoutTime (document second policy spec later)) :
    first.graph.nodes.map nodeJson = second.graph.nodes.map nodeJson := by
  have field := congrArg (fun | Json.record fields => fields.lookup "nodes" | _ => none) same
  simpa [withoutTime, document, List.lookup_cons] using field

namespace Config

variable [Toml.Syntax] {before after : FileSystem} {directory : String}

/-- The same settings are loaded where the path reads the same. -/
theorem load_congr {path : String} (same : before.read path = after.read path) :
    load before path = load after path := by
  rw [load, load, same]

/-- The same settings are the nearest where the directory is at the same place and the paths of all files with settings
that may count end alike. -/
theorem loadNearest_congr (start : before.canonical? directory = after.canonical? directory)
    (ends : ∀ above ∈ Location.lineage ((after.canonical? directory).getD directory),
      FileSystem.EndsAlike (before.locate true (Location.join above fileName))
        (after.locate true (Location.join above fileName))) :
    loadNearest before directory = loadNearest after directory := by
  -- The paths that may count are those of a file with settings in each directory above.
  have ends (path : String) (listed : path ∈ (Location.lineage ((after.canonical? directory).getD directory)).map
      (Location.join · fileName)) : FileSystem.EndsAlike (before.locate true path) (after.locate true path) := by
    obtain ⟨above, member, rfl⟩ := List.mem_map.mp listed
    exact ends above member
  -- The search for the nearest one asks of each path only whether there is a file.
  have nearest : nearest? before directory = nearest? after directory := by
    dsimp only [nearest?]
    rw [start]
    exact List.find?_congr fun path listed => FileSystem.contains_congr (ends path listed)
  -- The file that is found there reads the same as well.
  rw [loadNearest, loadNearest, nearest]
  cases found : nearest? after directory with
  | none => rfl
  | some path =>
    have same := load_congr (FileSystem.read_congr (ends path (List.mem_of_find?_eq_some found)))
    simp only [same]

end Config

namespace Request

section

variable [Script.Syntax] [Pattern.Syntax] [Glob.Syntax] [Toml.Syntax]

/-- An audit of some files at some time leaves other files, in which its document is written. -/
def Leaves (request : Request) (order : BindingOrder) (before after : FileSystem) (seconds : Int)
    (document : Report.Json) : Prop :=
  ∃ setup audit, request.Examined order before setup audit ∧
    document = Report.document audit setup.policy setup.config.report seconds ∧
    Report.Wrote before after (request.target setup.config)
      (Report.documentText document request.isCompact ++ "\n").toUTF8

/-- The same audit once more, of the files that the first one leaves, comes to the same document at its own time, and to
the same exit code. Each of the two meets the imported names in an order of its own. -/
structure Repeats (request : Request) (one another : BindingOrder) (files : FileSystem) (seconds later : Int)
    (colored : Bool) : Prop where
  documents : ∃ first second,
    request.Leaves one files (request.run one files seconds colored).files seconds first ∧
    request.Leaves another (request.run one files seconds colored).files
      (request.run another (request.run one files seconds colored).files later colored).files later second ∧
    Report.withoutTime first = Report.withoutTime second
  code : (request.run another (request.run one files seconds colored).files later colored).code =
    (request.run one files seconds colored).code

/-- No component that is audited has an ambiguous tag. -/
def Unambiguous (request : Request) (files : FileSystem) : Prop :=
  ∀ setup, request.Uses files setup → setup.Unambiguous files request.root

end

section

variable [Pattern.Syntax] [Glob.Syntax] [Toml.Syntax]

/-- An audit of some files looks at the place: on the way to settings, on the way to the root, as a selected entry below
the root, or on the way to what a discovered file contains. -/
inductive Sees (request : Request) (files : FileSystem) : List String → Prop
  | settings {path place} (given : request.config = some path) (looked : files.LooksAt true path place) :
    Sees request files place
  | nearest {directory place} (noFile : request.config = none)
    (above : directory ∈ Location.lineage ((files.canonical? request.root).getD request.root))
    (looked : files.LooksAt true (Location.join directory Config.fileName) place) : Sees request files place
  | root {throughLast place} (looked : files.LooksAt throughLast request.root place) : Sees request files place
  | entry {setup root entries names entry place} (uses : request.Uses files setup)
    (located : files.locate true request.root = .ok (.taken root (.directory entries)))
    (there : (FileEntry.directory entries).at? names = some entry) (noDirectory : entry.isDirectory = false)
    (selected : setup.selects (Setup.writtenPath names)) (below : place = root ++ names) : Sees request files place
  | content {setup paths path place} (uses : request.Uses files setup)
    (discovered : setup.discover files request.root = .ok paths) (listed : path ∈ paths)
    (looked : files.LooksAt true (Location.join request.root path) place) : Sees request files place

/-- What an audit of the later files sees is like it was before. -/
def SeesNoChange (request : Request) (before after : FileSystem) : Prop :=
  ∀ place, request.Sees after place → FileEntry.Alike (before.root.at? place) (after.root.at? place)

variable {request : Request} {setup : Setup} {before after : FileSystem} {config : Config}

/-! ### What is the same for both -/

section

variable (sameDirectory : before.workingDirectory = after.workingDirectory)
  (noChange : request.SeesNoChange before after)
include sameDirectory noChange

/-- A path ends alike where all places on the way are seen. -/
theorem SeesNoChange.ends {throughLast : Bool} {path : String}
    (sees : ∀ place, after.LooksAt throughLast path place → request.Sees after place) :
    FileSystem.EndsAlike (before.locate throughLast path) (after.locate throughLast path) :=
  FileSystem.locate_congr sameDirectory fun place looked => noChange place (sees place looked)

/-- The settings are the same. -/
theorem SeesNoChange.settled (settled : request.Settled before config) : request.Settled after config := by
  cases settled with
  | @asked path _ given loaded =>
    have same := FileSystem.read_congr (noChange.ends sameDirectory fun _ => .settings given)
    exact .asked given (Config.load_congr same ▸ loaded)
  -- The nearest settings are looked for from the directory where the root really is.
  | nearest noFile =>
    have start := FileSystem.canonical?_congr (noChange.ends sameDirectory fun _ => .root)
    rw [Config.loadNearest_congr start fun directory above =>
      noChange.ends sameDirectory fun _ => .nearest noFile above]
    exact .nearest noFile

/-- So is what the audit is set up with. -/
theorem SeesNoChange.uses (uses : request.Uses before setup) : request.Uses after setup := by
  obtain ⟨config, settled, made⟩ := uses
  exact ⟨config, noChange.settled sameDirectory settled, made⟩

variable (wellBefore : before.WellFormed) (wellAfter : after.WellFormed)
  (stays : ∀ place entry, before.root.at? place = some entry → entry.isDirectory = false →
    ∃ other, after.root.at? place = some other ∧ other.isDirectory = false)
include wellBefore wellAfter stays

/-- The discovered paths are the same if no file and no link is lost. -/
theorem SeesNoChange.discover (uses : request.Uses before setup) (root : before.isDirectory request.root) :
    setup.discover before request.root = setup.discover after request.root := by
  -- The root leads to a directory in both, and its path ends alike.
  obtain ⟨place, entries, located⟩ := FileSystem.isDirectory_iff.mp root
  obtain ⟨others, relocated⟩ := (located ▸ noChange.ends sameDirectory fun _ => .root).of_directory
  have sameRoot := Setup.rootPaths_congr (noChange.ends sameDirectory fun _ => .root)
  refine Setup.discover_congr (FileSystem.entry?_eq_some_iff.mpr ⟨place, located⟩)
    (FileSystem.entry?_eq_some_iff.mpr ⟨place, relocated⟩) sameRoot ?_
  have wellEntries := wellBefore.tree.at? (FileSystem.there_of_locate located)
  have wellOthers := wellAfter.tree.at? (FileSystem.there_of_locate relocated)
  -- What lies below the root is found from the top of the tree by putting the root's place in front.
  have below (names : List String) : before.root.at? (place ++ names) = (FileEntry.directory entries).at? names := by
    rw [FileEntry.at?_append, FileSystem.there_of_locate located, Option.bind_some]
  have belowAfter (names : List String) : after.root.at? (place ++ names) = (FileEntry.directory others).at? names := by
    rw [FileEntry.at?_append, FileSystem.there_of_locate relocated, Option.bind_some]
  -- Leaves are distinct, so that it is enough that the same ones are selected.
  refine (List.perm_ext_iff_of_nodup (wellEntries.nodup_leaves.filter _) (wellOthers.nodup_leaves.filter _)).mpr
    fun names => ?_
  rw [List.mem_filter, List.mem_filter, wellEntries.mem_leaves, wellOthers.mem_leaves]
  refine and_congr_left fun selected => ⟨fun ⟨entry, there, leaf⟩ => ?_, fun ⟨entry, there, leaf⟩ => ?_⟩
  · -- No file is lost, so there is a leaf with these names still.
    obtain ⟨other, kept, otherLeaf⟩ := stays (place ++ names) entry (by rw [below, there]) leaf
    exact ⟨other, by rw [← belowAfter, kept], otherLeaf⟩
  · -- A selected entry is seen, so it was there before.
    have alike := noChange _ (.entry (noChange.uses sameDirectory uses) relocated there leaf selected rfl)
    exact ⟨entry, by rw [← below, alike.leaf_iff leaf, belowAfter, there], leaf⟩

variable [Script.Syntax] {order : BindingOrder} {audit : Audit}

/-- The audit comes to the same result. -/
theorem SeesNoChange.examined (examined : request.Examined order before setup audit) :
    request.Examined order after setup audit := by
  obtain ⟨uses, warnings, done⟩ := examined
  have reuses := noChange.uses sameDirectory uses
  obtain ⟨paths, discovered, result⟩ := Setup.discover_of_audit done
  -- The audit exists, so that the root is a directory.
  have same := noChange.discover sameDirectory wellBefore wellAfter stays uses
    ((Setup.exists_discover_iff setup).mp ⟨paths, discovered⟩)
  have rediscovered := same.symm.trans discovered
  -- The same files are discovered, and each of them reads the same.
  have outcomes : setup.outcomes order before request.root paths = setup.outcomes order after request.root paths := by
    refine List.map_congr_left fun path listed => Setup.examine_congr ?_
    exact FileSystem.read_congr (noChange.ends sameDirectory fun _ => .content reuses rediscovered listed)
  refine ⟨reuses, warnings, ?_⟩
  rw [Setup.audit_of_discover order rediscovered, ← outcomes, ← result]

end

variable [Script.Syntax]

/-- Where no component has an ambiguous tag, an audit comes to the same result in all orders. -/
theorem Examined.inOrder {order : BindingOrder} {audit : Audit} (examined : request.Examined order before setup audit)
    (unambiguous : request.Unambiguous before) (another : BindingOrder) :
    request.Examined another before setup audit := by
  obtain ⟨uses, warnings, done⟩ := examined
  rw [Setup.audit_eq_of_unambiguous (unambiguous setup uses) order another] at done
  exact ⟨uses, warnings, done⟩

/-- A run that succeeds and sees afterwards no change that it made comes to the same document when it is repeated, unless
a component has an ambiguous tag. -/
theorem run_repeats {one another : BindingOrder} {files : FileSystem} {seconds later : Int} {colored : Bool}
    (well : files.WellFormed) (unambiguous : request.Unambiguous files)
    (success : (request.run one files seconds colored).code ≠ 2)
    (noChange : request.SeesNoChange files (request.run one files seconds colored).files) :
    request.Repeats one another files seconds later colored := by
  obtain ⟨bound, setup, audit, read, examined, writable⟩ := writable_of_run success
  have first := ran_of_writable well read examined writable seconds colored
  -- The second run would come to the same with the files of the first one, and what it sees of them has not changed.
  have again := noChange.examined first.wrote.sameDirectory well first.wellFormed first.wrote.stays
    (examined.inOrder unambiguous another)
  -- The first document is still writable after the first run, with the same target.
  have second := ran_of_writable first.wellFormed read again first.again later colored
  refine ⟨⟨_, _, ⟨setup, audit, examined, rfl, first.wrote⟩, ⟨setup, audit, again, rfl, second.wrote⟩, ?_⟩, ?_⟩
  · -- The time is in one field only.
    simp [Report.withoutTime, Report.document]
  · rw [second.code, first.code]

end

/-! ### A document beside the application, and one inside -/

open Setup (application locate_application)

/-- The request for an audit of the application whose document goes beside it. -/
def outside : Request where
  root := "app"
  output := some "doc.json"

/-- What is beside an application is not discovered. -/
theorem discover_application (setup : Setup) (entries beside : List (String × FileEntry)) :
    setup.discover (application entries beside) "app" = setup.discover (application entries []) "app" := by
  -- Whatever lies beside it, the application itself is the same directory.
  have found (others : List (String × FileEntry)) :
      FileSystem.entry? (application entries others) "app" = some (.directory entries) :=
    FileSystem.entry?_eq_some_iff.mpr ⟨["app"], locate_application true entries others⟩
  refine Setup.discover_congr (found beside) (found []) (Setup.rootPaths_congr ?_) (.refl _)
  rw [locate_application, locate_application]
  exact .taken _ (.refl _)

/-- What is beside an application does not change where the paths of its scripts lead. -/
theorem locate_scripts (first second : ByteArray) (beside : List (String × FileEntry)) :
    (application [("src", .directory [("a.js", .file first), ("b.js", .file second)])] beside).locate true
        (Location.join "app" "src/a.js") = .ok (.taken ["app", "src", "a.js"] (.file first)) ∧
      (application [("src", .directory [("a.js", .file first), ("b.js", .file second)])] beside).locate true
        (Location.join "app" "src/b.js") = .ok (.taken ["app", "src", "b.js"] (.file second)) := by
  -- Both scripts lie below the directory of the application.
  have root := locate_application true
    [("src", .directory [("a.js", .file first), ("b.js", .file second)])] beside
  have firstPath : Text.joinWith "/" ["src", "a.js"] = "src/a.js" := rfl
  have secondPath : Text.joinWith "/" ["src", "b.js"] = "src/b.js" := rfl
  rw [← firstPath, ← secondPath]
  constructor
  · exact FileSystem.locate_below root (by decide) (by simp [Sorted.get?_cons])
  · exact FileSystem.locate_below root (by decide) (by simp [Sorted.get?_cons])

/-- An application of two empty scripts, with some entries beside it. -/
def scripts (beside : List (String × FileEntry)) : FileSystem :=
  application [("src", .directory [("a.js", .file .empty), ("b.js", .file .empty)])] beside

/-- An audit of the two scripts does not look at a document beside the application. -/
theorem not_sees_beside (content : ByteArray) :
    ¬outside.Sees (scripts [("doc.json", .file content)]) ["doc.json"] := by
  have document : (scripts [("doc.json", .file content)]).root.at? ["doc.json"] = some (.file content) := by
    simp [scripts, application, Sorted.get?_cons]
  -- The root is a directory, whether its last link would be followed or not.
  have root (throughLast : Bool) := locate_application throughLast
    [("src", .directory [("a.js", .file .empty), ("b.js", .file .empty)])] [("doc.json", .file content)]
  -- The document beside the application is not discovered.
  have discovered : Setup.usual.discover (scripts [("doc.json", .file content)]) "app" =
      .ok ["src/a.js", "src/b.js"] :=
    (discover_application ..).trans (Setup.discover_twoScripts .empty .empty)
  -- The paths on which settings are looked for end at places where nothing is.
  have settings : ∀ path ∈ ["/app/.adherence.toml", "/.adherence.toml"],
      ¬(scripts [("doc.json", .file content)]).LooksAt true path ["doc.json"] := by
    obtain ⟨inside, above⟩ : (scripts [("doc.json", .file content)]).locate true "/app/.adherence.toml" =
          .ok (.free ["app", ".adherence.toml"] false) ∧
        (scripts [("doc.json", .file content)]).locate true "/.adherence.toml" =
          .ok (.free [".adherence.toml"] false) :=
      locate_settings_application rfl rfl
    intro path listed
    rcases List.mem_pair.mp listed with rfl | rfl
    · exact FileSystem.not_looksAt inside document (by simp)
    · exact FileSystem.not_looksAt above document (by simp)
  intro sees
  -- None of the paths that the audit goes along leads to the document.
  cases sees with
  | settings given => cases given
  | nearest _ above looked =>
    exact settings _ (settingsPaths_application _ _ ▸ List.mem_map_of_mem above) looked
  | root looked => exact FileSystem.not_looksAt (root _) document (by simp) looked
  | entry _ located _ _ _ below =>
    obtain ⟨rfl, -⟩ := Spot.taken.inj (Except.ok.inj ((root true).symm.trans located))
    exact absurd (List.cons.inj below).1 (by decide)
  -- What is discovered are the two scripts, and their paths lead to themselves.
  | content uses found listed looked =>
    have examined := outside.examined_application .sorted (by decide) rfl rfl rfl discovered
    obtain rfl := uses.unique examined.made
    obtain rfl := Except.ok.inj (discovered.symm.trans found)
    obtain ⟨first, second⟩ := locate_scripts .empty .empty [("doc.json", .file content)]
    rcases List.mem_pair.mp listed with rfl | rfl
    · exact FileSystem.not_looksAt first document (by simp) looked
    · exact FileSystem.not_looksAt second document (by simp) looked

/-- The two scripts are audited twice to the same document, which goes beside the application. -/
theorem run_repeats_scripts :
    (scripts []).WellFormed ∧ outside.Unambiguous (scripts []) ∧
      (outside.run .sorted (scripts []) 0 false).code ≠ 2 ∧
      outside.SeesNoChange (scripts []) (outside.run .sorted (scripts []) 0 false).files ∧
      ∀ another : BindingOrder, outside.Repeats .sorted another (scripts []) 0 1 false := by
  -- The two empty scripts are the application for which everything was shown above.
  have well : (scripts []).WellFormed := Setup.wellFormed_application (Setup.wellFormed_twoEntries .empty .empty)
  have examined : outside.Examined .sorted (scripts []) Setup.usual _ :=
    outside.examined_application .sorted rfl rfl rfl rfl (Setup.discover_twoScripts .empty .empty)
  have wrote (text : String) : Report.writeDocument (scripts []) (outside.target Setup.usual.config) text = _ :=
    writeDocument_beside _ text
  have ran := ran_of_writable well rfl examined
    (Report.writable_of_writeDocument "" (congrArg Prod.snd (wrote _))) 0 false
  -- Nothing fails, so that the code is none for an error.
  have success : (outside.run .sorted (scripts []) 0 false).code ≠ 2 := by
    rw [ran.code]
    decide
  have noChange : outside.SeesNoChange (scripts []) (outside.run .sorted (scripts []) 0 false).files := by
    -- The document is the only place that changes, and it is not seen.
    rw [files_of_run rfl examined, wrote]
    generalize (outside.document _ _ 0 ++ "\n").toUTF8 = content
    have order : ¬"doc.json" < "app" := by decide
    have there : (scripts []).put ["doc.json"] (.file content) = scripts [("doc.json", .file content)] := by
      simp only [scripts, application, FileSystem.put, FileEntry.putAt, Sorted.put, if_neg order]
      rfl
    intro place sees
    by_cases same : place = ["doc.json"]
    · subst same
      exact absurd (there ▸ sees) (not_sees_beside content)
    · have slot := (well.isSlot_free (locate_beside true _)).1
      exact slot.elsewhere (FileEntry.isBare_file content) same
  have unambiguous : outside.Unambiguous (scripts []) := by
    intro setup uses paths found path listed words source component
    obtain rfl := uses.unique examined.made
    obtain rfl := Except.ok.inj ((Setup.discover_twoScripts .empty .empty).symm.trans found)
    -- Neither of the scripts is a component.
    have kinds : ∀ path ∈ ["src/a.js", "src/b.js"], Setup.usual.config.conventions.kindOf path ≠ .uiComponent := by
      simp only [Setup.kindOf_usual]
      decide
    exact absurd (Setup.kind_of_componentAt? component) (kinds path listed)
  exact ⟨well, unambiguous, success, noChange, fun another => run_repeats well unambiguous success noChange⟩

/-- The request for an audit of the application whose document goes among its scripts. -/
def inside : Request where
  root := "app"
  output := some "app/src/out.json"

/-- An application whose scripts are in a directory with these entries. -/
def sources (entries : List (String × FileEntry)) : FileSystem := application [("src", .directory entries)] []

/-- The document goes into the directory of the scripts. -/
theorem writeDocument_inside (text : String) :
    Report.writeDocument (sources []) (inside.target Setup.usual.config) text =
      (sources [("out.json", .file (text ++ "\n").toUTF8)], none) := by
  -- The target lies in a directory that exists, and nothing has its name.
  have target : inside.target Setup.usual.config = "app/src/out.json" := rfl
  have directoryPath : Text.joinWith "/" ["app", "src"] = "app/src" := rfl
  have filePath : Text.joinWith "/" (["app", "src"] ++ ["out.json"]) = "app/src/out.json" := rfl
  have parent : Location.parent? "app/src/out.json" = some "app/src" := by decide
  have above : (Location.lineage "app/src").filter (fun p => p ≠ "" ∧ p ≠ "/") = ["app/src", "app"] := by
    rfl
  have there : (sources []).root.at? ["app", "src"] = some (.directory []) := by
    simp [sources, application, Sorted.get?_cons]
  have directory : (sources []).isDirectory "app/src" := by
    rw [← directoryPath]
    exact FileSystem.isDirectory_iff.mpr
      ⟨["app", "src"], [], FileSystem.locate_directory true (List.cons_ne_nil _ _) (by decide) there⟩
  -- There is a free place for the document.
  have free : (sources []).locate true "app/src/out.json" = .ok (.free ["app", "src", "out.json"] false) := by
    rw [← filePath]
    exact FileSystem.locate_free true (by decide) ⟨[], there⟩ (by simp [sources, application, Sorted.get?_cons])
  simp only [target, Report.writeDocument, Report.ensureParent, parent, FileSystem.ensureDirectories, above,
    FileSystem.ensureLineage, FileSystem.ensureDirectory_of_isDirectory directory, FileSystem.write, free]
  simp [sources, application, FileSystem.put, FileEntry.putAt, Sorted.put, Sorted.get?_cons]

/-- Discovery below the application goes through the directory of the scripts. -/
theorem discover_sources (entries : List (String × FileEntry)) : Setup.usual.discover (sources entries) "app" =
    .ok ((((FileEntry.leavesOf entries).map fun names => Setup.writtenPath ("src" :: names)).filter
      Setup.usual.selects).mergeSort fun a b => !(b < a)) := by
  -- The root is the directory above that of the scripts.
  have entry : FileSystem.entry? (sources entries) "app" = some (.directory [("src", .directory entries)]) :=
    FileSystem.entry?_eq_some_iff.mpr ⟨["app"], locate_application true _ _⟩
  have root : (sources entries).locate false "app" = .ok (.taken ["app"] (.directory [("src", .directory entries)])) :=
    locate_application false _ _
  simp only [Setup.discover, Setup.entriesBelow, entry, root, FileEntry.leavesOf, FileEntry.leaves, List.append_nil,
    List.map_map]
  rfl

/-- A document among the scripts is discovered. -/
theorem discover_document (content : ByteArray) :
    Setup.usual.discover (sources [("out.json", .file content)]) "app" = .ok ["src/out.json"] := by
  have written : Setup.writtenPath ["src", "out.json"] = "src/out.json" := rfl
  have selected : Setup.usual.selects "src/out.json" = true := by
    rw [Setup.goesBy_usual.selects_eq]
    decide +kernel
  simp [discover_sources, FileEntry.leavesOf, FileEntry.leaves, written, selected]

/-- A document that is discovered is a node of the audit. -/
theorem nodes_document (order : BindingOrder) (content : ByteArray) :
    (Setup.usual.auditOf order (sources [("out.json", .file content)]) "app" ["src/out.json"]).graph.nodes ≠ [] := by
  have path : Text.joinWith "/" ["src", "out.json"] = "src/out.json" := by decide
  have read : (sources [("out.json", .file content)]).read (Location.join "app" "src/out.json") = .ok content := by
    rw [← path]
    exact FileSystem.read_below (locate_application true _ _) (by decide) (by simp [Sorted.get?_cons])
  have file : Setup.usual.fileNode? (sources [("out.json", .file content)]) "app" "src/out.json" =
      some (Setup.usual.fileNode "src/out.json" content) := by
    simp [Setup.fileNode?, Setup.contentOf?, read, Except.toOption]
  -- There is one path only, so that nothing can come before it.
  have known : (Setup.usual.auditOf order (sources [("out.json", .file content)]) "app" ["src/out.json"]).graph.node?
      "src/out.json" = some (.file (Setup.usual.fileNode "src/out.json" content)) :=
    Setup.node?_of_free (List.nil_append _).symm file List.not_mem_nil fun _ none => absurd none List.not_mem_nil
  have named : (Node.file (Setup.usual.fileNode "src/out.json" content)).id = "src/out.json" := Setup.fileNode?_id file
  exact List.ne_nil_of_mem (Setup.valid_auditOf.mem_nodes.mpr (by rw [named, known]))

/-- A document among the scripts is audited. -/
theorem examined_document (order : BindingOrder) (content : ByteArray) :
    inside.Examined order (sources [("out.json", .file content)]) Setup.usual
      (Setup.usual.auditOf order (sources [("out.json", .file content)]) "app" ["src/out.json"]) :=
  inside.examined_application order (by simp [Sorted.get?_cons, Config.fileName]) rfl rfl rfl
    (discover_document content)

/-- An audit whose document goes among the scripts finds it when it is repeated, and comes to another document, whatever
the orders are. -/
theorem run_finds_document :
    Command.ofArguments? ["app", "app/src/out.json"] = some (.audit inside) ∧ (sources []).WellFormed ∧
      ∀ one another : BindingOrder, (inside.run one (sources []) 0 false).code = 0 ∧
        ¬inside.Repeats one another (sources []) 0 0 false := by
  have fit : Command.ofArguments? ["app", "app/src/out.json"] = some (.audit inside) := rfl
  -- The directories have one entry each, and the innermost one has none.
  have well : (sources []).WellFormed := by
    have names : IsEntryName "app" ∧ IsEntryName "src" := by decide
    refine ⟨.single names.1 (.single names.2 (.directory .nil (by simp) (by simp))), _, FileEntry.at?_nil _⟩
  have empty : Setup.usual.discover (sources []) "app" = .ok [] := by
    simp [discover_sources, FileEntry.leavesOf]
  refine ⟨fit, well, fun one another => ?_⟩
  -- The first run has nothing to audit.
  have examined : inside.Examined one (sources []) Setup.usual _ :=
    inside.examined_application one rfl rfl rfl rfl empty
  have ran := ran_of_writable well rfl examined
    (Report.writable_of_writeDocument "" (congrArg Prod.snd (writeDocument_inside _))) 0 false
  have success : (inside.run one (sources []) 0 false).code = 0 := by
    rw [ran.code]
    rfl
  refine ⟨success, fun repeats => ?_⟩
  obtain ⟨first, second, ⟨_, _, firstExamined, rfl, _⟩, ⟨_, _, secondExamined, rfl, _⟩, same⟩ := repeats.documents
  obtain ⟨rfl, rfl⟩ := examined.unique firstExamined
  rw [files_of_run rfl examined, writeDocument_inside] at secondExamined
  -- The second run discovers the document, with whatever the first one wrote into it.
  have again := examined_document another (inside.document Setup.usual
    (Setup.usual.auditOf one (application [("src", .directory [])] []) "app" []) 0 ++ "\n").toUTF8
  obtain ⟨rfl, rfl⟩ := again.unique secondExamined
  -- The first document has no nodes, and the second one has a node for the first.
  have empty : (Setup.usual.auditOf one (sources []) "app" []).graph.nodes = [] := rfl
  have nodes := Report.nodes_of_withoutTime same
  rw [← sources, empty] at nodes
  exact nodes_document another _ (List.map_eq_nil_iff.mp nodes.symm)

end Request

end LayerAudit
