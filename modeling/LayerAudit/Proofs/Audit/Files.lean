import LayerAudit.Proofs.Audit.Discovery
import LayerAudit.Proofs.Audit.Merge
import LayerAudit.Proofs.Sorted
import LayerAudit.Proofs.Tree.Imports
import LayerAudit.Report.Summary
import LayerAudit.Script.Repair
import Mathlib.Data.List.Perm.Subperm

/-! An audit records all of its files exactly if no symbol of an earlier file bears the path of a later one. -/

namespace LayerAudit

/-- The node is the file at a path. -/
def Node.isFileAt (node : Node) (path : String) : Bool := node.isFile && node.id == path

namespace Setup

/-- What an audit owes to the files at some paths below a source root. -/
structure RecordsFiles (setup : Setup) (files : FileSystem) (root : String) (paths : List String)
    (audit : Audit) : Prop where
  /-- A file that can be read has one node, with its digest and all that its path tells. -/
  recorded : ∀ path ∈ paths, ∀ content, files.read (Location.join root path) = .ok content →
    audit.graph.nodes.filter (·.isFileAt path) =
      [.file
        { id := path
          path
          hash := Digest.sha256 content
          kind := setup.config.conventions.kindOf path
          purpose := setup.config.conventions.purposeOf (setup.config.conventions.kindOf path) path
          layer := (setup.policy.layering.layerOf? path).map (·.name) }]
  /-- A file that cannot be read has no node and one reading finding. -/
  reported : ∀ path ∈ paths, ∀ cause, files.read (Location.join root path) = .error cause →
    audit.graph.nodes.filter (·.isFileAt path) = [] ∧
      audit.violations.countP (fun violation => violation.kind = .reading ∧ violation.file = path) = 1
  counted : audit.fileCount =
    (Report.Summary.of audit).files + audit.violations.countP (·.kind = .reading)

/-- When the turn of a file comes, nothing before it bears its path. -/
structure Unclaimed [Script.Syntax] (setup : Setup) (order : BindingOrder) (files : FileSystem)
    (root : String) (paths : List String) : Prop where
  /-- Otherwise a file would be counted as often as it is listed, but have one node. -/
  distinct : paths.Nodup
  /-- Symbols of the earlier files alone matter, and only for a file that can be read. -/
  free : ∀ before path after, paths = before ++ path :: after → (contentOf? files root path).isSome →
    ∀ earlier ∈ before,
      ∀ symbol ∈ (setup.examine order files root (setup.scopeOf paths) earlier).extraction.symbols, symbol.id ≠ path

/-! ### Lists of paths -/

/-- What the files offer comes before a file, from the file itself, or after it. -/
theorem flatMap_split {paths before after : List String} {path : String} (split : paths = before ++ path :: after)
    (offered : String → List Node) :
    paths.flatMap offered = before.flatMap offered ++ (offered path ++ after.flatMap offered) := by
  rw [split, List.flatMap_append, List.flatMap_cons]

/-- A path that occurs once does not stand before its occurrence. -/
theorem not_mem_before {paths before after : List String} {path : String} (distinct : paths.Nodup)
    (split : paths = before ++ path :: after) : path ∉ before := by
  have moved := List.nodup_middle.mp (split ▸ distinct)
  exact fun member => (List.nodup_cons.mp moved).1 (List.mem_append_left _ member)

section

variable {setup : Setup} {order : BindingOrder} {files : FileSystem} {root : String} {paths : List String}

/-- A file cannot be read exactly if there is a reading finding about it. -/
theorem unread?_isSome_eq (path : String) :
    (setup.unread? files root path).isSome = !(contentOf? files root path).isSome := by
  rw [unread?_isSome, fileNode?, Option.isNone_map, Option.not_isSome]

variable [Script.Syntax]

/-! ### The files among the nodes -/

/-- A file among the nodes is that of one of the paths, which is its id. -/
theorem fileNode?_of_mem {file : FileNode} (member : .file file ∈ (setup.auditOf order files root paths).graph.nodes) :
    file.id ∈ paths ∧ setup.fileNode? files root file.id = some file := by
  have found := valid_auditOf.mem_nodes.mp member
  rw [node?_auditOf] at found
  -- The node was offered by the file at some path, and no symbol is a file.
  obtain ⟨path, listed, offered⟩ := List.mem_flatMap.mp (List.mem_of_find?_eq_some found)
  rcases mem_offersAt.mp offered with ⟨own, read, same⟩ | ⟨_, _, same⟩
  · cases same
    rw [fileNode?_id read]
    exact ⟨listed, read⟩
  · cases same

/-- The files at a path are what is known under it, unless that is a symbol. -/
theorem filter_isFileAt (path : String) :
    (setup.auditOf order files root paths).graph.nodes.filter (·.isFileAt path) =
      ((setup.auditOf order files root paths).graph.node? path).toList.filter Node.isFile := by
  rw [← valid_auditOf.filter_nodes, List.filter_filter]
  rfl

/-- A path is known by its file if nothing before the file bears it. -/
theorem node?_of_free {before after : List String} {path : String} {file : FileNode}
    (split : paths = before ++ path :: after) (read : setup.fileNode? files root path = some file)
    (fresh : path ∉ before)
    (free : ∀ earlier ∈ before,
      ∀ symbol ∈ (setup.examine order files root (setup.scopeOf paths) earlier).extraction.symbols, symbol.id ≠ path) :
    (setup.auditOf order files root paths).graph.node? path = some (.file file) := by
  rw [node?_auditOf]
  -- No earlier file offers the id, neither for itself nor for a symbol.
  have none_before : (before.flatMap (setup.offersAt order files root paths)).find? (·.id == path) = none := by
    refine List.find?_eq_none.mpr fun node member same => ?_
    obtain ⟨earlier, listed, offered⟩ := List.mem_flatMap.mp member
    have named := beq_iff_eq.mp same
    rcases mem_offersAt.mp offered with ⟨own, ownRead, rfl⟩ | ⟨symbol, extracted, rfl⟩
    · have own := fileNode?_id ownRead
      exact fresh (named.symm.trans own ▸ listed)
    · exact free earlier listed symbol extracted named
  -- The file itself comes before its own symbols.
  have own : (setup.offersAt order files root paths path).find? (·.id == path) = some (.file file) := by
    have named := fileNode?_id read
    simp [offersAt, FileOutcome.offers, examine_file, read, Node.id, named]
  rw [flatMap_split split, List.find?_append, List.find?_append, none_before, own]
  rfl

/-- A path is known by a symbol if an earlier file extracts one that bears it. -/
theorem node?_of_claimed {before after : List String} {path earlier : String} {symbol : SymbolNode}
    -- Whatever is claimed comes before the file itself.
    (split : paths = before ++ path :: after) (fresh : path ∉ before) (listed : earlier ∈ before)
    (extracted : symbol ∈ (setup.examine order files root (setup.scopeOf paths) earlier).extraction.symbols)
    (named : symbol.id = path) :
    ∃ other, (setup.auditOf order files root paths).graph.node? path = some (.symbol other) := by
  -- Something is found among the earlier offers, and the path of a file there is another one.
  have offered : Node.symbol symbol ∈ before.flatMap (setup.offersAt order files root paths) :=
    List.mem_flatMap.mpr ⟨earlier, listed, mem_offersAt.mpr (Or.inr ⟨symbol, extracted, rfl⟩)⟩
  have some_before : ((before.flatMap (setup.offersAt order files root paths)).find? (·.id == path)).isSome :=
    List.find?_isSome.mpr ⟨_, offered, by simp [Node.id, named]⟩
  obtain ⟨first, found⟩ := Option.isSome_iff_exists.mp some_before
  have known : (setup.auditOf order files root paths).graph.node? path = some first := by
    rw [node?_auditOf, flatMap_split split, List.find?_append, found, Option.some_or]
  obtain ⟨owner, ownerListed, firstOffered⟩ := List.mem_flatMap.mp (List.mem_of_find?_eq_some found)
  rcases mem_offersAt.mp firstOffered with ⟨own, ownRead, rfl⟩ | ⟨other, _, rfl⟩
  · have ownNamed := fileNode?_id ownRead
    have bears : own.id = path := by simpa [Node.id] using List.find?_some found
    exact absurd (ownNamed.symm.trans bears ▸ ownerListed) fresh
  · exact ⟨other, known⟩

/-! ### Counting -/

/-- The paths of the files among the nodes. -/
def recordedPaths (audit : Audit) : List String := (audit.graph.nodes.filter Node.isFile).map Node.id

/-- The paths of the files that can be read. -/
def readablePaths (files : FileSystem) (root : String) (paths : List String) : List String :=
  paths.filter fun path => (contentOf? files root path).isSome

/-- No path is recorded twice. -/
theorem nodup_recordedPaths : (recordedPaths (setup.auditOf order files root paths)).Nodup :=
  -- The files are some of the nodes, whose ids all differ.
  valid_auditOf.nodup_nodes.sublist (List.filter_sublist.map _)

/-- Only files that can be read are recorded. -/
theorem recordedPaths_subset :
    recordedPaths (setup.auditOf order files root paths) ⊆ readablePaths files root paths := by
  intro path member
  obtain ⟨node, listed, rfl⟩ := List.mem_map.mp member
  obtain ⟨stored, isFile⟩ := List.mem_filter.mp listed
  -- What is recorded comes from a node of the graph that is a file.
  cases node with
  | file file =>
    obtain ⟨inside, read⟩ := fileNode?_of_mem stored
    obtain ⟨content, contained, _⟩ := Option.map_eq_some_iff.mp read
    exact List.mem_filter.mpr ⟨inside, by simp [Node.id, contained]⟩
  | symbol symbol => cases isFile

/-- A path is recorded exactly if what is known under it is a file. -/
theorem mem_recordedPaths {path : String} :
    path ∈ recordedPaths (setup.auditOf order files root paths) ↔
      ∃ file, (setup.auditOf order files root paths).graph.node? path = some (.file file) := by
  constructor
  · intro member
    -- The node is stored under its own id.
    obtain ⟨node, listed, rfl⟩ := List.mem_map.mp member
    obtain ⟨stored, isFile⟩ := List.mem_filter.mp listed
    cases node with
    | file file => exact ⟨file, valid_auditOf.mem_nodes.mp stored⟩
    | symbol symbol => cases isFile
  · rintro ⟨file, found⟩
    have named := valid_auditOf.node?_id found
    have stored := valid_auditOf.mem_nodes.mpr (named.symm ▸ found)
    exact List.mem_map.mpr ⟨_, List.mem_filter.mpr ⟨stored, rfl⟩, named⟩

/-- The reading findings of an audit are those about the files that cannot be read, in the order of the paths. -/
theorem reading_auditOf :
    (setup.auditOf order files root paths).violations.filter (·.kind = .reading) =
      paths.filterMap (setup.unread? files root) := by
  have apart (violation : Violation) (reading : decide (violation.kind = .reading)) :
      violation.kind ≠ .dependency := by
    simp [of_decide_eq_true reading]
  -- Reading findings are about files, so that those about edges do not count.
  rw [filter_violations_auditOf apart, List.filterMap_eq_flatMap_toList]
  simp only [examine_reading]

/-- All paths are those of files that can be read and of reading findings. -/
theorem length_paths :
    paths.length = (readablePaths files root paths).length +
      (setup.auditOf order files root paths).violations.countP (·.kind = .reading) := by
  rw [List.countP_eq_length_filter, reading_auditOf, List.length_filterMap_eq_countP, readablePaths,
    ← List.countP_eq_length_filter, List.length_eq_countP_add_countP fun path => (contentOf? files root path).isSome]
  congr 1
  -- A file is unreadable exactly if it has a reading finding.
  refine List.countP_congr fun path _ => ?_
  rw [unread?_isSome_eq]
  simp

/-- A file that cannot be read has as many reading findings as its path has occurrences. -/
theorem countP_reading_at {path : String} {cause : FileFailure}
    (failed : files.read (Location.join root path) = .error cause) :
    (setup.auditOf order files root paths).violations.countP (fun violation =>
      violation.kind = .reading ∧ violation.file = path) = paths.count path := by
  have parted : (setup.auditOf order files root paths).violations.countP (fun violation =>
      violation.kind = .reading ∧ violation.file = path) =
      ((setup.auditOf order files root paths).violations.filter (·.kind = .reading)).countP (·.file = path) := by
    -- First all reading findings are taken, and then those of the path among them.
    rw [List.countP_filter]
    congr 1
    funext violation
    simp [and_comm]
  rw [parted, reading_auditOf, List.countP_filterMap, List.count]
  refine List.countP_congr fun other _ => ?_
  -- A finding names its file, and this file certainly has one.
  cases found : setup.unread? files root other with
  | none =>
    have apart : other ≠ path := by
      rintro rfl
      simp [unread?, failed] at found
    simp [apart]
  | some violation => simp [unread?_file found]

/-- The counts of an audit add up exactly if as many files are recorded as can be read. -/
theorem counted_iff :
    (setup.auditOf order files root paths).fileCount =
      (Report.Summary.of (setup.auditOf order files root paths)).files +
        (setup.auditOf order files root paths).violations.countP (·.kind = .reading) ↔
      (recordedPaths (setup.auditOf order files root paths)).length = (readablePaths files root paths).length := by
  -- All three numbers are lengths of lists of paths.
  have fileCount : (setup.auditOf order files root paths).fileCount = paths.length := List.length_map _
  have recorded : (Report.Summary.of (setup.auditOf order files root paths)).files =
      (recordedPaths (setup.auditOf order files root paths)).length := by
    simp [Report.Summary.of, recordedPaths, List.countP_eq_length_filter]
  have all : paths.length = (readablePaths files root paths).length +
      (setup.auditOf order files root paths).violations.countP (·.kind = .reading) := length_paths
  omega

/-! ### Both halves -/

/-- Where no path is claimed, each file that can be read is known under its path. -/
theorem Unclaimed.node? (unclaimed : setup.Unclaimed order files root paths) {path : String} {file : FileNode}
    (listed : path ∈ paths) (read : setup.fileNode? files root path = some file) :
    (setup.auditOf order files root paths).graph.node? path = some (.file file) := by
  -- The file is known by the general lemma, for which the paths before it are split off.
  obtain ⟨before, after, split⟩ := List.append_of_mem listed
  obtain ⟨content, contained, _⟩ := Option.map_eq_some_iff.mp read
  exact node?_of_free split read (not_mem_before unclaimed.distinct split)
    (unclaimed.free before path after split (by simp [contained]))

/-- Where no path is claimed, every file is recorded or reported, and the counts add up. -/
theorem Unclaimed.records (unclaimed : setup.Unclaimed order files root paths) :
    setup.RecordsFiles files root paths (setup.auditOf order files root paths) where
  recorded := by
    intro path listed content read
    have own : setup.fileNode? files root path = some (setup.fileNode path content) := by
      simp [fileNode?, contentOf?, read, Except.toOption]
    rw [filter_isFileAt, unclaimed.node? listed own]
    rfl
  reported := by
    intro path listed cause failed
    refine ⟨?_, ?_⟩
    · -- A file known under the path would have been read.
      rw [filter_isFileAt]
      refine List.filter_eq_nil_iff.mpr fun node member isFile => ?_
      have found := Option.mem_toList.mp member
      cases node with
      | file file =>
        have named := valid_auditOf.node?_id found
        have stored := valid_auditOf.mem_nodes.mpr (named.symm ▸ found)
        have read := (fileNode?_of_mem stored).2
        have failed : files.read (Location.join root file.id) = .error cause := by
          rw [show file.id = path from named]
          exact failed
        simp [fileNode?, contentOf?, failed, Except.toOption] at read
      | symbol symbol => cases isFile
    · -- Each occurrence of the path has a reading finding, and the path occurs once.
      rw [countP_reading_at failed]
      exact List.count_eq_one_of_mem unclaimed.distinct listed
  counted := by
    -- The recorded paths and the readable ones are the same, each of them once.
    refine counted_iff.mpr (List.Perm.length_eq ?_)
    refine (List.perm_ext_iff_of_nodup nodup_recordedPaths (unclaimed.distinct.filter _)).mpr fun path => ?_
    refine ⟨fun recorded => recordedPaths_subset recorded, fun readable => ?_⟩
    obtain ⟨listed, contained⟩ := List.mem_filter.mp readable
    obtain ⟨content, contained⟩ := Option.isSome_iff_exists.mp contained
    have read : setup.fileNode? files root path = some (setup.fileNode path content) := by
      simp [fileNode?, contained]
    exact mem_recordedPaths.mpr ⟨_, unclaimed.node? listed read⟩

/-- Where the counts add up, the recorded paths are the readable ones in some order. -/
theorem RecordsFiles.perm (records : setup.RecordsFiles files root paths (setup.auditOf order files root paths)) :
    (recordedPaths (setup.auditOf order files root paths)).Perm (readablePaths files root paths) := by
  have lengths := counted_iff.mp records.counted
  exact (List.subperm_of_subset nodup_recordedPaths recordedPaths_subset).perm_of_length_le
    (Nat.le_of_eq lengths.symm)

/-- Where every file is recorded or reported, and the counts add up, no path is claimed. -/
theorem RecordsFiles.unclaimed (records : setup.RecordsFiles files root paths (setup.auditOf order files root paths)) :
    setup.Unclaimed order files root paths := by
  have distinct : paths.Nodup := by
    refine List.nodup_iff_count_le_one.mpr fun path => ?_
    -- A path that is not listed does not occur at all.
    by_cases listed : path ∈ paths
    · cases outcome : files.read (Location.join root path) with
      | ok content =>
        -- A second occurrence would be a second readable path, but only one is recorded.
        have contained : (contentOf? files root path).isSome := by simp [contentOf?, outcome, Except.toOption]
        have once := List.nodup_iff_count_le_one.mp (records.perm.nodup_iff.mp nodup_recordedPaths) path
        have kept : (readablePaths files root paths).count path = paths.count path :=
          List.count_filter contained
        omega
      | error cause =>
        -- A second occurrence would have a second reading finding.
        have once := (records.reported path listed cause outcome).2
        rw [countP_reading_at outcome] at once
        exact Nat.le_of_eq once
    · simp [List.count_eq_zero_of_not_mem listed]
  refine ⟨distinct, ?_⟩
  intro before path after split contained earlier listed symbol extracted named
  -- The path is recorded, although the symbol that bears it comes first.
  have readable : path ∈ readablePaths files root paths :=
    List.mem_filter.mpr ⟨split ▸ List.mem_append_right _ (List.mem_cons_self ..), contained⟩
  obtain ⟨file, found⟩ := mem_recordedPaths.mp (records.perm.mem_iff.mpr readable)
  obtain ⟨other, claimed⟩ :=
    node?_of_claimed split (not_mem_before distinct split) listed extracted named
  simp [found] at claimed

/-- Every audit that starts comes to an end, and it records its files exactly if no path is claimed: no path was
discovered twice, and no file that can be read has a path that a symbol of an earlier file bears. -/
theorem audit_records_files_iff_unclaimed (found : setup.discover files root = .ok paths) :
    ∃ audit warnings, setup.audit order files root = .ok (audit, warnings) ∧
      (setup.RecordsFiles files root paths audit ↔ setup.Unclaimed order files root paths) :=
  ⟨setup.auditOf order files root paths, _, audit_of_discover order found, RecordsFiles.unclaimed, Unclaimed.records⟩

/-! ### Scripts of imports -/

/-- A script of imports that declares nothing adds itself and those imports. -/
theorem examine_imports {path text : String} {scope : ImportScope} {content : ByteArray} {shapes : List Shape}
    (read : files.read (Location.join root path) = .ok content) (vocabulary : setup.vocabulary.isSome)
    (declaresNothing : setup.config.conventions.kindOf path = .utility ∨
      setup.config.conventions.kindOf path = .entryPoint)
    (plain : ParsedFile.isComponentPath path = false) (decoded : String.fromUTF8? content = some text)
    (imports : importShapes? text = some shapes) :
    setup.examine order files root scope path =
      { file := some (setup.fileNode path content)
        extraction :=
          .joined ((shapes.filterMap (SourceModule.importOf? scope path)).map (SourceModule.extractImport path))
        violations := (setup.policy.checkPlacement (setup.fileNode path content)).toList } := by
  -- The kind is one that is parsed, so that the imports are extracted.
  obtain ⟨words, vocabulary⟩ := Option.isSome_iff_exists.mp vocabulary
  rw [← fileNode_kind content] at declaresNothing
  have parseable : (setup.fileNode path content).kind.isParseable := by
    rcases declaresNothing with kind | kind <;> rw [kind] <;> rfl
  simp only [examine_ok read, examineContent, vocabulary, parseable, extract, decoded,
    extractFile_imports plain declaresNothing imports, if_true]

/-- A script that cannot be parsed adds itself and a finding behind that about its place. -/
theorem examine_unparseable {path text : String} {scope : ImportScope} {content : ByteArray} {failure : Unparseable}
    (read : files.read (Location.join root path) = .ok content) (vocabulary : setup.vocabulary.isSome)
    (parseable : (setup.config.conventions.kindOf path).isParseable)
    (decoded : String.fromUTF8? content = some text) (failed : ParsedFile.ofContent path text = .error failure) :
    setup.examine order files root scope path =
      { file := some (setup.fileNode path content)
        violations := (setup.policy.checkPlacement (setup.fileNode path content)).toList ++
          [setup.violationOf .parsing path (.unparseable path failure)]
        warnings := [.unanalyzed (.unparseable path failure)] } := by
  -- Since contents are analyzed and the kind is parsed, parsing is tried, and it fails.
  obtain ⟨words, vocabulary⟩ := Option.isSome_iff_exists.mp vocabulary
  rw [← fileNode_kind content] at parseable
  simp only [examine_ok read, examineContent, vocabulary, parseable, extract, decoded, extractFile, failed, if_true]

end

/-- A relative specifier that leads to a discovered path names the file there. -/
theorem resolve_of_mem {setup : Setup} {paths : List String} {importer specifier target : String}
    (relative : Text.isStartOf "." specifier)
    (leads : Path.normalize (if Path.directory importer = "" then specifier
      else Path.directory importer ++ "/" ++ specifier) = target) (listed : target ∈ paths) :
    (setup.scopeOf paths).resolve importer specifier = .file target := by
  -- A discovered path is known, so that nothing has to be completed.
  have known : (setup.scopeOf paths).known.contains target := by
    simpa [scopeOf, Std.HashSet.contains_ofList] using listed
  simp only [ImportScope.resolve, relative, if_true, leads, ImportScope.complete, known]

/-- The kinds of files are told by the usual names. -/
theorem kindOf_usual (path : String) : usual.config.conventions.kindOf path = ({} : Conventions).kindOf path := by
  rw [goesBy_usual.settings]

/-! ### The faulty application -/

/-- What a file of the faulty application adds. -/
def examineFaulty (order : BindingOrder) (path : String) : FileOutcome :=
  usual.examine order (application faultyEntries []) "app" (usual.scopeOf faultyPaths) path

/-- What a file adds to the findings and beside them, with each finding told by its kind and its file. -/
structure Adds (outcome : FileOutcome) (extraction : Extraction)
    (findings : List (ViolationKind × String)) : Prop where
  extraction : outcome.extraction = extraction
  findings : outcome.violations.map (fun found => (found.kind, found.file)) = findings

/-- Of the files that can be read, only the entry point is out of place. -/
theorem placements_faulty :
    usual.policy.checkPlacement (usual.fileNode "src/features/b.js" ")".toByteArray) = none ∧
      ((usual.policy.checkPlacement (usual.fileNode "src/pages/app/main.js" .empty)).toList.map
        fun found => (found.kind, found.file)) = [(.placement, "src/pages/app/main.js")] ∧
      usual.policy.checkPlacement (usual.fileNode "src/shared/a.js" "import \"../features/b.js\"".toByteArray) =
        none := by
  decide +kernel

/-- The script that is none adds a finding about parsing it. -/
theorem adds_unparseable (order : BindingOrder) :
    Adds (examineFaulty order "src/features/b.js") {} [(.parsing, "src/features/b.js")] := by
  have there : (FileEntry.directory faultyEntries).at? ["src", "features", "b.js"] =
      some (.file ")".toByteArray) := by
    simp [faultyEntries, Sorted.get?_cons]
  have read : (application faultyEntries []).read (Location.join "app" "src/features/b.js") = .ok ")".toByteArray :=
    read_application wellFormed_faultyEntries there rfl
  have utility : ({} : Conventions).kindOf "src/features/b.js" = .utility := rfl
  have invalid : (ParsedFile.ofContent "src/features/b.js" ")").toOption.isNone := by decide +kernel
  -- The parser refuses the text, whatever the failure says.
  cases failed : ParsedFile.ofContent "src/features/b.js" ")" with
  | ok parsed => simp [failed, Except.toOption] at invalid
  | error failure =>
    have parseable : (usual.config.conventions.kindOf "src/features/b.js").isParseable := by
      rw [kindOf_usual, utility]
      rfl
    rw [examineFaulty, examine_unparseable read vocabulary_usual parseable rfl failed,
      placements_faulty.1]
    exact ⟨rfl, rfl⟩

/-- The link that leads nowhere adds a finding about reading it. -/
theorem adds_unreadable (order : BindingOrder) :
    Adds (examineFaulty order "src/gone.js") {} [(.reading, "src/gone.js")] := by
  have joined : Location.join "app" "src/gone.js" = "app/src/gone.js" := rfl
  have relative : Text.isStartOf "/" "app/src/gone.js" = false ∧ Text.isStartOf "/" "nowhere.js" = false := ⟨rfl, rfl⟩
  have segments : Location.segments "app/src/gone.js" = ["app", "src", "gone.js"] ∧
      Location.segments "nowhere.js" = ["nowhere.js"] :=
    ⟨rfl, rfl⟩
  have short : "app".utf8ByteSize = 3 ∧ "src".utf8ByteSize = 3 ∧ "gone.js".utf8ByteSize = 7 ∧
      "nowhere.js".utf8ByteSize = 10 :=
    ⟨rfl, rfl, rfl, rfl⟩
  -- The link is followed to a name that is not there.
  have failed : (application faultyEntries []).read (Location.join "app" "src/gone.js") = .error .notFound := by
    rw [joined]
    simp [FileSystem.read, FileSystem.locate, relative, segments, FileSystem.follow, short, FileSystem.longestName,
      FileSystem.mostLinks, application, faultyEntries, Sorted.get?_cons]
  rw [examineFaulty, examine_error failed]
  exact ⟨rfl, rfl⟩

/-- The entry point that lies with the pages adds a finding about its place. -/
theorem adds_misplaced (order : BindingOrder) :
    Adds (examineFaulty order "src/pages/app/main.js") {} [(.placement, "src/pages/app/main.js")] := by
  have there : (FileEntry.directory faultyEntries).at? ["src", "pages", "app", "main.js"] = some (.file .empty) := by
    simp [faultyEntries, Sorted.get?_cons]
  have read : (application faultyEntries []).read (Location.join "app" "src/pages/app/main.js") = .ok .empty :=
    read_application wellFormed_faultyEntries there rfl
  have entry : usual.config.conventions.kindOf "src/pages/app/main.js" = .entryPoint := kindOf_usual _
  have plain : ParsedFile.isComponentPath "src/pages/app/main.js" = false := rfl
  -- The empty text is a script without statements.
  have imports : importShapes? "" = some [] := by decide +kernel
  rw [examineFaulty, examine_imports read vocabulary_usual (.inr entry) plain rfl imports]
  exact ⟨rfl, placements_faulty.2.1⟩

/-- The shared script adds its import, and nothing is found about the script itself. -/
theorem adds_climbing (order : BindingOrder) :
    Adds (examineFaulty order "src/shared/a.js")
      { edges := [⟨"src/shared/a.js", "src/features/b.js", .imports⟩] } [] := by
  have there : (FileEntry.directory faultyEntries).at? ["src", "shared", "a.js"] =
      some (.file "import \"../features/b.js\"".toByteArray) := by
    simp [faultyEntries, Sorted.get?_cons]
  have read : (application faultyEntries []).read (Location.join "app" "src/shared/a.js") =
      .ok "import \"../features/b.js\"".toByteArray :=
    read_application wellFormed_faultyEntries there rfl
  have decoded : String.fromUTF8? "import \"../features/b.js\"".toByteArray = some "import \"../features/b.js\"" := by
    rfl
  have utility : usual.config.conventions.kindOf "src/shared/a.js" = .utility := kindOf_usual _
  have plain : ParsedFile.isComponentPath "src/shared/a.js" = false := rfl
  have imports : importShapes? "import \"../features/b.js\"" = some [.staticImport "../features/b.js" none []] := by
    decide +kernel
  -- The specifier climbs out of the directory and leads to a discovered path.
  have resolved : (usual.scopeOf faultyPaths).resolve "src/shared/a.js" "../features/b.js" =
      .file "src/features/b.js" :=
    resolve_of_mem rfl rfl (by decide)
  rw [examineFaulty, examine_imports read vocabulary_usual (.inl utility) plain decoded imports,
    placements_faulty.2.2]
  constructor
  · simp only [List.filterMap_cons, List.filterMap_nil, SourceModule.importOf?, resolved]
    rfl
  · rfl

/-- In the faulty application nothing bears the path of a file, so that the files are recorded and the link is
reported. -/
theorem audit_records_files_iff_unclaimed_faulty :
    usual.discover (application faultyEntries []) "app" = .ok faultyPaths ∧
      usual.Unclaimed .sorted (application faultyEntries []) "app" faultyPaths ∧
      ∃ audit warnings, usual.audit .sorted (application faultyEntries []) "app" = .ok (audit, warnings) ∧
        usual.RecordsFiles (application faultyEntries []) "app" faultyPaths audit := by
  -- None of the four files that add something has symbols.
  have symbolless : ∀ path ∈ faultyPaths, (examineFaulty .sorted path).extraction.symbols = [] := by
    simp [faultyPaths, (adds_unparseable .sorted).extraction, (adds_unreadable .sorted).extraction,
      (adds_misplaced .sorted).extraction, (adds_climbing .sorted).extraction]
  have unclaimed : usual.Unclaimed .sorted (application faultyEntries []) "app" faultyPaths := by
    refine ⟨by decide, fun before path after split _ earlier listed symbol extracted => ?_⟩
    have none := symbolless earlier (split ▸ List.mem_append_left _ listed)
    rw [examineFaulty] at none
    simp [none] at extracted
  -- The theorem gives the audit with both sides of the equivalence.
  have recorded : ∃ audit warnings, usual.audit .sorted (application faultyEntries []) "app" = .ok (audit, warnings) ∧
      (usual.RecordsFiles (application faultyEntries []) "app" faultyPaths audit ↔
        usual.Unclaimed .sorted (application faultyEntries []) "app" faultyPaths) :=
    audit_records_files_iff_unclaimed discover_faulty
  obtain ⟨audit, warnings, done, records⟩ := recorded
  exact ⟨discover_faulty, unclaimed, audit, warnings, done, records.mpr unclaimed⟩

/-! ### A path that is claimed -/

/-- A script that imports a package with the path of the other one. -/
def claiming : ByteArray := "import \"src/b.js\"".toByteArray

/-- The script adds a symbol for the package, and the edge to it. -/
theorem claiming_extraction :
    ∃ symbol, symbol.id = "src/b.js" ∧
      (usual.examine .sorted (twoScripts claiming .empty) "app" (usual.scopeOf ["src/a.js", "src/b.js"])
        "src/a.js").extraction = { symbols := [symbol], edges := [⟨"src/a.js", "src/b.js", .importsPackage⟩] } := by
  have kind : usual.config.conventions.kindOf "src/a.js" = .utility := kindOf_usual _
  have plain : ParsedFile.isComponentPath "src/a.js" = false := rfl
  have decoded : String.fromUTF8? claiming = some "import \"src/b.js\"" := rfl
  have imports : importShapes? "import \"src/b.js\"" = some [.staticImport "src/b.js" none []] := by decide +kernel
  have resolved : (usual.scopeOf ["src/a.js", "src/b.js"]).resolve "src/a.js" "src/b.js" = .package "src/b.js" := by
    rw [scopeOf, goesBy_usual.settings]
    decide +kernel
  rw [examine_imports (read_twoScripts claiming .empty).1 vocabulary_usual (.inl kind) plain decoded imports]
  simp only [List.filterMap_cons, List.filterMap_nil, SourceModule.importOf?, resolved]
  exact ⟨_, rfl, rfl⟩

/-- The second script is discovered and can be read, but the graph has no file at its path. -/
theorem audit_loses_claimed_file :
    usual.discover (twoScripts claiming .empty) "app" = .ok ["src/a.js", "src/b.js"] ∧
      (twoScripts claiming .empty).read (Location.join "app" "src/b.js") = .ok .empty ∧
      ∃ audit warnings, usual.audit .sorted (twoScripts claiming .empty) "app" = .ok (audit, warnings) ∧
        audit.graph.nodes.filter (·.isFileAt "src/b.js") = [] := by
  have found := discover_twoScripts claiming .empty
  refine ⟨found, (read_twoScripts claiming .empty).2, _, _, audit_of_discover .sorted found, ?_⟩
  have split : ["src/a.js", "src/b.js"] = ["src/a.js"] ++ "src/b.js" :: [] := rfl
  obtain ⟨symbol, named, extracted⟩ := claiming_extraction
  have offered : symbol ∈ (usual.examine .sorted (twoScripts claiming .empty) "app"
      (usual.scopeOf ["src/a.js", "src/b.js"]) "src/a.js").extraction.symbols := by
    simp [extracted]
  -- The first script offers the path before the second one does.
  obtain ⟨other, known⟩ := node?_of_claimed split (by decide) (List.mem_singleton.mpr rfl) offered named
  change (usual.auditOf .sorted (twoScripts claiming .empty) "app" ["src/a.js", "src/b.js"]).graph.nodes.filter _ = []
  -- What is known under the path is a symbol, which is no file.
  rw [filter_isFileAt, show (usual.auditOf .sorted (twoScripts claiming .empty) "app" _).graph.node? "src/b.js" = _
    from known]
  rfl

end Setup

end LayerAudit
