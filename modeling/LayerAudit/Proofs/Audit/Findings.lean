import LayerAudit.Proofs.Audit.Ends
import LayerAudit.Proofs.Audit.Files
import LayerAudit.Proofs.Audit.Setup
import LayerAudit.Proofs.Extraction.Imports
import LayerAudit.Proofs.Policy.Findings
import LayerAudit.Proofs.Policy.RankClosed

/-!
The findings of an audit: first those about its files, one file after the other, then those about its edges, one edge
after the other.
-/

namespace LayerAudit

/-- The findings about one file: one about reading it alone, or at most one about its place and then at most one about
parsing it. -/
inductive FileFindings (config : Config) (path : String) : List Violation → Prop
  | unread {reading : Violation} : reading.Is config.rules .reading path → FileFindings config path [reading]
  | read {placement parsing : Option Violation} :
      (∀ violation ∈ placement, violation.Is config.rules .placement path) →
      (∀ violation ∈ parsing, violation.Is config.rules .parsing path ∧
        (config.conventions.kindOf path).isParseable) →
      FileFindings config path (placement.toList ++ parsing.toList)

namespace Setup

/-- The order in which an audit lists its findings, and what each of them says. -/
structure FindingsInOrder (config : Config) (paths : List String) (audit : Audit) : Prop where
  /-- Files come in the order of their paths, and edges in the order of the graph. -/
  order : ∃ ofFiles ofEdges : List (List Violation), audit.violations = ofFiles.flatten ++ ofEdges.flatten ∧
    List.Forall₂ (FileFindings config) paths ofFiles ∧
    List.Forall₂ (fun edge findings => ∀ violation ∈ findings, violation.IsAbout config.rules edge)
      audit.graph.edges ofEdges
  file : ∀ violation ∈ audit.violations, violation.file ∈ paths
  severity : ∀ violation ∈ audit.violations, violation.severity =
    (Sorted.get? violation.kind.key config.rules.severities).getD violation.kind.usualSeverity

section

variable [Glob.Syntax] {setup : Setup} {config : Config} {order : BindingOrder} {files : FileSystem}
  {root path : String} {scope : ImportScope}

/-! ### The findings about a file -/

/-- The finding about an error of a file is about that file. -/
theorem violationOf_is (goes : setup.GoesBy config) (what : ViolationKind) (error : FileError) :
    (setup.violationOf what path error).Is config.rules what path :=
  ⟨rfl, rfl, by rw [← goes.settings]; rfl⟩

variable [Script.Syntax]

/-- A file with some content has at most one finding about its place, followed by at most one about parsing it. -/
theorem examineContent_findings (goes : setup.GoesBy config) (content : ByteArray) :
    FileFindings config path (setup.examineContent order scope path content).violations := by
  -- The finding about its place names the file, and is graded by the rules of the configuration.
  have placed : ∀ violation ∈ setup.policy.checkPlacement (setup.fileNode path content),
      violation.Is config.rules .placement path := by
    intro violation found
    have shown := Policy.is_of_checkPlacement found
    rwa [goes.rules, fileNode_path] at shown
  -- Without a finding about parsing the list is that of the place alone.
  have placement : FileFindings config path (setup.policy.checkPlacement (setup.fileNode path content)).toList := by
    have unparsed : ∀ violation ∈ (none : Option Violation),
        violation.Is config.rules .parsing path ∧ (config.conventions.kindOf path).isParseable :=
      fun violation member => absurd member (Option.not_mem_none violation)
    have alone := FileFindings.read placed unparsed
    rwa [Option.toList_none, List.append_nil] at alone
  rcases setup.examineContent_cases order scope path content with
    ⟨_, same⟩ | ⟨words, _, parseable, ⟨_, _, same⟩ | ⟨error, _, same⟩⟩ <;> rw [same]
  · exact placement
  · exact placement
  · -- Only a file of a kind that is parsed can fail at it.
    have parsed : ∀ violation ∈ some (setup.violationOf .parsing path error),
        violation.Is config.rules .parsing path ∧ (config.conventions.kindOf path).isParseable := by
      intro violation found
      obtain rfl := Option.some.inj found
      exact ⟨violationOf_is goes .parsing error, goes.settings ▸ parseable⟩
    have both := FileFindings.read placed parsed
    rwa [Option.toList_some] at both

/-- A file has findings as files have them. -/
theorem examine_findings (goes : setup.GoesBy config) :
    FileFindings config path (setup.examine order files root scope path).violations := by
  cases outcome : files.read (Location.join root path) with
  | error cause =>
    -- A file that cannot be read is not even placed.
    rw [examine_error outcome]
    exact .unread (violationOf_is goes .reading _)
  | ok content =>
    rw [examine_ok outcome]
    exact examineContent_findings goes content

end

end Setup

/-- A finding about a file names it, and has the grade of its kind. -/
theorem FileFindings.is {config : Config} {path : String} {findings : List Violation} {violation : Violation}
    (shape : FileFindings config path findings) (member : violation ∈ findings) :
    violation.Is config.rules violation.kind path := by
  -- The kind is read off the finding itself.
  have own {what : ViolationKind} (is : violation.Is config.rules what path) :
      violation.Is config.rules violation.kind path := is.kind ▸ is
  cases shape with
  -- Either the file was not read, and that is all, or the finding is about its place or about parsing it.
  | unread reading =>
    cases List.mem_singleton.mp member
    exact own reading
  | read placed parsed =>
    rcases List.mem_append.mp member with first | second
    · exact own (placed violation (Option.mem_toList.mp first))
    · exact own (parsed violation (Option.mem_toList.mp second)).1

/-- A finding about a file is not about its dependencies. -/
theorem FileFindings.kind_ne {config : Config} {path : String} {findings : List Violation} {violation : Violation}
    (shape : FileFindings config path findings) (member : violation ∈ findings) : violation.kind ≠ .dependency := by
  -- None of the three kinds is that of dependencies.
  cases shape with
  | unread reading =>
    cases List.mem_singleton.mp member
    simp [reading.kind]
  | read placed parsed =>
    rcases List.mem_append.mp member with first | second
    · simp [(placed violation (Option.mem_toList.mp first)).kind]
    · simp [(parsed violation (Option.mem_toList.mp second)).1.kind]

namespace Setup

/-! ### The findings of an audit -/

section

variable [Script.Syntax] {setup : Setup} {config : Config} {order : BindingOrder} {files : FileSystem} {root : String}
  {paths : List String}

/-- An import in the graph begins at one of the audited files. -/
theorem source_of_imports {edge : Edge} (member : edge ∈ (setup.auditOf order files root paths).graph.edges)
    (isImport : edge.relation.isImport) : edge.source ∈ paths := by
  -- Every edge was added by some file, and imports begin at the file that adds them.
  rw [edges_auditOf] at member
  obtain ⟨path, listed, found⟩ := List.mem_flatMap.mp member
  rcases setup.examine_extraction order files root (setup.scopeOf paths) path with
    nothing | ⟨_, words, kind, file, rfl, same⟩
  · simp [nothing] at found
  · rw [same] at found
    rw [SourceModule.source_of_isImport found isImport]
    exact listed

variable [Glob.Syntax]

/-- The findings of an audit of some paths stand in order. -/
theorem findingsInOrder_auditOf (goes : setup.GoesBy config) :
    FindingsInOrder config paths (setup.auditOf order files root paths) := by
  -- The list of findings is put together per file and per edge, so its shape is that of the parts.
  have aboutEdge (edge : Edge) : ∀ violation ∈ setup.policy.checkDependency edge,
      violation.IsAbout config.rules edge := by
    intro violation found
    exact goes.rules ▸ Policy.isAbout_of_mem_checkDependency found
  have is : ∀ violation ∈ (setup.auditOf order files root paths).violations, violation.file ∈ paths ∧
      violation.severity = config.rules.severityOf violation.kind := by
    intro violation member
    rw [violations_auditOf] at member
    rcases List.mem_append.mp member with ofFile | ofEdge
    · obtain ⟨_, listed, found⟩ := List.mem_flatten.mp ofFile
      obtain ⟨path, discovered, rfl⟩ := List.mem_map.mp listed
      have shown := (examine_findings goes).is found
      exact ⟨shown.file ▸ discovered, shown.severity⟩
    · -- A finding about an edge is about the file at its source, and imports begin at the audited files.
      obtain ⟨_, listed, found⟩ := List.mem_flatten.mp ofEdge
      obtain ⟨edge, known, rfl⟩ := List.mem_map.mp listed
      have about := aboutEdge edge violation found
      have inside : edge.source ∈ paths := source_of_imports known (by rw [about.imports]; rfl)
      exact ⟨about.is.file ▸ inside, by rw [about.is.kind, about.is.severity]⟩
  constructor
  · -- Both halves have one list of findings for each path and for each edge.
    refine ⟨_, _, violations_auditOf, ?_, ?_⟩
    · exact List.forall₂_map_right_iff.mpr (List.forall₂_same.mpr fun path _ => examine_findings goes)
    · exact List.forall₂_map_right_iff.mpr (List.forall₂_same.mpr fun edge _ => aboutEdge edge)
  · exact fun violation member => (is violation member).1
  · exact fun violation member => (is violation member).2

variable [Pattern.Syntax]

/-- Every audit that starts comes to an end, and its findings stand in order: for each path a finding about reading the
file alone, or at most one about its place and then at most one about parsing it; then, for each edge, findings about
dependencies that carry the edge, which is an import. All are about discovered files and have the grade of their kind. -/
theorem audit_findings_in_order {vocabulary : Option Vocabulary} (made : ofConfig vocabulary config = .ok setup)
    (found : setup.discover files root = .ok paths) :
    ∃ audit warnings, setup.audit order files root = .ok (audit, warnings) ∧ FindingsInOrder config paths audit :=
  ⟨setup.auditOf order files root paths, _, audit_of_discover order found,
    findingsInOrder_auditOf (goesBy_of_ofConfig made)⟩

end

/-- The import of the faulty application, from its shared script to a feature. -/
def climb : Edge := ⟨"src/shared/a.js", "src/features/b.js", .imports⟩

/-- By the usual settings the import is checked. -/
theorem checks_climb : ({} : Config).Checks climb ⟨"shared", 0, "src/shared/"⟩ ⟨"features", 2, "src/features/"⟩ := by
  -- The usual layers are sorted already.
  have sorted : Layering.ofSpecs ({} : Config).layers = ⟨({} : Config).layers⟩ :=
    Layering.ofSpecs_of_sorted (by decide) (by decide)
  refine ⟨rfl, ⟨"js", by decide, "src/features/b", rfl, by decide⟩, ?_, ?_⟩
  · rw [sorted]
    rfl
  · rw [sorted]
    rfl

/-- The import climbs and strays, and both are told of the script that it begins at. -/
theorem checkDependency_climb : (usual.policy.checkDependency climb).map (fun found => (found.kind, found.file)) =
    [(.dependency, "src/shared/a.js"), (.dependency, "src/shared/a.js")] := by
  have goes := goesBy_usual
  have follows : usual.policy.Follows {} := ⟨goes.layering, goes.allowed, goes.sourceExtensions, goes.rules⟩
  -- The usual layers are closed, so that what is found about the import can be computed.
  obtain ⟨listed, found⟩ := Policy.findings_of_rankClosed follows Policy.isRankClosed_usual checks_climb
  rw [Policy.checkDependency_of_checked follows checks_climb (by rw [follows.rules]), found, if_pos (by decide)]
  rfl

/-- In the faulty application there is something of each kind to find: a script that is none, a link that leads nowhere,
an entry point out of place, and an import that both climbs and strays. -/
theorem audit_findings_in_order_faulty :
    ofConfig (readVocabulary {}).toOption {} = .ok usual ∧
      usual.discover (application faultyEntries []) "app" = .ok faultyPaths ∧
      ∃ audit warnings, usual.audit .sorted (application faultyEntries []) "app" = .ok (audit, warnings) ∧
        audit.violations.map (fun found => (found.kind, found.file)) =
          [(.parsing, "src/features/b.js"), (.reading, "src/gone.js"), (.placement, "src/pages/app/main.js"),
            (.dependency, "src/shared/a.js"), (.dependency, "src/shared/a.js")] ∧
        FindingsInOrder {} faultyPaths audit := by
  have found : ∃ audit warnings, usual.audit .sorted (application faultyEntries []) "app" = .ok (audit, warnings) ∧
      FindingsInOrder {} faultyPaths audit :=
    audit_findings_in_order ofConfig_usual discover_faulty
  -- The audit is the one of the discovered paths.
  obtain ⟨audit, warnings, done, inOrder⟩ := found
  have same : usual.auditOf .sorted (application faultyEntries []) "app" faultyPaths = audit :=
    congrArg Prod.fst (Except.ok.inj ((audit_of_discover .sorted discover_faulty).symm.trans done))
  refine ⟨ofConfig_usual, discover_faulty, audit, warnings, done, ?_, inOrder⟩
  -- Each file adds what was shown of it.
  subst same
  have unparseable := adds_unparseable .sorted
  have unreadable := adds_unreadable .sorted
  have misplaced := adds_misplaced .sorted
  have climbing := adds_climbing .sorted
  -- The only edge of the audit is the import of the last file.
  have edges : (usual.auditOf .sorted (application faultyEntries []) "app" faultyPaths).graph.edges = [climb] := by
    rw [edges_auditOf]
    change faultyPaths.flatMap (fun path => (examineFaulty .sorted path).extraction.edges) = [climb]
    simp [faultyPaths, unparseable.extraction, unreadable.extraction, misplaced.extraction, climbing.extraction, climb]
  rw [violations_auditOf, edges]
  change ((faultyPaths.map fun path => (examineFaulty .sorted path).violations).flatten ++
    ([climb].map usual.policy.checkDependency).flatten).map _ = _
  simp [faultyPaths, unparseable.findings, unreadable.findings, misplaced.findings, climbing.findings,
    checkDependency_climb]

end Setup

end LayerAudit
