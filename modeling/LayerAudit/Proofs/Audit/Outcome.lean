import LayerAudit.Audit.Outcome
import LayerAudit.Proofs.Policy.Findings

/-! A file that can be read adds its own node and no reading finding; one that cannot adds a reading finding alone. -/

namespace LayerAudit.Setup

variable {setup : Setup} {order : BindingOrder} {files : FileSystem} {root path : String} {scope : ImportScope}

/-- The content of the file at a path below a source root. -/
def contentOf? (files : FileSystem) (root path : String) : Option ByteArray :=
  (files.read (Location.join root path)).toOption

/-- The node of the file at a path, if the file can be read. -/
def fileNode? (setup : Setup) (files : FileSystem) (root path : String) : Option FileNode :=
  (contentOf? files root path).map (setup.fileNode path)

/-- The finding about the file at a path, if the file cannot be read. -/
def unread? (setup : Setup) (files : FileSystem) (root path : String) : Option Violation :=
  match files.read (Location.join root path) with
  | .ok _ => none
  | .error cause => some (setup.violationOf .reading path (.unreadable (Location.join root path) cause))

/-- A file knows its path. -/
theorem fileNode_path (content : ByteArray) : (setup.fileNode path content).path = path := by
  rw [fileNode]

/-- The kind of a file is told by its path. -/
theorem fileNode_kind (content : ByteArray) :
    (setup.fileNode path content).kind = setup.config.conventions.kindOf path := by
  rw [fileNode]

/-- The node of a file has the file's path as its id. -/
theorem fileNode?_id {node : FileNode} (found : setup.fileNode? files root path = some node) : node.id = path := by
  obtain ⟨content, _, built⟩ := Option.map_eq_some_iff.mp found
  rw [← built]
  rfl

/-- A reading finding names its file. -/
theorem unread?_file {violation : Violation} (found : setup.unread? files root path = some violation) :
    violation.file = path := by
  -- Only a failure to read gives this finding.
  unfold unread? at found
  split at found
  · cases found
  · cases found
    rfl

/-- A file has a reading finding exactly if it has no node. -/
theorem unread?_isSome : (setup.unread? files root path).isSome = (setup.fileNode? files root path).isNone := by
  unfold unread? fileNode? contentOf?
  cases files.read (Location.join root path) <;> rfl

variable [Script.Syntax]

/-- A file that cannot be read adds a finding, a warning and nothing else. -/
theorem examine_error {cause : FileFailure} (failed : files.read (Location.join root path) = .error cause) :
    setup.examine order files root scope path =
      { violations := [setup.violationOf .reading path (.unreadable (Location.join root path) cause)]
        warnings := [.unread (.unreadable (Location.join root path) cause)] } := by
  simp only [examine, failed]

/-- A file that can be read adds what its content adds. -/
theorem examine_ok {content : ByteArray} (read : files.read (Location.join root path) = .ok content) :
    setup.examine order files root scope path = setup.examineContent order scope path content := by
  simp only [examine, read]

/-- A file with some content adds itself and what there is to find about its place. If contents are analyzed and the
file is of a kind that is parsed, then what is extracted from it comes with that, or else what is wrong with it. -/
theorem examineContent_cases (setup : Setup) (order : BindingOrder) (scope : ImportScope) (path : String)
    (content : ByteArray) :
    (setup.vocabulary = none ∨ ¬(setup.config.conventions.kindOf path).isParseable) ∧
        setup.examineContent order scope path content =
          { file := some (setup.fileNode path content)
            violations := (setup.policy.checkPlacement (setup.fileNode path content)).toList } ∨
      ∃ words, setup.vocabulary = some words ∧ (setup.config.conventions.kindOf path).isParseable ∧
        ((∃ extraction,
            extract order words scope path (setup.config.conventions.kindOf path) content = .ok extraction ∧
            setup.examineContent order scope path content =
              { file := some (setup.fileNode path content)
                extraction
                violations := (setup.policy.checkPlacement (setup.fileNode path content)).toList }) ∨
          ∃ error,
            extract order words scope path (setup.config.conventions.kindOf path) content = .error error ∧
            setup.examineContent order scope path content =
              { file := some (setup.fileNode path content)
                violations := (setup.policy.checkPlacement (setup.fileNode path content)).toList ++
                  [setup.violationOf .parsing path error]
                warnings := [.unanalyzed error] }) := by
  -- The conditions are those of the program, in its order.
  rw [← fileNode_kind content]
  unfold examineContent
  cases setup.vocabulary with
  | none => exact Or.inl ⟨Or.inl rfl, rfl⟩
  | some words =>
    -- Whether the kind is parsed is asked before anything is extracted.
    by_cases parseable : (setup.fileNode path content).kind.isParseable
    · cases outcome : extract order words scope path (setup.fileNode path content).kind content with
      | ok extraction =>
        exact Or.inr ⟨words, rfl, parseable, Or.inl ⟨extraction, outcome, by simp only [parseable, outcome, if_true]⟩⟩
      | error error =>
        exact Or.inr ⟨words, rfl, parseable, Or.inr ⟨error, outcome, by simp only [parseable, outcome, if_true]⟩⟩
    · exact Or.inl ⟨Or.inr parseable, by simp only [parseable]; rfl⟩

/-- A file with some content adds its own node. -/
theorem examineContent_file (content : ByteArray) :
    (setup.examineContent order scope path content).file = some (setup.fileNode path content) := by
  rcases setup.examineContent_cases order scope path content with
    ⟨_, same⟩ | ⟨_, _, _, ⟨_, _, same⟩ | ⟨_, _, same⟩⟩ <;> rw [same]

/-- A file with some content gives no reading finding. -/
theorem examineContent_violations {content : ByteArray} {violation : Violation}
    (found : violation ∈ (setup.examineContent order scope path content).violations) : violation.kind ≠ .reading := by
  -- The only findings are about the place of the file and about parsing it.
  have misplaced : violation ∈ (setup.policy.checkPlacement (setup.fileNode path content)).toList →
      violation.kind ≠ .reading := by
    intro member
    simp [(Policy.is_of_checkPlacement (Option.mem_toList.mp member)).kind]
  -- In each of the three cases the findings are known.
  rcases setup.examineContent_cases order scope path content with
    ⟨_, same⟩ | ⟨_, _, _, ⟨_, _, same⟩ | ⟨error, _, same⟩⟩ <;> rw [same] at found
  · exact misplaced found
  · exact misplaced found
  · rcases List.mem_append.mp found with placement | parsing
    · exact misplaced placement
    · cases List.mem_singleton.mp parsing
      simp [violationOf]

/-- A file adds its node exactly if it can be read. -/
theorem examine_file : (setup.examine order files root scope path).file = setup.fileNode? files root path := by
  cases outcome : files.read (Location.join root path) with
  | error cause => simp [examine_error outcome, fileNode?, contentOf?, outcome, Except.toOption]
  | ok content =>
    rw [examine_ok outcome, examineContent_file]
    simp [fileNode?, contentOf?, outcome, Except.toOption]

/-- The reading findings about a file are one if it cannot be read, and none otherwise. -/
theorem examine_reading :
    (setup.examine order files root scope path).violations.filter (·.kind = .reading) =
      (setup.unread? files root path).toList := by
  cases outcome : files.read (Location.join root path) with
  | error cause => simp [examine_error outcome, unread?, outcome, violationOf]
  | ok content =>
    -- A file that was read has findings of other kinds alone.
    rw [examine_ok outcome]
    simp only [unread?, outcome, Option.toList_none]
    refine List.filter_eq_nil_iff.mpr fun violation member => ?_
    simpa using examineContent_violations member

end LayerAudit.Setup
