import LayerAudit.Proofs.Audit.Files
import LayerAudit.Proofs.Extraction.Ends

/-! The edges of an audit begin at known nodes, and all but those to what lies outside of a file end at known nodes. -/

namespace LayerAudit

/-- A node with the id is known. -/
def Graph.Knows (graph : Graph) (id : String) : Prop := ∃ node ∈ graph.nodes, node.id = id

/-- What holds of the ends of an edge in the graph of an audit. -/
structure Graph.EndsKnown (graph : Graph) (edge : Edge) : Prop where
  source : graph.Knows edge.source
  /-- The target is known, unless the relation leads out of the file. -/
  target : edge.relation ∈ [.importsPackage, .defines, .definesProp, .definesEvent, .definesRoute, .readsState,
    .modifiesState, .calls] → graph.Knows edge.target
  dangling : ¬graph.Knows edge.target →
    edge.relation ∈ [Relation.imports, Relation.usesComponent, Relation.usesStoreFile, Relation.rendersComponent]
  /-- The file imports what it uses. -/
  used : edge.relation ∈ [Relation.usesComponent, Relation.usesStoreFile] →
    ∃ other ∈ graph.edges, other.source = edge.source ∧ other.target = edge.target ∧
      other.relation ∈ [Relation.imports, Relation.importsPackage]

namespace Setup

section

variable [Script.Syntax] {setup : Setup} {order : BindingOrder} {files : FileSystem} {root path : String}
  {scope : ImportScope} {paths : List String}

/-- What is extracted from some bytes is extracted from the module in them. -/
theorem extract_module {words : Vocabulary} {kind : FileKind} {content : ByteArray} {extraction : Extraction}
    (extracted : extract order words scope path kind content = .ok extraction) :
    ∃ file : SourceModule, file.path = path ∧ extraction = SourceModule.extract order words kind file := by
  unfold extract at extracted
  -- Each stage has to succeed for there to be an extraction, and the last one gives a module.
  cases decoded : String.fromUTF8? content with
  | none => simp [decoded] at extracted
  | some text =>
    simp only [decoded, extractFile] at extracted
    cases parsed : ParsedFile.ofContent path text with
    | error failure => simp [parsed] at extracted
    | ok result =>
      simp only [parsed, Except.ok.injEq] at extracted
      exact ⟨⟨path, result.tree, scope⟩, rfl, extracted.symm⟩

/-- A file with some content adds the extraction from a module in it, or none. -/
theorem examineContent_extraction (setup : Setup) (order : BindingOrder) (scope : ImportScope) (path : String)
    (content : ByteArray) :
    (setup.examineContent order scope path content).extraction = {} ∨ ∃ words kind file, file.path = path ∧
      (setup.examineContent order scope path content).extraction = SourceModule.extract order words kind file := by
  rcases setup.examineContent_cases order scope path content with
    ⟨_, same⟩ | ⟨words, _, _, ⟨extraction, extracted, same⟩ | ⟨_, _, same⟩⟩ <;> rw [same]
  · -- Without a vocabulary, or for a kind that is not parsed, nothing is extracted.
    exact Or.inl rfl
  · obtain ⟨file, named, ofFile⟩ := extract_module extracted
    exact Or.inr ⟨words, _, file, named, ofFile⟩
  · exact Or.inl rfl

/-- A file adds the extraction from a module in it, or none; it adds none if it cannot be read. -/
theorem examine_extraction (setup : Setup) (order : BindingOrder) (files : FileSystem) (root : String)
    (scope : ImportScope) (path : String) :
    (setup.examine order files root scope path).extraction = {} ∨
      (setup.fileNode? files root path).isSome ∧ ∃ words kind file, file.path = path ∧
        (setup.examine order files root scope path).extraction = SourceModule.extract order words kind file := by
  cases outcome : files.read (Location.join root path) with
  | error cause =>
    -- There is nothing to extract from.
    exact Or.inl (by rw [examine_error outcome])
  | ok content =>
    rw [examine_ok outcome]
    refine (examineContent_extraction setup order scope path content).imp_right fun extracted => ⟨?_, extracted⟩
    simp [fileNode?, contentOf?, outcome, Except.toOption]

/-- An id is known if one of the files offers a node with it. -/
theorem knows_auditOf {node : Node} (listed : path ∈ paths)
    (offered : node ∈ setup.offersAt order files root paths path) :
    (setup.auditOf order files root paths).graph.Knows node.id := by
  -- The node itself may have come too late, but then another one has its id.
  have found : ((paths.flatMap (setup.offersAt order files root paths)).find? (·.id == node.id)).isSome :=
    List.find?_isSome.mpr ⟨node, List.mem_flatMap.mpr ⟨path, listed, offered⟩, beq_self_eq_true _⟩
  rw [← node?_auditOf] at found
  -- A graph that knows a node under the id stores it under that id.
  obtain ⟨known, found⟩ := Option.isSome_iff_exists.mp found
  have named := valid_auditOf.node?_id found
  exact ⟨known, valid_auditOf.mem_nodes.mpr (named.symm ▸ found), named⟩

/-- The ends of all edges of an audit are known as far as their relations ask for it. -/
theorem endsKnown_auditOf {edge : Edge} (member : edge ∈ (setup.auditOf order files root paths).graph.edges) :
    (setup.auditOf order files root paths).graph.EndsKnown edge := by
  rw [edges_auditOf] at member
  obtain ⟨path, listed, found⟩ := List.mem_flatMap.mp member
  -- The edge was extracted from one of the files, which was read.
  rcases setup.examine_extraction order files root (setup.scopeOf paths) path with
    nothing | ⟨readable, words, kind, file, rfl, extracted⟩
  · simp [nothing] at found
  · rw [extracted] at found
    -- The file and all of its symbols are offered, so whatever anchors an edge is known.
    have anchored := SourceModule.extract_anchored order kind edge found
    have ownKnown : (setup.auditOf order files root paths).graph.Knows file.path := by
      obtain ⟨own, read⟩ := Option.isSome_iff_exists.mp readable
      have known : (setup.auditOf order files root paths).graph.Knows (Node.file own).id :=
        knows_auditOf listed (mem_offersAt.mpr (Or.inl ⟨own, read, rfl⟩))
      rwa [show (Node.file own).id = file.path from fileNode?_id read] at known
    have symbolKnown (id : String)
        (extractedId : id ∈ (SourceModule.extract order words kind file).symbols.map (·.id)) :
        (setup.auditOf order files root paths).graph.Knows id := by
      obtain ⟨symbol, offered, rfl⟩ := List.mem_map.mp extractedId
      exact knows_auditOf listed (mem_offersAt.mpr (Or.inr ⟨symbol, extracted ▸ offered, rfl⟩))
    have targetKnown (inside : edge.relation.mayDangle = false) :
        (setup.auditOf order files root paths).graph.Knows edge.target := symbolKnown _ (anchored.target inside)
    -- Source, target, dangling targets and uses, in the order of the fields.
    constructor
    · rcases anchored.source with own | symbol
      · exact own ▸ ownKnown
      · exact symbolKnown _ symbol
    · intro inside
      refine targetKnown ?_
      cases shape : edge.relation <;> simp [shape] at inside <;> rfl
    · intro unknown
      -- Only a relation that leads out of the file can have an unknown target.
      by_contra other
      refine unknown (targetKnown ?_)
      cases shape : edge.relation <;> simp [shape] at other <;> rfl
    · intro use
      -- The import that a use needs comes from the same file.
      have uses : edge.relation.isUse := by
        cases shape : edge.relation <;> simp [shape] at use <;> rfl
      obtain ⟨other, emitted, ends⟩ := SourceModule.extract_used found uses
      refine ⟨other, ?_, ends⟩
      rw [edges_auditOf]
      exact List.mem_flatMap.mpr ⟨_, listed, extracted ▸ emitted⟩

/-- In the graph of a finished audit every edge begins at a known node, every edge of the relations that stay inside
of a file ends at one, and what a file uses is the target of one of its imports. -/
theorem audit_ends_known {audit : Audit} {warnings : List Warning}
    (done : setup.audit order files root = .ok (audit, warnings)) :
    ∀ edge ∈ audit.graph.edges, audit.graph.EndsKnown edge := by
  obtain ⟨paths, _, result⟩ := discover_of_audit done
  intro edge member
  have same : audit = setup.auditOf order files root paths := congrArg Prod.fst result
  subst same
  exact endsKnown_auditOf member

end

/-- The edge to the package that one of two scripts imports is a case of this. -/
theorem audit_ends_known_twoScripts :
    ∃ audit warnings, usual.audit .sorted (twoScripts claiming .empty) "app" = .ok (audit, warnings) ∧
      ⟨"src/a.js", "src/b.js", .importsPackage⟩ ∈ audit.graph.edges ∧
        ∀ edge ∈ audit.graph.edges, audit.graph.EndsKnown edge := by
  have done := audit_of_discover .sorted (discover_twoScripts claiming .empty)
  refine ⟨_, _, done, ?_, audit_ends_known done⟩
  change _ ∈ (usual.auditOf .sorted (twoScripts claiming .empty) "app" ["src/a.js", "src/b.js"]).graph.edges
  -- The first script has the edge to its package.
  obtain ⟨symbol, _, extracted⟩ := claiming_extraction
  rw [edges_auditOf]
  exact List.mem_flatMap.mpr ⟨"src/a.js", by simp, by simp [extracted]⟩

end Setup

end LayerAudit
