import LayerAudit.Proofs.Report.Reader
import LayerAudit.Report.Decode
import LayerAudit.Report.Document

/-!
What a document holds of an audit is read back from its text: every node, edge and finding, in their order and with all
their texts, whatever characters these hold. A text that is missing is told from one that is empty.
-/

namespace LayerAudit

/-! ### Vocabularies -/

/-- The name of a kind of file is read back. -/
theorem FileKind.ofName?_name (kind : FileKind) : ofName? kind.name = some kind := by cases kind <;> decide

/-- The name of a kind of symbol is read back. -/
theorem SymbolKind.ofName?_name (kind : SymbolKind) : ofName? kind.name = some kind := by cases kind <;> decide

/-- The name of a relation is read back. -/
theorem Relation.ofName?_name (relation : Relation) : ofName? relation.name = some relation := by
  cases relation <;> decide

/-- The name of a kind of finding is read back. -/
theorem ViolationKind.ofName?_name (kind : ViolationKind) : ofName? kind.name = some kind := by cases kind <;> decide

/-- The name of a grade is read back. -/
theorem Severity.ofName?_name (severity : Severity) : ofName? severity.name = some severity := by
  cases severity <;> decide

namespace Report

open Json

/-! ### Records -/

/-- An edge is read back. -/
theorem edge?_edgeJson (edge : Edge) : edge? (edgeJson edge) = some edge := by
  simp [edge?, edgeJson, needed?, fieldOf?, text?, named?, Relation.ofName?_name]

/-- A file is read back, and so is that it has no layer. -/
theorem node?_fileJson (file : FileNode) : node? (fileJson file) = some (.file file) := by
  obtain ⟨id, path, hash, kind, purpose, layer⟩ := file
  cases layer <;>
    simp [node?, fileJson, file?, nodeTag, needed?, optional?, fieldOf?, text?, named?, FileKind.ofName?_name]

/-- A symbol is read back, and so is which of its texts are missing. -/
theorem node?_symbolJson (symbol : SymbolNode) : node? (symbolJson symbol) = some (.symbol symbol) := by
  obtain ⟨id, kind, name, owner, purpose, path, route⟩ := symbol
  cases purpose <;> cases path <;> cases route <;>
    simp [node?, symbolJson, symbol?, nodeTag, needed?, optional?, fieldOf?, text?, named?, optionalText,
      SymbolKind.ofName?_name]

/-- A node is read back as what it is. -/
theorem node?_nodeJson : (node : Node) → node? (nodeJson node) = some node
  | .file file => node?_fileJson file
  | .symbol symbol => node?_symbolJson symbol

/-- A finding is read back, with its edge if there is one. -/
theorem violation?_violationJson (violation : Violation) : violation? (violationJson violation) = some violation := by
  obtain ⟨kind, severity, file, edge, message, suggestion⟩ := violation
  cases edge with
  -- Whether there is a suggestion, each of the other fields is read back alike.
  | none =>
    cases suggestion <;>
      simp [violation?, violationJson, needed?, optional?, fieldOf?, text?, named?, optionalText,
        ViolationKind.ofName?_name, Severity.ofName?_name]
  | some edge =>
    -- That the edge is no null shows in its record only.
    have read := edge?_edgeJson edge
    rw [edgeJson] at read
    cases suggestion <;>
      simp [violation?, violationJson, needed?, optional?, fieldOf?, text?, named?, optionalText,
        ViolationKind.ofName?_name, Severity.ofName?_name, edgeJson, read]

/-! ### Documents -/

/-- Items that are all read back are read back as a list. -/
theorem list?_map {α : Type} {read? : Json → Option α} {write : α → Json}
    (reads : ∀ item, read? (write item) = some item) (items : List α) :
    list? read? (.list (items.map write)) = some items := by
  have same : read? ∘ write = fun item => pure item := funext reads
  rw [list?, List.mapM_map, same]
  exact (List.mapM_pure (f := id)).trans (congrArg some (List.map_id items))

/-- The nodes, edges and findings of an audit are read back from its document. -/
theorem contents?_document (audit : Audit) (policy : Policy) (spec : ReportSpec) (seconds : Int) :
    contents? (document audit policy spec seconds) = some ⟨audit.graph.nodes, audit.graph.edges, audit.violations⟩ := by
  simp [contents?, document, needed?, fieldOf?, list?_map node?_nodeJson, list?_map edge?_edgeJson,
    list?_map violation?_violationJson]

/-! ### Depth -/

section

variable {depth : Nat}

/-- An edge is a record of texts. -/
theorem nests_edgeJson (edge : Edge) : Nests (depth + 1) (edgeJson edge) := by
  simp [edgeJson, Nests]

/-- A node is a record of texts. -/
theorem nests_nodeJson (node : Node) : Nests (depth + 1) (nodeJson node) := by
  rcases node with ⟨_, _, _, _, _, layer⟩ | ⟨_, _, _, _, purpose, path, route⟩
  · cases layer <;> simp [nodeJson, fileJson, Nests]
  · cases purpose <;> cases path <;> cases route <;> simp [nodeJson, symbolJson, optionalText, Nests]

/-- A finding is a record with an edge at most. -/
theorem nests_violationJson (violation : Violation) : Nests (depth + 2) (violationJson violation) := by
  obtain ⟨_, _, _, edge, _, suggestion⟩ := violation
  cases edge <;> cases suggestion <;> simp [violationJson, optionalText, Nests, nests_edgeJson]

/-- The counts are a record with another record. -/
theorem nests_summaryJson (summary : Summary) : Nests (depth + 2) (summaryJson summary) := by
  simp only [summaryJson, Nests, List.forall_mem_cons, List.forall_mem_map]
  simp

/-- Whatever an audit holds, a document is a record with lists of findings in it, and no deeper. -/
theorem nests_document (audit : Audit) (policy : Policy) (spec : ReportSpec) (seconds : Int) :
    Nests (depth + 4) (document audit policy spec seconds) := by
  simp only [document, Nests, List.forall_mem_cons, List.forall_mem_map]
  simp [layerJson, placementJson, Nests, nests_violationJson, nests_nodeJson, nests_edgeJson, nests_summaryJson]

end

/-! ### Texts -/

/-- Both texts of a document are texts of that document: the nodes, edges and findings of the audit are read back from
either of them. The compact one is a single line. -/
theorem documentText_roundTrip (audit : Audit) (policy : Policy) (spec : ReportSpec) (seconds : Int) :
    (∀ isCompact, parse? (documentText (document audit policy spec seconds) isCompact) =
      some (document audit policy spec seconds)) ∧
    (∀ isCompact, (parse? (documentText (document audit policy spec seconds) isCompact)).bind contents? =
      some ⟨audit.graph.nodes, audit.graph.edges, audit.violations⟩) ∧
    '\n' ∉ (documentText (document audit policy spec seconds) true).toList := by
  -- Nothing that a document holds nests deeper than a reader follows.
  have nests : Nests deepest (document audit policy spec seconds) := nests_document audit policy spec seconds
  have texts := parse?_texts nests
  have parsed : ∀ isCompact, parse? (documentText (document audit policy spec seconds) isCompact) =
      some (document audit policy spec seconds) := by
    -- Each of the two texts is one of a value that is not too deep.
    rintro (_ | _)
    · exact texts.2
    · exact texts.1
  refine ⟨parsed, fun isCompact => ?_, ?_⟩
  · -- The value of the text is the document, and the fields of that are read one by one.
    rw [parsed isCompact, Option.bind_some, contents?_document]
  · -- The compact text is the value on one line.
    rw [documentText, if_pos rfl, String.toList_ofList]
    exact not_mem_compact (document audit policy spec seconds)

end Report

end LayerAudit
