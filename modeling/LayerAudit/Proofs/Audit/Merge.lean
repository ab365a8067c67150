import LayerAudit.Audit.Basic
import LayerAudit.Proofs.Audit.Outcome
import LayerAudit.Proofs.Graph.Replay

/-! The graph of an audit replays what the files offer: each file itself, then its symbols, then its edges. -/

namespace LayerAudit

namespace FileOutcome

/-- The nodes that a file offers: itself if it was read, and its symbols in the order of their extraction. -/
def offers (outcome : FileOutcome) : List Node :=
  (outcome.file.map Node.file).toList ++ outcome.extraction.symbols.map Node.symbol

/-- The steps in which a file is added to a graph. -/
def steps (outcome : FileOutcome) : List Graph.Step :=
  outcome.offers.map .offer ++ outcome.extraction.edges.map .link

end FileOutcome

namespace Audit

/-- Adding symbols one after the other offers them in their order. -/
theorem foldl_addSymbol (state : Graph × List Warning) (symbols : List SymbolNode) :
    (symbols.foldl addSymbol state).1 = (state.1.replay (symbols.map fun symbol => .offer (.symbol symbol))).1 := by
  -- A warning accompanies an offer but never changes the graph.
  induction symbols generalizing state with
  | nil => rfl
  | cons symbol rest ih =>
    -- A warning may be added, but the graph takes the symbol either way.
    have added : (addSymbol state symbol).1 = (state.1.addNode (.symbol symbol)).1 := by
      simp only [addSymbol]
      split <;> rfl
    rw [List.foldl_cons, ih, added]
    rfl

/-- Adding edges one after the other replays them. -/
theorem foldl_addEdge (graph : Graph) (edges : List Edge) :
    edges.foldl Graph.addEdge graph = (graph.replay (edges.map .link)).1 := by
  induction edges generalizing graph with
  | nil => rfl
  | cons edge rest ih => exact ih _

/-- Adding a file replays its steps. -/
theorem merge_graph (state : Graph × List Warning) (outcome : FileOutcome) :
    (merge state outcome).1 = (state.1.replay outcome.steps).1 := by
  -- A file that was read is offered first, and any other adds no node.
  have filed : addFile state.1 outcome.file =
      (state.1.replay ((outcome.file.map Node.file).toList.map .offer)).1 := by
    cases outcome.file <;> rfl
  -- The three stages replay their steps one after another.
  simp only [merge, foldl_addEdge, foldl_addSymbol, filed, FileOutcome.steps, FileOutcome.offers,
    List.map_append, List.map_map, Graph.replay_append]
  rfl

/-- Adding files one after the other replays the steps of all of them. -/
theorem foldl_merge (state : Graph × List Warning) (outcomes : List FileOutcome) :
    (outcomes.foldl merge state).1 = (state.1.replay (outcomes.flatMap FileOutcome.steps)).1 := by
  induction outcomes generalizing state with
  | nil => rfl
  | cons outcome rest ih =>
    rw [List.foldl_cons, ih, merge_graph, List.flatMap_cons, Graph.replay_append]

/-- The graph of an audit replays the steps of its files from nothing. -/
theorem graph_ofOutcomes (policy : Policy) (outcomes : List FileOutcome) :
    (ofOutcomes policy outcomes).1.graph = (Graph.empty.replay (outcomes.flatMap FileOutcome.steps)).1 :=
  -- Findings and warnings are put together beside the graph.
  foldl_merge (Graph.empty, []) outcomes

/-- The files' steps offer the files' nodes. -/
theorem offers_steps (outcomes : List FileOutcome) :
    Graph.offers (outcomes.flatMap FileOutcome.steps) = outcomes.flatMap FileOutcome.offers := by
  -- A step that adds an edge offers nothing.
  have single (outcome : FileOutcome) : outcome.steps.filterMap Graph.Step.node? = outcome.offers := by
    simp [FileOutcome.steps, List.filterMap_map, Function.comp_def, Graph.Step.node?]
  simp only [Graph.offers, List.filterMap_flatMap, single]

/-- The files' steps add the files' edges. -/
theorem additions_steps (outcomes : List FileOutcome) :
    Graph.additions (outcomes.flatMap FileOutcome.steps) = outcomes.flatMap (·.extraction.edges) := by
  -- A step that offers a node adds no edge.
  have single (outcome : FileOutcome) : outcome.steps.filterMap Graph.Step.edge? = outcome.extraction.edges := by
    simp [FileOutcome.steps, List.filterMap_map, Function.comp_def, Graph.Step.edge?]
  simp only [Graph.additions, List.filterMap_flatMap, single]

variable (policy : Policy) (outcomes : List FileOutcome)

/-- The graph of an audit is valid. -/
theorem valid_ofOutcomes : (ofOutcomes policy outcomes).1.graph.Valid := by
  rw [graph_ofOutcomes]
  exact Graph.valid_empty.replay _

/-- The node known under an id is the first one that the files offer for it. -/
theorem node?_ofOutcomes (id : String) :
    (ofOutcomes policy outcomes).1.graph.node? id =
      (outcomes.flatMap FileOutcome.offers).find? (·.id == id) := by
  rw [graph_ofOutcomes, Graph.node?_replay_empty, offers_steps]

/-- The edges of an audit are those of its files, one file after the other. -/
theorem edges_ofOutcomes :
    (ofOutcomes policy outcomes).1.graph.edges = outcomes.flatMap (·.extraction.edges) := by
  rw [graph_ofOutcomes, Graph.edges_replay_empty, additions_steps]

end Audit

namespace Setup

/-! ### Audits of paths -/

variable [Script.Syntax]

section

variable (setup : Setup) (order : BindingOrder) (files : FileSystem) (root : String) (paths : List String)

/-- The audit of the files at some paths below a source root. -/
def auditOf : Audit := (Audit.ofOutcomes setup.policy (setup.outcomes order files root paths)).1

/-- The nodes that the file at one of the paths offers. -/
def offersAt (path : String) : List Node := (setup.examine order files root (setup.scopeOf paths) path).offers

end

variable {setup : Setup} {order : BindingOrder} {files : FileSystem} {root : String} {paths : List String}

/-- The graph of an audit is valid. -/
theorem valid_auditOf : (setup.auditOf order files root paths).graph.Valid := Audit.valid_ofOutcomes _ _

/-- The node known under an id is the first one that the files offer for it. -/
theorem node?_auditOf (id : String) :
    (setup.auditOf order files root paths).graph.node? id =
      (paths.flatMap (setup.offersAt order files root paths)).find? (·.id == id) := by
  rw [auditOf, Audit.node?_ofOutcomes, outcomes, List.flatMap_map]
  rfl

/-- A file offers its own node and its symbols. -/
theorem mem_offersAt {path : String} {node : Node} :
    node ∈ setup.offersAt order files root paths path ↔
      (∃ file, setup.fileNode? files root path = some file ∧ node = .file file) ∨
      ∃ symbol ∈ (setup.examine order files root (setup.scopeOf paths) path).extraction.symbols,
        node = .symbol symbol := by
  -- The two kinds of nodes come from the two parts of the list.
  simp only [offersAt, FileOutcome.offers, examine_file, List.mem_append, Option.mem_toList,
    Option.map_eq_some_iff, List.mem_map]
  exact or_congr (exists_congr fun _ => and_congr_right fun _ => eq_comm)
    (exists_congr fun _ => and_congr_right fun _ => eq_comm)

/-- The edges of an audit are those that its files add. -/
theorem edges_auditOf :
    (setup.auditOf order files root paths).graph.edges =
      paths.flatMap fun path => (setup.examine order files root (setup.scopeOf paths) path).extraction.edges := by
  rw [auditOf, Audit.edges_ofOutcomes, outcomes, List.flatMap_map]

/-- The findings of an audit are those about its files and then those about its edges. -/
theorem violations_auditOf :
    (setup.auditOf order files root paths).violations =
      (paths.map fun path => (setup.examine order files root (setup.scopeOf paths) path).violations).flatten ++
        ((setup.auditOf order files root paths).graph.edges.map setup.policy.checkDependency).flatten := by
  -- The outcomes are those of the paths, one by one.
  have ofFiles : (setup.outcomes order files root paths).flatMap (·.violations) =
      (paths.map fun path => (setup.examine order files root (setup.scopeOf paths) path).violations).flatten := by
    rw [outcomes, List.flatMap_map, List.flatMap_def]
  rw [← ofFiles]
  rfl

/-- Findings of an audit that are not about dependencies are about its files. -/
theorem filter_violations_auditOf {wanted : Violation → Bool}
    (apart : ∀ violation, wanted violation → violation.kind ≠ .dependency) :
    (setup.auditOf order files root paths).violations.filter wanted =
      paths.flatMap fun path =>
        (setup.examine order files root (setup.scopeOf paths) path).violations.filter wanted := by
  -- The findings about edges, which come last, are all about dependencies.
  have ofEdges : ((setup.auditOf order files root paths).graph.edges.map setup.policy.checkDependency).flatten.filter
      wanted = [] := by
    refine List.filter_eq_nil_iff.mpr fun violation member isWanted => apart violation isWanted ?_
    obtain ⟨_, listed, found⟩ := List.mem_flatten.mp member
    obtain ⟨edge, _, rfl⟩ := List.mem_map.mp listed
    exact (Policy.isAbout_of_mem_checkDependency found).is.kind
  rw [violations_auditOf, List.filter_append, ofEdges, List.append_nil, ← List.flatMap_def, List.filter_flatMap]

/-- Where the discovery succeeds the audit does too, on the discovered paths. -/
theorem audit_of_discover (order : BindingOrder) (found : setup.discover files root = .ok paths) :
    setup.audit order files root = .ok (Audit.ofOutcomes setup.policy (setup.outcomes order files root paths)) := by
  simp only [audit, found]

/-- An audit is the audit of the discovered paths. -/
theorem discover_of_audit {result : Audit × List Warning} (done : setup.audit order files root = .ok result) :
    ∃ paths, setup.discover files root = .ok paths ∧
      result = Audit.ofOutcomes setup.policy (setup.outcomes order files root paths) := by
  -- Without a discovery there is no audit.
  unfold audit at done
  cases found : setup.discover files root with
  | error bad => simp [found] at done
  | ok paths =>
    simp only [found, Except.ok.injEq] at done
    exact ⟨paths, rfl, done.symm⟩

end Setup

end LayerAudit
