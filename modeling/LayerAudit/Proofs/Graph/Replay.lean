import LayerAudit.Proofs.Graph.Slots

/-! A graph that is built step by step holds the first node offered for each id and every edge, however they mix. -/

namespace LayerAudit.Graph

/-- A step in the building of a graph. Files and symbols are both offered as nodes. -/
inductive Step
  | offer (node : Node)
  | link (edge : Edge)
  deriving DecidableEq, Repr, Inhabited

namespace Step

/-- The node that a step offers. -/
def node? : Step → Option Node
  | offer node => some node
  | link _ => none

/-- The edge that a step adds. -/
def edge? : Step → Option Edge
  | offer _ => none
  | link edge => some edge

/-- The graph after a step, and the answer to an offer. -/
def run (graph : Graph) : Step → Graph × Option Bool
  | offer node => ((graph.addNode node).1, some (graph.addNode node).2)
  | link edge => (graph.addEdge edge, none)

end Step

/-- The nodes that some steps offer, in their order. -/
def offers (steps : List Step) : List Node := steps.filterMap Step.node?

/-- The edges that some steps add, in their order. -/
def additions (steps : List Step) : List Edge := steps.filterMap Step.edge?

/-- The graph after some steps, with the answer to each of them. -/
def replay (graph : Graph) : List Step → Graph × List (Option Bool)
  | [] => (graph, [])
  | step :: rest =>
    let (next, answer) := step.run graph
    let (final, answers) := replay next rest
    (final, answer :: answers)

variable {graph : Graph}

/-- Replaying two stretches of steps is replaying the second behind the first. -/
theorem replay_append (graph : Graph) (first second : List Step) :
    (graph.replay (first ++ second)).1 = ((graph.replay first).1.replay second).1 := by
  -- The induction follows the steps, each of which moves both sides to the same graph.
  induction first generalizing graph with
  | nil => rfl
  | cons step rest ih => exact ih _

/-! ### One step -/

/-- A step keeps the graph valid. -/
theorem Valid.run (valid : graph.Valid) (step : Step) : (step.run graph).1.Valid := by
  cases step with
  | offer node => exact valid.addNode node
  | link edge => exact valid.addEdge edge

/-- A step can make only the id of its own node known, and only if nothing was known under it. -/
theorem Valid.node?_run (valid : graph.Valid) (step : Step) (id : String) :
    (step.run graph).1.node? id = (graph.node? id).or (step.node?.filter (·.id == id)) := by
  cases step with
  | offer node =>
    simp only [Step.run, Step.node?, valid.node?_addNode, Option.filter_some, beq_iff_eq]
  | link edge =>
    -- An edge makes nothing known, not even the ids that it opens.
    simp only [Step.run, Step.node?, valid.node?_addEdge, Option.filter_none, Option.or_none]

/-- A step adds its own edge behind the others. -/
theorem Valid.edges_run (valid : graph.Valid) (step : Step) :
    (step.run graph).1.edges = graph.edges ++ step.edge?.toList := by
  cases step with
  | offer node => simp [Step.run, Step.edge?, valid.edges_addNode]
  | link edge => simp [Step.run, Step.edge?, valid.edges_addEdge]

/-- An offer is accepted exactly if nothing is known under its id. -/
theorem Valid.answer_run (valid : graph.Valid) (step : Step) :
    (step.run graph).2 = step.node?.map fun node => (graph.node? node.id).isNone := by
  cases step with
  | offer node => simp only [Step.run, Step.node?, valid.addNode_accepts, Option.map_some]
  | link edge => rfl

/-! ### All steps -/

/-- Replaying steps keeps the graph valid. -/
theorem Valid.replay (valid : graph.Valid) (steps : List Step) : (graph.replay steps).1.Valid := by
  induction steps generalizing graph with
  | nil => exact valid
  | cons step rest ih => exact ih (valid.run step)

/-- What is known at the end was known before, or else was offered first under its id. -/
theorem Valid.node?_replay (valid : graph.Valid) (steps : List Step) (id : String) :
    (graph.replay steps).1.node? id = (graph.node? id).or ((offers steps).find? (·.id == id)) := by
  -- Once the first step has had its say, the remaining steps continue from what it left known.
  induction steps generalizing graph with
  | nil => simp [Graph.replay, offers]
  | cons step rest ih =>
    have rested := ih (valid.run step)
    rw [valid.node?_run] at rested
    change (((step.run graph).1.replay rest).1).node? id = _
    rw [rested, Option.or_assoc]
    congr 1
    cases step with
    | offer node =>
      -- The first offer for an id is found first, if the id is its own.
      simp only [offers, Step.node?, List.filterMap_cons, List.find?_cons, Option.filter_some]
      cases (node.id == id) <;> rfl
    | link edge => rfl

/-- All added edges stand behind the earlier ones, in the order of the steps. -/
theorem Valid.edges_replay (valid : graph.Valid) (steps : List Step) :
    (graph.replay steps).1.edges = graph.edges ++ additions steps := by
  induction steps generalizing graph with
  | nil => simp [Graph.replay, additions]
  | cons step rest ih =>
    -- The edges of later steps stand behind that of the first one.
    have rested := ih (valid.run step)
    rw [valid.edges_run] at rested
    change (((step.run graph).1.replay rest).1).edges = _
    rw [rested, List.append_assoc]
    cases step <;> rfl

/-- The answer to an offer says whether its id was unknown, both at the start and to the offers before it. -/
theorem Valid.answers_replay (valid : graph.Valid) (steps : List Step) (i : Nat) :
    (graph.replay steps).2[i]? = steps[i]?.map fun step => step.node?.map fun node =>
      (graph.node? node.id).isNone && !(offers (steps.take i)).any (·.id == node.id) := by
  induction steps generalizing graph i with
  | nil => rfl
  | cons step rest ih =>
    change ((step.run graph).2 :: ((step.run graph).1.replay rest).2)[i]? = _
    cases i with
    | zero =>
      -- No offer stands before the first step.
      simp only [List.getElem?_cons_zero, List.take_zero, Option.map_some, valid.answer_run]
      simp [offers]
    | succ i =>
      -- The first step is one more offer before every later one.
      simp only [List.getElem?_cons_succ, List.take_succ_cons, ih (valid.run step), valid.node?_run]
      congr 1
      funext later
      congr 1
      funext node
      cases step with
      | offer first =>
        simp only [offers, Step.node?, List.filterMap_cons, List.any_cons, Option.filter_some]
        cases graph.node? node.id <;> cases (first.id == node.id) <;> simp
      | link edge => simp [offers, Step.node?, List.filterMap_cons]

/-- From the empty graph, the node known under an id is the first one offered for it. -/
theorem node?_replay_empty (steps : List Step) (id : String) :
    (Graph.empty.replay steps).1.node? id = (offers steps).find? (·.id == id) := by
  rw [valid_empty.node?_replay, node?_empty, Option.none_or]

/-- From the empty graph, the edges are the added ones. -/
theorem edges_replay_empty (steps : List Step) : (Graph.empty.replay steps).1.edges = additions steps := by
  rw [valid_empty.edges_replay, edges_empty, List.nil_append]

/-- From the empty graph, the listed nodes are the first ones offered for their ids. -/
theorem mem_nodes_replay_empty (steps : List Step) (node : Node) :
    node ∈ (Graph.empty.replay steps).1.nodes ↔ (offers steps).find? (·.id == node.id) = some node := by
  rw [(valid_empty.replay steps).mem_nodes, node?_replay_empty]

/-- From the empty graph, an edge dangles if its target was never offered. -/
theorem danglingCount_replay_empty (steps : List Step) :
    (Graph.empty.replay steps).1.danglingCount =
      (additions steps).countP fun edge => !(offers steps).any (·.id == edge.target) := by
  rw [(valid_empty.replay steps).danglingCount_eq, edges_replay_empty]
  -- The edge dangles if no offer is found for its target.
  congr 1
  funext edge
  rw [node?_replay_empty, ← Option.not_isSome, List.isSome_find?]

/-- A graph built from nothing answers each offer by whether its id is new, holds exactly the first node offered for
each id and exactly the added edges in their order, and counts the edges whose targets were never offered. Hence two
ways to mix the same offers with the same edges show the same. -/
theorem replay_keeps_first_offers_and_all_edges (steps : List Step) :
    (∀ i, (Graph.empty.replay steps).2[i]? = steps[i]?.map fun (step : Step) => step.node?.map fun node =>
      !(offers (steps.take i)).any (·.id == node.id)) ∧
    ((Graph.empty.replay steps).1.nodes.map Node.id).Nodup ∧
    (∀ node, node ∈ (Graph.empty.replay steps).1.nodes ↔
      (offers steps).find? (·.id == node.id) = some node) ∧
    (Graph.empty.replay steps).1.edges = additions steps ∧
    (Graph.empty.replay steps).1.danglingCount =
      (additions steps).countP (fun edge => !(offers steps).any (·.id == edge.target)) ∧
    ∀ others : List Step, offers others = offers steps → additions others = additions steps →
      (Graph.empty.replay others).1.nodes.Perm (Graph.empty.replay steps).1.nodes ∧
      (Graph.empty.replay others).1.edges = (Graph.empty.replay steps).1.edges ∧
      (Graph.empty.replay others).1.danglingCount = (Graph.empty.replay steps).1.danglingCount := by
  have nodup (some : List Step) : ((Graph.empty.replay some).1.nodes.map Node.id).Nodup :=
    (valid_empty.replay some).nodup_nodes
  refine ⟨?_, nodup steps, mem_nodes_replay_empty steps, edges_replay_empty steps,
    danglingCount_replay_empty steps, ?_⟩
  · intro i
    simp [valid_empty.answers_replay]
  · -- What a replay shows was just expressed by its offers and its edges alone.
    intro others sameOffers sameAdditions
    refine ⟨?_, ?_, ?_⟩
    · refine (List.perm_ext_iff_of_nodup (nodup others).of_map (nodup steps).of_map).mpr fun node => ?_
      rw [mem_nodes_replay_empty, mem_nodes_replay_empty, sameOffers]
    · rw [edges_replay_empty, edges_replay_empty, sameAdditions]
    · rw [danglingCount_replay_empty, danglingCount_replay_empty, sameOffers, sameAdditions]

end LayerAudit.Graph
