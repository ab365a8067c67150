import LayerAudit.Proofs.Graph.Replay
import Mathlib

/-!
The order in which a graph lists its nodes. An id takes its slot when it is first mentioned, be it by a node or by an
edge. So the nodes come in the order of these mentions, which is that of their acceptance only if no edge runs ahead.
-/

namespace LayerAudit

/-! ### First occurrences -/

section

variable {α : Type} [BEq α] [LawfulBEq α]

/-- One more element counts if it is new. -/
theorem eraseDups_concat (list : List α) (element : α) :
    (list ++ [element]).eraseDups = if element ∈ list then list.eraseDups else list.eraseDups ++ [element] := by
  rw [List.eraseDups_append, List.removeAll]
  split <;> rename_i known <;> simp [known, List.eraseDups_cons]

/-- Without repetitions, the elements of a list come in the order of their first occurrences. -/
theorem pairwise_eraseDups (list : List α) :
    list.eraseDups.Pairwise fun earlier later => list.idxOf earlier < list.idxOf later := by
  -- By induction from the end of the list, since a repetition is dropped there and nowhere else.
  induction list using List.reverseRecOn with
  | nil => simp
  | append_singleton list element ih =>
    -- The last element changes nothing about the first occurrences of the others.
    have kept : list.eraseDups.Pairwise fun earlier later =>
        (list ++ [element]).idxOf earlier < (list ++ [element]).idxOf later := by
      refine ih.imp_of_mem fun first second before => ?_
      rwa [List.idxOf_append_of_mem (List.mem_eraseDups.mp first),
        List.idxOf_append_of_mem (List.mem_eraseDups.mp second)]
    rw [eraseDups_concat]
    split
    · -- The element is there already, and stands where it first did.
      exact kept
    · rename_i fresh
      refine List.pairwise_append.mpr ⟨kept, List.pairwise_singleton _ _, fun earlier listed later isLast => ?_⟩
      have member := List.mem_eraseDups.mp listed
      rw [List.mem_singleton.mp isLast, List.idxOf_append_of_mem member, List.idxOf_append_of_notMem fresh]
      have inside := List.idxOf_lt_length_of_mem member
      omega

end

namespace Graph

variable {graph : Graph}

/-! ### Slots -/

/-- The ids of the slots in their order. -/
def slotIds (graph : Graph) : List String := graph.slots.toList.map Slot.id

/-- The listed nodes are those found under the ids of the slots. -/
theorem Valid.nodes_eq (valid : graph.Valid) : graph.nodes = graph.slotIds.filterMap graph.node? := by
  -- Slot by slot: the node in it is what is found under its id.
  rw [nodes, slotIds, List.filterMap_map]
  refine List.filterMap_congr fun slot stored => ?_
  obtain ⟨place, found⟩ := List.mem_iff_getElem?.mp stored
  have located := valid.slot?_eq_some_iff.mpr ⟨place, by simpa using found, rfl⟩
  simp [node?, located]

/-- The slots in their order have the ids of their places. -/
theorem getElem?_slotIds (graph : Graph) (place : Nat) : graph.slotIds[place]? = graph.idOf? place := by
  simp [slotIds, idOf?]

/-- An id that some slot has is listed with the slots. -/
theorem mem_slotIds_of_idOf? {place : Nat} {id : String} (named : graph.idOf? place = some id) : id ∈ graph.slotIds :=
  List.mem_of_getElem? ((getElem?_slotIds graph place).trans named)

/-- An id without a place has no slot. -/
theorem Valid.not_mem_slotIds (valid : graph.Valid) {id : String} (fresh : graph.places[id]? = none) :
    id ∉ graph.slotIds := by
  -- An id that some slot had would have the place of that slot.
  intro member
  obtain ⟨place, found⟩ := List.mem_iff_getElem?.mp member
  rw [(valid.placed id place).mpr ((getElem?_slotIds graph place).symm.trans found)] at fresh
  cases fresh

/-- A known id has a slot. -/
theorem Valid.mem_slotIds_of_node? (valid : graph.Valid) {id : String} {node : Node}
    (found : graph.node? id = some node) : id ∈ graph.slotIds := by
  obtain ⟨slot, located, _⟩ := Option.bind_eq_some_iff.mp found
  obtain ⟨place, stored, named⟩ := valid.slot?_eq_some_iff.mp located
  have isPlace : graph.idOf? place = some id := by rw [idOf?, stored, Option.map_some, named]
  exact mem_slotIds_of_idOf? isPlace

/-- One more slot comes last. -/
theorem slotIds_opened (graph : Graph) (slot : Slot) : (graph.opened slot).slotIds = graph.slotIds ++ [slot.id] := by
  simp [slotIds, opened]

/-- Filling the slot of a node's id changes no id. -/
theorem slotIds_filled {place : Nat} {node : Node} (named : graph.idOf? place = some node.id) :
    (graph.filled place node).slotIds = graph.slotIds := by
  -- Place by place, the id is the same as before.
  apply List.ext_getElem?
  intro other
  rw [getElem?_slotIds, getElem?_slotIds, idOf?_filled named]

variable {ids : List String}

/-- The slots are those of some ids, in the order of their first occurrences. -/
def Lists (graph : Graph) (ids : List String) : Prop := graph.slotIds = ids.eraseDups

/-- Where an id has a slot already, mentioning it again makes no difference. -/
theorem Lists.again (lists : graph.Lists ids) {id : String} (member : id ∈ graph.slotIds) :
    graph.Lists (ids ++ [id]) := by
  have mentioned : id ∈ ids := List.mem_eraseDups.mp (lists ▸ member)
  rw [Lists, eraseDups_concat, if_pos mentioned, lists]

/-- A slot for a new id comes behind those of the others. -/
theorem Lists.opened (lists : graph.Lists ids) (slot : Slot) (fresh : slot.id ∉ graph.slotIds) :
    (graph.opened slot).Lists (ids ++ [slot.id]) := by
  have unmentioned : slot.id ∉ ids := fun member => fresh (lists ▸ List.mem_eraseDups.mpr member)
  rw [Lists, slotIds_opened, eraseDups_concat, if_neg unmentioned, lists]

/-- An offered node is mentioned by its id. -/
theorem Lists.addNode (lists : graph.Lists ids) (valid : graph.Valid) (node : Node) :
    (graph.addNode node).1.Lists (ids ++ [node.id]) := by
  -- By what the graph knows of the id: nothing, a placeholder, or a node.
  rcases valid.addNode_cases node with ⟨fresh, added⟩ | ⟨place, named, _, added⟩ | ⟨known, found, added⟩ <;> rw [added]
  · exact lists.opened (.known node) (valid.not_mem_slotIds fresh)
  · -- A placeholder is filled where it stands, and does not move behind the nodes that came in the meantime.
    rw [Lists, slotIds_filled named]
    exact lists.again (mem_slotIds_of_idOf? named)
  · exact lists.again (valid.mem_slotIds_of_node? found)

/-- Ensuring a slot mentions its id. -/
theorem Lists.ensure (lists : graph.Lists ids) (valid : graph.Valid) (id : String) :
    (graph.ensure id).1.Lists (ids ++ [id]) := by
  rcases valid.ensure_cases id with ⟨fresh, ensured⟩ | ⟨place, named, ensured⟩ <;> rw [ensured]
  · exact lists.opened (.unresolved id) (valid.not_mem_slotIds fresh)
  · exact lists.again (mem_slotIds_of_idOf? named)

/-! ### Steps -/

namespace Step

/-- The ids that a step mentions. -/
def mentions : Step → List String
  | offer node => [node.id]
  | link edge => [edge.source, edge.target]

/-- The node that a step offers, if the answer to it says that it was accepted. -/
def accepted? (step : Step) (answer : Option Bool) : Option Node := if answer = some true then step.node? else none

end Step

/-- The ids that some steps mention, as often as they do. -/
def mentioned (steps : List Step) : List String := steps.flatMap Step.mentions

/-- The nodes that were accepted by some steps with the given answers, in the order of their acceptance. -/
def accepted (steps : List Step) (answers : List (Option Bool)) : List Node :=
  (steps.zip answers).filterMap fun (step, answer) => step.accepted? answer

/-- A step lists the slots of the ids that it mentions. -/
theorem Lists.run (lists : graph.Lists ids) (valid : graph.Valid) (step : Step) :
    (step.run graph).1.Lists (ids ++ step.mentions) := by
  cases step with
  | offer node => exact lists.addNode valid node
  -- Of an edge both ends are mentioned, the source first.
  | link edge =>
    have sourced := lists.ensure valid edge.source
    have targeted := sourced.ensure (valid.ensure edge.source) edge.target
    rw [List.append_assoc] at targeted
    exact targeted

/-- All steps list the slots of the ids that they mention. -/
theorem Lists.replay (lists : graph.Lists ids) (valid : graph.Valid) (steps : List Step) :
    (graph.replay steps).1.Lists (ids ++ mentioned steps) := by
  -- By induction on the steps, each of which mentions its ids behind those before.
  induction steps generalizing graph ids with
  | nil => simpa [mentioned, Graph.replay] using lists
  | cons step rest ih =>
    have rested := ih (lists.run valid step) (valid.run step)
    rw [List.append_assoc] at rested
    exact rested

/-- A step accepts its node if nothing is known under the id. -/
theorem Valid.accepted?_run (valid : graph.Valid) (step : Step) :
    step.accepted? (step.run graph).2 = step.node?.filter fun node => (graph.node? node.id).isNone := by
  rw [Step.accepted?, valid.answer_run]
  cases step.node? with
  | none => rfl
  | some node =>
    rw [Option.map_some, Option.filter_some]
    cases (graph.node? node.id).isNone <;> rfl

/-- A step adds the node that it has accepted to the listed ones. -/
theorem Valid.nodes_run (valid : graph.Valid) (step : Step) :
    (step.run graph).1.nodes.Perm (graph.nodes ++ (step.accepted? (step.run graph).2).toList) := by
  have both : ∀ node, node ∈ (step.accepted? (step.run graph).2).toList ↔
      graph.node? node.id = none ∧ step.node? = some node := by
    intro node
    rw [valid.accepted?_run, Option.mem_toList, Option.filter_eq_some_iff, Option.isNone_iff_eq_none]
    exact and_comm
  -- What is accepted is not listed yet.
  have nodup : (graph.nodes ++ (step.accepted? (step.run graph).2).toList).Nodup := by
    refine List.nodup_append.mpr ⟨valid.nodup_nodes.of_map, ?_, ?_⟩
    · cases step.accepted? (step.run graph).2 <;> simp
    · rintro node listed other accepted rfl
      rw [valid.mem_nodes, ((both node).mp accepted).1] at listed
      cases listed
  refine (List.perm_ext_iff_of_nodup (valid.run step).nodup_nodes.of_map nodup).mpr fun node => ?_
  -- On both sides a node is listed if it was known before the step, or was accepted by it.
  rw [List.mem_append, both, (valid.run step).mem_nodes, valid.mem_nodes, valid.node?_run]
  cases graph.node? node.id with
  | some known => simp
  | none => simp [Option.filter_eq_some_iff]

/-- What the first step accepts comes first. -/
theorem accepted_cons (step : Step) (rest : List Step) (answer : Option Bool) (answers : List (Option Bool)) :
    accepted (step :: rest) (answer :: answers) = (step.accepted? answer).toList ++ accepted rest answers := by
  cases taken : step.accepted? answer <;> simp [accepted, taken]

/-- The listed nodes are those listed before and those accepted on the way. -/
theorem Valid.nodes_replay (valid : graph.Valid) (steps : List Step) :
    (graph.replay steps).1.nodes.Perm (graph.nodes ++ accepted steps (graph.replay steps).2) := by
  -- By induction on the steps, from any graph.
  induction steps generalizing graph with
  | nil => simp [Graph.replay, accepted]
  | cons step rest ih =>
    -- What later steps accept comes behind what the first one accepts.
    have rested := (ih (valid.run step)).trans ((valid.nodes_run step).append_right _)
    rw [List.append_assoc] at rested
    change List.Perm _ (graph.nodes ++ accepted (step :: rest) ((step.run graph).2 :: _))
    rw [accepted_cons]
    exact rested

/-- The graph without nodes lists no ids. -/
theorem lists_empty : Graph.empty.Lists [] := by
  simp [Lists, slotIds, Graph.empty]

/-- From the empty graph, the nodes come in the order in which their ids are first mentioned. -/
theorem nodes_replay_empty (steps : List Step) :
    (Graph.empty.replay steps).1.nodes =
      (mentioned steps).eraseDups.filterMap fun id => (offers steps).find? (·.id == id) := by
  -- The ids of the slots are known, and under each of them the first node offered is found.
  have lists : (Graph.empty.replay steps).1.slotIds = (mentioned steps).eraseDups :=
    lists_empty.replay valid_empty steps
  rw [(valid_empty.replay steps).nodes_eq, lists]
  exact List.filterMap_congr fun id _ => node?_replay_empty steps id

/-- From the empty graph, the ids of the nodes are listed by their first mentions. -/
theorem pairwise_nodes_replay_empty (steps : List Step) :
    (Graph.empty.replay steps).1.nodes.Pairwise fun earlier later =>
      (mentioned steps).idxOf earlier.id < (mentioned steps).idxOf later.id := by
  rw [nodes_replay_empty]
  refine (pairwise_eraseDups (mentioned steps)).filterMap _ fun first second before node isFirst other isSecond => ?_
  -- The node found under an id has that id.
  have isNamed := List.find?_some isFirst
  have isNamedToo := List.find?_some isSecond
  rwa [beq_iff_eq.mp isNamed, beq_iff_eq.mp isNamedToo]

/-- The listed nodes are the accepted ones, each in the place of the first mention of its id. So they are listed in the
order of acceptance exactly if, of any two accepted nodes, the one accepted earlier is also mentioned earlier. -/
theorem nodes_inOrder_iff (steps : List Step) :
    let built := Graph.empty.replay steps
    let taken := accepted steps built.2
    (built.1.nodes = taken ↔
        taken.Pairwise fun earlier later => (mentioned steps).idxOf earlier.id < (mentioned steps).idxOf later.id) ∧
      built.1.nodes.Perm taken ∧
      built.1.nodes = (mentioned steps).eraseDups.filterMap fun id => (offers steps).find? (·.id == id) := by
  intro built taken
  have same : built.1.nodes.Perm taken := valid_empty.nodes_replay steps
  have sorted := pairwise_nodes_replay_empty steps
  refine ⟨⟨fun equal => equal ▸ sorted, fun inOrder => ?_⟩, same, nodes_replay_empty steps⟩
  -- Of two lists with the same elements, at most one is sorted by a strict order.
  exact same.eq_of_pairwise (fun first second _ _ before after => absurd before (Nat.lt_asymm after)) sorted inOrder

/-- A file without anything known about it but its path. -/
def bareFile (path : String) : Node := .file ⟨path, path, "", .utility, "", none⟩

/-- The file `a.js` imports `c.js`, which comes after `b.js`. -/
def importingAhead : List Step :=
  [.offer (bareFile "a.js"), .link ⟨"a.js", "c.js", .imports⟩, .offer (bareFile "b.js"), .offer (bareFile "c.js")]

/-- An import of a later file moves that file ahead of those accepted in between. -/
theorem nodes_run_ahead :
    (Graph.empty.replay importingAhead).1.nodes = [bareFile "a.js", bareFile "c.js", bareFile "b.js"] ∧
      accepted importingAhead (Graph.empty.replay importingAhead).2 =
        [bareFile "a.js", bareFile "b.js", bareFile "c.js"] := by
  constructor
  · cbv
  · cbv

end Graph

end LayerAudit
