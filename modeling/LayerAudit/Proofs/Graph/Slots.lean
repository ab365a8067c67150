import LayerAudit.Graph.Basic
import Mathlib.Data.List.Nodup
import Std.Data.HashMap.Lemmas

/-! Each id of a graph has one slot that it keeps for good, so every operation changes what the graph shows in one way. -/

namespace LayerAudit.Graph

variable {graph : Graph}

/-- The id of the slot at a place. -/
def idOf? (graph : Graph) (place : Nat) : Option String := graph.slots[place]?.map Slot.id

/-- The known node with an id. -/
def node? (graph : Graph) (id : String) : Option Node := (graph.slot? id).bind Slot.node?

/-- Places and slots name each other, and every link joins two slots. -/
structure Valid (graph : Graph) : Prop where
  /-- In both directions: no id has two slots, and no slot is without its place. -/
  placed : ∀ id place, graph.places[id]? = some place ↔ graph.idOf? place = some id
  linked : ∀ link ∈ graph.links, link.1 < graph.slots.size ∧ link.2.1 < graph.slots.size

/-- Slots keep their places and their ids, whatever becomes of their contents. -/
def Grows (before after : Graph) : Prop :=
  -- New slots may follow, so nothing is said about places that had none.
  ∀ place id, before.idOf? place = some id → after.idOf? place = some id

/-! ### Reading a valid graph -/

/-- A place has an id exactly if it has a slot. -/
theorem idOf?_isSome {place : Nat} : (graph.idOf? place).isSome ↔ place < graph.slots.size := by
  simp [idOf?]

/-- The edges of a graph that grows without new links stay what they are. -/
theorem edges_of_grows {before after : Graph} (valid : before.Valid) (grows : Grows before after)
    (same : after.links = before.links) : after.edges = before.edges := by
  -- Both ends of each link are slots already, and their ids are kept.
  have kept : ∀ place, place < before.slots.size → after.idAt place = before.idAt place := by
    intro place inside
    obtain ⟨id, named⟩ := Option.isSome_iff_exists.mp (idOf?_isSome.mpr inside)
    have later := grows place id named
    simp only [idOf?] at named later
    simp [idAt, named, later]
  -- A link is an edge between the ids of its two slots, neither of which has changed.
  simp only [edges, same]
  apply List.map_congr_left
  rintro ⟨source, target, relation⟩ member
  obtain ⟨sourceInside, targetInside⟩ := valid.linked _ (Array.mem_toList_iff.mp member)
  simp only [kept source sourceInside, kept target targetInside]

/-- The slot of an id lies at its place and is named by the id. -/
theorem Valid.slot?_eq_some_iff (valid : graph.Valid) {id : String} {slot : Slot} :
    graph.slot? id = some slot ↔ ∃ place : Nat, graph.slots[place]? = some slot ∧ slot.id = id := by
  simp only [slot?, Option.bind_eq_some_iff]
  constructor
  · rintro ⟨place, located, found⟩
    have named := (valid.placed id place).mp located
    simp only [idOf?, found, Option.map_some, Option.some.injEq] at named
    exact ⟨place, found, named⟩
  · rintro ⟨place, found, named⟩
    refine ⟨place, (valid.placed id place).mpr ?_, found⟩
    simp [idOf?, found, named]

/-- The node found under an id has that id. -/
theorem Valid.node?_id (valid : graph.Valid) {id : String} {node : Node} (found : graph.node? id = some node) :
    node.id = id := by
  obtain ⟨slot, located, content⟩ := Option.bind_eq_some_iff.mp found
  obtain ⟨_, _, named⟩ := valid.slot?_eq_some_iff.mp located
  -- Only a known slot has a node, and its id is that of the node.
  cases slot with
  | known stored =>
    cases content
    exact named
  | unresolved _ => cases content

/-- The listed nodes are those that are found under their ids. -/
theorem Valid.mem_nodes (valid : graph.Valid) {node : Node} :
    node ∈ graph.nodes ↔ graph.node? node.id = some node := by
  constructor
  · intro member
    obtain ⟨slot, stored, content⟩ := List.mem_filterMap.mp member
    obtain ⟨place, found⟩ := List.mem_iff_getElem?.mp stored
    cases slot with
    | known known =>
      cases content
      have located := valid.slot?_eq_some_iff.mpr ⟨place, by simpa using found, rfl⟩
      exact Option.bind_eq_some_iff.mpr ⟨_, located, rfl⟩
    | unresolved _ => cases content
  · intro found
    obtain ⟨slot, located, content⟩ := Option.bind_eq_some_iff.mp found
    obtain ⟨place, stored, _⟩ := valid.slot?_eq_some_iff.mp located
    exact List.mem_filterMap.mpr ⟨slot, Array.mem_toList_iff.mpr (Array.mem_of_getElem? stored), content⟩

/-- The slots of a valid graph have different ids. -/
theorem Valid.nodup_slots (valid : graph.Valid) : (graph.slots.toList.map Slot.id).Nodup := by
  -- Two places with one id are both the place of that id.
  refine List.pairwise_iff_getElem.mpr fun i j iInside jInside before same => ?_
  have atPlace : ∀ place id, (graph.slots.toList.map Slot.id)[place]? = some id → graph.idOf? place = some id := by
    intro place id listed
    simpa [idOf?] using listed
  have first := (valid.placed _ i).mpr (atPlace i _ (List.getElem?_eq_getElem iInside))
  have second := (valid.placed _ j).mpr (atPlace j _ (List.getElem?_eq_getElem jInside))
  rw [same, second] at first
  have := Option.some.inj first
  omega

/-- No two listed nodes have one id. -/
theorem Valid.nodup_nodes (valid : graph.Valid) : (graph.nodes.map Node.id).Nodup := by
  -- The ids of the nodes are some of the ids of the slots, in the same order.
  have below : (graph.nodes.map Node.id).Sublist (graph.slots.toList.map Slot.id) := by
    unfold nodes
    induction graph.slots.toList with
    | nil => exact List.Sublist.refl _
    | cons slot rest ih =>
      cases slot with
      | known node => exact ih.cons_cons _
      | unresolved _ => exact ih.cons _
  exact valid.nodup_slots.sublist below

/-- The listed nodes with an id are the one that is found under it, if there is one. -/
theorem Valid.filter_nodes (valid : graph.Valid) (id : String) :
    graph.nodes.filter (·.id == id) = (graph.node? id).toList := by
  have nodup : (graph.nodes.filter (·.id == id)).Nodup := valid.nodup_nodes.of_map.filter _
  cases found : graph.node? id with
  | none =>
    -- A listed node with the id would be found under it.
    refine List.filter_eq_nil_iff.mpr fun node member same => ?_
    rw [← beq_iff_eq.mp same, valid.mem_nodes.mp member] at found
    cases found
  | some node =>
    refine List.perm_singleton.mp ((List.perm_ext_iff_of_nodup nodup (List.nodup_singleton node)).mpr fun other => ?_)
    rw [List.mem_filter, List.mem_singleton, beq_iff_eq, valid.mem_nodes]
    constructor
    · rintro ⟨listed, rfl⟩
      exact Option.some.inj (listed.symm.trans found)
    · rintro rfl
      have named := valid.node?_id found
      exact ⟨named ▸ found, named⟩

/-- An edge counts as dangling exactly if no node is found under its target. -/
theorem Valid.danglingCount_eq (valid : graph.Valid) :
    graph.danglingCount = graph.edges.countP fun edge => (graph.node? edge.target).isNone := by
  rw [danglingCount, edges, List.countP_map, List.countP_eq_length_filter]
  congr 1
  apply List.filter_congr
  rintro ⟨source, target, relation⟩ member
  obtain ⟨_, targetInside⟩ := valid.linked _ (Array.mem_toList_iff.mp member)
  -- The slot that the link leads to is the slot of the edge's target.
  have stored := Array.getElem?_eq_getElem targetInside
  have located := valid.slot?_eq_some_iff.mpr ⟨target, stored, rfl⟩
  simp only [Function.comp_apply, idAt, stored, Option.map_some, Option.getD_some, node?, located, Option.bind_some]
  cases graph.slots[target] <;> rfl

/-! ### Opening and filling slots -/

/-- A graph with one more slot at the end. -/
def opened (graph : Graph) (slot : Slot) : Graph :=
  { graph with slots := graph.slots.push slot, places := graph.places.insert slot.id graph.slots.size }

/-- A graph in which the slot at a place holds a node. -/
def filled (graph : Graph) (place : Nat) (node : Node) : Graph :=
  { graph with slots := graph.slots.setIfInBounds place (.known node) }

/-- One more slot takes the next place and leaves the ids of all others alone. -/
theorem idOf?_opened (slot : Slot) (place : Nat) :
    (graph.opened slot).idOf? place = if place = graph.slots.size then some slot.id else graph.idOf? place := by
  simp only [idOf?, opened, Array.getElem?_push]
  split <;> rfl

/-- One more slot is growth. -/
theorem grows_opened (slot : Slot) : Grows graph (graph.opened slot) := by
  intro place id named
  have inside := idOf?_isSome.mp (Option.isSome_iff_exists.mpr ⟨id, named⟩)
  rw [idOf?_opened, if_neg (by omega)]
  exact named

/-- A slot for a fresh id keeps the graph valid. -/
theorem Valid.opened (valid : graph.Valid) (slot : Slot) (fresh : graph.places[slot.id]? = none) :
    (graph.opened slot).Valid where
  placed := by
    intro id place
    rw [idOf?_opened]
    simp only [Graph.opened, Std.HashMap.getElem?_insert, beq_iff_eq]
    by_cases named : slot.id = id
    · -- The fresh id has had no place, so the new slot is its only one.
      subst named
      have absent : graph.idOf? place ≠ some slot.id := by
        intro stored
        rw [(valid.placed _ _).mpr stored] at fresh
        cases fresh
      by_cases last : place = graph.slots.size
      · simp [last]
      · simp [last, absent, Ne.symm last]
    · -- Another id is neither that of the new slot nor placed behind the old ones.
      rw [if_neg named, valid.placed]
      by_cases last : place = graph.slots.size
      · have outside : graph.idOf? place = none := by simp [idOf?, last]
        simp [last ▸ outside, last, named]
      · rw [if_neg last]
  linked := by
    intro link member
    obtain ⟨source, target⟩ := valid.linked link member
    simp only [Graph.opened, Array.size_push]
    omega

/-- A slot for a fresh id is found under that id alone. -/
theorem Valid.node?_opened (valid : graph.Valid) (slot : Slot) (fresh : graph.places[slot.id]? = none)
    (id : String) : (graph.opened slot).node? id = if id = slot.id then slot.node? else graph.node? id := by
  have validAfter := valid.opened slot fresh
  by_cases named : id = slot.id
  · subst named
    have located : (graph.opened slot).slot? slot.id = some slot :=
      validAfter.slot?_eq_some_iff.mpr ⟨graph.slots.size, by simp [Graph.opened], rfl⟩
    simp [node?, located]
  · have other : ¬slot.id = id := fun same => named same.symm
    rw [if_neg named]
    simp only [node?, slot?, Graph.opened, Std.HashMap.getElem?_insert, beq_iff_eq, if_neg other]
    -- The place of the other id lies before the new slot.
    cases located : graph.places[id]? with
    | none => rfl
    | some place =>
      have inside := idOf?_isSome.mp (Option.isSome_iff_exists.mpr ⟨id, (valid.placed id place).mp located⟩)
      simp only [Option.bind_some, Array.getElem?_push, if_neg (by omega : ¬place = graph.slots.size)]

/-- Filling the slot of a node's id changes no id. -/
theorem idOf?_filled {place : Nat} {node : Node} (named : graph.idOf? place = some node.id) (other : Nat) :
    (graph.filled place node).idOf? other = graph.idOf? other := by
  simp only [idOf?, filled, Array.getElem?_setIfInBounds] at named ⊢
  by_cases same : place = other
  · subst same
    have inside : place < graph.slots.size := idOf?_isSome.mp (Option.isSome_iff_exists.mpr ⟨_, named⟩)
    rw [named]
    simp [inside, Slot.id]
  · rw [if_neg same]

/-- Filling the slot of a node's id is growth. -/
theorem grows_filled {place : Nat} {node : Node} (named : graph.idOf? place = some node.id) :
    Grows graph (graph.filled place node) := by
  intro other id before
  rw [idOf?_filled named]
  exact before

/-- Filling the slot of a node's id keeps the graph valid. -/
theorem Valid.filled (valid : graph.Valid) {place : Nat} {node : Node} (named : graph.idOf? place = some node.id) :
    (graph.filled place node).Valid where
  placed := by
    intro id other
    -- The places are those of the ids, which have not changed.
    rw [idOf?_filled named]
    exact valid.placed id other
  linked := by
    intro link member
    simp only [Graph.filled, Array.size_setIfInBounds]
    exact valid.linked link member

/-- A filled slot shows its node, and no other id is concerned. -/
theorem Valid.node?_filled (valid : graph.Valid) {place : Nat} {node : Node}
    (named : graph.idOf? place = some node.id) (id : String) :
    (graph.filled place node).node? id = if id = node.id then some node else graph.node? id := by
  have located := (valid.placed _ _).mpr named
  have inside := idOf?_isSome.mp (Option.isSome_iff_exists.mpr ⟨_, named⟩)
  by_cases same : id = node.id
  · subst same
    simp [node?, slot?, Graph.filled, located, inside, Slot.node?]
  · rw [if_neg same]
    simp only [node?, slot?, Graph.filled]
    -- Different ids have different places.
    cases found : graph.places[id]? with
    | none => rfl
    | some other =>
      have apart : ¬place = other := by
        rintro rfl
        rw [valid.placed] at found
        exact same (Option.some.inj (found.symm.trans named))
      simp [Array.getElem?_setIfInBounds, apart]

/-! ### The operations -/

/-- The graph without nodes and edges is valid. -/
theorem valid_empty : Graph.empty.Valid where
  placed := by simp [empty, idOf?]
  linked := by simp [empty]

/-- Nothing is known in the graph without nodes. -/
@[simp] theorem node?_empty (id : String) : Graph.empty.node? id = none := by
  simp [empty, node?, slot?]

/-- There are no edges in the graph without edges. -/
@[simp] theorem edges_empty : Graph.empty.edges = [] := by
  simp [empty, edges]

/-- Offering a node opens a slot, fills one, or does nothing because the id is known. -/
theorem Valid.addNode_cases (valid : graph.Valid) (node : Node) :
    (graph.places[node.id]? = none ∧ graph.addNode node = (graph.opened (.known node), true)) ∨
    (∃ place, graph.idOf? place = some node.id ∧ graph.node? node.id = none ∧
      graph.addNode node = (graph.filled place node, true)) ∨
    (∃ known, graph.node? node.id = some known ∧ graph.addNode node = (graph, false)) := by
  cases located : graph.places[node.id]? with
  | none => exact Or.inl ⟨rfl, by simp only [addNode, located]; rfl⟩
  | some place =>
    have named := (valid.placed _ _).mp located
    have inside := idOf?_isSome.mp (Option.isSome_iff_exists.mpr ⟨_, named⟩)
    have stored := Array.getElem?_eq_getElem inside
    -- What the slot holds decides between filling it and refusing the node.
    cases content : graph.slots[place] with
    | unresolved id =>
      refine Or.inr (Or.inl ⟨place, named, ?_, ?_⟩)
      · simp [node?, slot?, located, stored, content, Slot.node?]
      · simp only [addNode, located, stored, content]
        rfl
    | known known =>
      refine Or.inr (Or.inr ⟨known, ?_, ?_⟩)
      · simp [node?, slot?, located, stored, content, Slot.node?]
      · simp [addNode, located, stored, content]

/-- Offering a node keeps the graph valid. -/
theorem Valid.addNode (valid : graph.Valid) (node : Node) : (graph.addNode node).1.Valid := by
  rcases valid.addNode_cases node with ⟨fresh, added⟩ | ⟨place, named, _, added⟩ | ⟨_, _, added⟩ <;> rw [added]
  · exact valid.opened _ fresh
  · exact valid.filled named
  · exact valid

/-- A node is accepted exactly if its id is not known yet. -/
theorem Valid.addNode_accepts (valid : graph.Valid) (node : Node) :
    (graph.addNode node).2 = (graph.node? node.id).isNone := by
  rcases valid.addNode_cases node with ⟨fresh, added⟩ | ⟨_, _, absent, added⟩ | ⟨known, found, added⟩ <;> rw [added]
  · simp [node?, slot?, fresh]
  · simp [absent]
  · simp [found]

/-- After a node was offered its id is known, by the node that was known before if there was one. -/
theorem Valid.node?_addNode (valid : graph.Valid) (node : Node) (id : String) :
    (graph.addNode node).1.node? id = (graph.node? id).or (if node.id = id then some node else none) := by
  rcases valid.addNode_cases node with ⟨fresh, added⟩ | ⟨place, named, absent, added⟩ | ⟨known, found, added⟩ <;>
    simp only [added]
  · -- A new slot for a new id: the node is found under its own id alone.
    rw [valid.node?_opened (.known node) fresh]
    by_cases same : node.id = id
    · subst same
      have absent : graph.node? node.id = none := by
        have unplaced : graph.places[node.id]? = none := fresh
        simp [node?, slot?, unplaced]
      simp [absent, Slot.id, Slot.node?]
    · simp [Slot.id, same, Ne.symm same]
  · -- A slot that was a placeholder: nothing was found under the id before.
    rw [valid.node?_filled named]
    by_cases same : node.id = id
    · subst same
      simp [absent]
    · simp [same, Ne.symm same]
  · -- The id was known, and its node stays.
    by_cases same : node.id = id
    · subst same
      simp [found]
    · simp [same]

/-- Offering a node changes no edge. -/
theorem Valid.edges_addNode (valid : graph.Valid) (node : Node) : (graph.addNode node).1.edges = graph.edges := by
  rcases valid.addNode_cases node with ⟨_, added⟩ | ⟨place, named, _, added⟩ | ⟨_, _, added⟩ <;> rw [added]
  · exact edges_of_grows valid (grows_opened _) rfl
  · exact edges_of_grows valid (grows_filled named) rfl

/-- Ensuring a slot opens one for an id without a place and finds the place otherwise. -/
theorem Valid.ensure_cases (valid : graph.Valid) (id : String) :
    (graph.places[id]? = none ∧ graph.ensure id = (graph.opened (.unresolved id), graph.slots.size)) ∨
    (∃ place, graph.idOf? place = some id ∧ graph.ensure id = (graph, place)) := by
  cases located : graph.places[id]? with
  | none => exact Or.inl ⟨rfl, by simp only [ensure, located]; rfl⟩
  | some place => exact Or.inr ⟨place, (valid.placed _ _).mp located, by simp [ensure, located]⟩

/-- An ensured slot keeps the graph valid. -/
theorem Valid.ensure (valid : graph.Valid) (id : String) : (graph.ensure id).1.Valid := by
  rcases valid.ensure_cases id with ⟨fresh, ensured⟩ | ⟨_, _, ensured⟩ <;> rw [ensured]
  · exact valid.opened _ fresh
  · exact valid

/-- Ensuring a slot is growth. -/
theorem Valid.grows_ensure (valid : graph.Valid) (id : String) : Grows graph (graph.ensure id).1 := by
  rcases valid.ensure_cases id with ⟨_, ensured⟩ | ⟨_, _, ensured⟩ <;> rw [ensured]
  · exact grows_opened _
  · exact fun _ _ named => named

/-- The ensured slot has the id that was asked for. -/
theorem Valid.idOf?_ensure (valid : graph.Valid) (id : String) :
    (graph.ensure id).1.idOf? (graph.ensure id).2 = some id := by
  rcases valid.ensure_cases id with ⟨_, ensured⟩ | ⟨place, named, ensured⟩ <;> rw [ensured]
  · simp [idOf?_opened, Slot.id]
  · exact named

/-- Ensuring a slot adds no link. -/
theorem Valid.links_ensure (valid : graph.Valid) (id : String) : (graph.ensure id).1.links = graph.links := by
  rcases valid.ensure_cases id with ⟨_, ensured⟩ | ⟨_, _, ensured⟩ <;> rw [ensured]
  rfl

/-- Ensuring a slot makes nothing known. -/
theorem Valid.node?_ensure (valid : graph.Valid) (id other : String) :
    (graph.ensure id).1.node? other = graph.node? other := by
  rcases valid.ensure_cases id with ⟨fresh, ensured⟩ | ⟨_, _, ensured⟩ <;> simp only [ensured]
  rw [valid.node?_opened (.unresolved id) fresh]
  by_cases same : other = id
  · subst same
    simp [node?, slot?, fresh, Slot.node?]
  · simp [Slot.id, same]

/-- Adding an edge links the slots of its ends, which are ensured one after the other. -/
theorem addEdge_eq (edge : Edge) :
    graph.addEdge edge =
      let sourced := graph.ensure edge.source
      let targeted := sourced.1.ensure edge.target
      { targeted.1 with links := targeted.1.links.push (sourced.2, targeted.2, edge.relation) } := rfl

/-- Adding an edge keeps the graph valid. -/
theorem Valid.addEdge (valid : graph.Valid) (edge : Edge) : (graph.addEdge edge).Valid where
  placed := ((valid.ensure edge.source).ensure edge.target).placed
  linked := by
    have validSource := valid.ensure edge.source
    have validTarget := validSource.ensure edge.target
    intro link member
    rw [addEdge_eq] at member ⊢
    rcases Array.mem_push.mp member with old | new
    · exact validTarget.linked link old
    · -- The source keeps its place while the slot of the target is ensured.
      subst new
      have source := validSource.grows_ensure edge.target _ _ (valid.idOf?_ensure edge.source)
      have target := validSource.idOf?_ensure edge.target
      exact ⟨idOf?_isSome.mp (Option.isSome_iff_exists.mpr ⟨_, source⟩),
        idOf?_isSome.mp (Option.isSome_iff_exists.mpr ⟨_, target⟩)⟩

/-- Adding an edge makes nothing known. -/
theorem Valid.node?_addEdge (valid : graph.Valid) (edge : Edge) (id : String) :
    (graph.addEdge edge).node? id = graph.node? id := by
  -- Links play no part in the search for a node.
  have targeted := (valid.ensure edge.source).node?_ensure edge.target id
  rw [valid.node?_ensure] at targeted
  exact targeted

/-- An added edge comes last, with the ends that it was given. -/
theorem Valid.edges_addEdge (valid : graph.Valid) (edge : Edge) :
    (graph.addEdge edge).edges = graph.edges ++ [edge] := by
  have validSource := valid.ensure edge.source
  have source := validSource.grows_ensure edge.target _ _ (valid.idOf?_ensure edge.source)
  have target := validSource.idOf?_ensure edge.target
  -- The edges before stay, because both ensured slots are growth without links.
  have kept : ((graph.ensure edge.source).1.ensure edge.target).1.edges = graph.edges :=
    (edges_of_grows validSource (validSource.grows_ensure _) (validSource.links_ensure _)).trans
      (edges_of_grows valid (valid.grows_ensure _) (valid.links_ensure _))
  simp only [idOf?] at source target
  simp only [edges, idAt] at kept ⊢
  simp [addEdge_eq, kept, source, target]

end LayerAudit.Graph
