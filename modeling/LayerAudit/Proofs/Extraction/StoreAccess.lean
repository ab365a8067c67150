import LayerAudit.Extraction.Store
import LayerAudit.Proofs.Tree.Laying
import LayerAudit.Script.Repair
import LayerAudit.Script.Written
import Mathlib

/-!
One walk through the body of a getter or an action notes the places that are written to and tells reads from writes at
the same time. It finds what two passes would: the first one collects all places that are written to, and the second
one takes every node by itself. This holds because children are laid down before their parents and a walk meets them
behind their parents, so that it meets every assignment before its target.
-/

namespace LayerAudit

open Script SyntaxTree

/-- The place that an assignment or an update writes to. -/
def Shape.target? : Shape → Option Nat
  | .assignment target _ | .update target => some target
  | _ => none

/-- What is written to is a child of the node that writes. -/
theorem Shape.mem_children_of_target? {shape : Shape} {target : Nat} (writes : shape.target? = some target) :
    target ∈ shape.children := by
  cases shape with
  | assignment left value =>
    cases writes
    exact List.mem_cons_self ..
  | update argument =>
    cases writes
    exact List.mem_singleton_self _
  | _ => cases writes

namespace SyntaxTree

/-- The place that the node at a place writes to. -/
def targetAt? (tree : SyntaxTree) (place : Nat) : Option Nat := (tree.shape? place).bind Shape.target?

/-- The places that some nodes write to. -/
def targets (tree : SyntaxTree) (places : List Nat) : List Nat := places.filterMap tree.targetAt?

/-- What the node at a place writes to is one of its children. -/
theorem mem_childrenAt_of_targetAt? {tree : SyntaxTree} {place target : Nat}
    (writes : tree.targetAt? place = some target) : target ∈ childrenAt tree.nodes place := by
  obtain ⟨shape, found, isTarget⟩ := Option.bind_eq_some_iff.mp writes
  rw [childrenAt_of_shape? found]
  exact Shape.mem_children_of_target? isTarget

/-- The places that nodes write to come in the order of the nodes. -/
theorem targets_cons (tree : SyntaxTree) (place : Nat) (rest : List Nat) :
    tree.targets (place :: rest) = (tree.targetAt? place).toList ++ tree.targets rest := by
  cases written : tree.targetAt? place <;> simp [targets, written]

end SyntaxTree

namespace Store

namespace Body

/-! ### Two passes -/

/-- The edge that one node of a body gives, when it is known which places are written to. -/
def edgeAt? (body : Body) (tree : SyntaxTree) (written : List Nat) (place : Nat) : Option Edge :=
  match tree.shape? place with
  -- A use of the receiver's property counts if the property is a field of the state.
  | some (.member receiver property) =>
    if body.isReceiver tree receiver ∧ property ∈ body.members.state then
      let relation := if place ∈ written then .modifiesState else .readsState
      some ⟨body.id, SymbolNode.scopedId .stateField body.members.store property, relation⟩
    else none
  -- A call counts if its callee is a property of the receiver that is another action.
  | some (.call callee _) =>
    match tree.shape? callee with
    | some (.member receiver property) =>
      if body.isReceiver tree receiver ∧ property ∈ body.members.actions.map (·.1) ∧ property ≠ body.name then
        some ⟨body.id, SymbolNode.scopedId .action body.members.store property, .calls⟩
      else none
    | _ => none
  | _ => none

/-- Only whether the place itself is written to counts. -/
theorem edgeAt?_congr {body : Body} {tree : SyntaxTree} {written others : List Nat} {place : Nat}
    (same : place ∈ written ↔ place ∈ others) : body.edgeAt? tree written place = body.edgeAt? tree others place := by
  simp only [edgeAt?, same]

/-! ### One pass -/

variable {body : Body} {tree : SyntaxTree} {roots : List Nat}

/-- Meeting a node notes the place that it writes to. -/
theorem written_carriedOn (found : Found) (place : Nat) :
    (tree.carriedOn (body.meet tree) found place).written = (tree.targetAt? place).toList ++ found.written := by
  unfold carriedOn targetAt?
  cases tree.shape? place with
  | none => rfl
  | some shape =>
    -- Only assignments and updates have a target. The other nodes leave what is noted as it is.
    cases shape with
    | assignment | update => rfl
    | member receiver property =>
      simp only [Option.getD_some, meet]
      -- The uses of a receiver add edges only.
      split <;> rfl
    | call callee arguments =>
      simp only [Option.getD_some, meet]
      split
      · split <;> rfl
      · rfl
    | _ => rfl

/-- Meeting a node adds the edge that it gives when the places noted so far are those written to. -/
theorem edges_carriedOn (found : Found) (place : Nat) :
    (tree.carriedOn (body.meet tree) found place).edges =
      (body.edgeAt? tree found.written place).toList ++ found.edges := by
  unfold carriedOn edgeAt?
  cases tree.shape? place with
  | none => rfl
  | some shape =>
    cases shape with
    | member receiver property =>
      -- A field of the state is read or changed, and any other property is passed over.
      by_cases isReceiver : body.isReceiver tree receiver <;> by_cases isField : property ∈ body.members.state <;>
        simp [meet, stateUse?, isReceiver, isField]
    | call callee arguments =>
      simp only [Option.getD_some, meet]
      cases tree.shape? callee with
      | none => rfl
      | some called =>
        -- The callee is a node of its own, read at its place.
        cases called with
        | member receiver property =>
          -- The two tests are written in different orders.
          have isOther : (property != body.name && (body.members.actions.map (·.1)).contains property) = true ↔
              property ∈ body.members.actions.map (·.1) ∧ property ≠ body.name := by
            rw [Bool.and_eq_true, bne_iff_ne, List.contains_iff_mem, and_comm]
          by_cases isReceiver : body.isReceiver tree receiver
          · simp only [isReceiver, if_true, callOf?, isOther, true_and]
          · simp only [isReceiver, Bool.false_eq_true, if_false, false_and]
            rfl
        | _ => rfl
    | _ => rfl

/-- Nodes that are met before the places that they write to give the edges of two passes. -/
theorem edges_foldl_meet (places : List Nat) (found : Found)
    (ordered : places.Pairwise fun earlier later => earlier ∉ childrenAt tree.nodes later)
    (irreflexive : ∀ place ∈ places, place ∉ childrenAt tree.nodes place) :
    (places.foldl (tree.carriedOn (body.meet tree)) found).edges.reverse =
      found.edges.reverse ++ places.filterMap (body.edgeAt? tree (found.written ++ tree.targets places)) := by
  -- The induction is on the places; what was noted before is arbitrary.
  induction places generalizing found with
  | nil => simp
  | cons place rest ih =>
    obtain ⟨unwritten, ordered⟩ := List.pairwise_cons.mp ordered
    -- Neither the place itself nor a later one writes to this place, so all that counts here is noted already.
    have noted : place ∈ found.written ++ tree.targets (place :: rest) ↔ place ∈ found.written := by
      rw [List.mem_append, or_iff_left]
      intro written
      obtain ⟨writer, listed, isTarget⟩ := List.mem_filterMap.mp written
      have isChild := mem_childrenAt_of_targetAt? isTarget
      rcases List.mem_cons.mp listed with rfl | later
      · exact irreflexive writer (List.mem_cons_self ..) isChild
      · exact unwritten writer later isChild
    -- The rest finds noted what was noted before and what this place writes to.
    have same (other : Nat) : body.edgeAt? tree
        ((tree.carriedOn (body.meet tree) found place).written ++ tree.targets rest) other =
          body.edgeAt? tree (found.written ++ tree.targets (place :: rest)) other := by
      refine edgeAt?_congr ?_
      rw [written_carriedOn, targets_cons]
      simp only [List.mem_append, or_assoc, or_left_comm]
    rw [List.foldl_cons, ih _ ordered fun other member => irreflexive other (List.mem_cons_of_mem _ member),
      edges_carriedOn, List.filterMap_congr fun other _ => same other, List.filterMap_cons, edgeAt?_congr noted]
    cases body.edgeAt? tree found.written place <;> simp

/-- In a forest one pass over a body gives the edges of two. -/
theorem edges_eq_twoPass (forest : Forest tree.nodes roots) {start : Nat} (inside : start < tree.nodes.size) :
    body.edges tree start = (preorder tree.nodes start).filterMap
      (body.edgeAt? tree (tree.targets (preorder tree.nodes start))) := by
  have irreflexive : ∀ place ∈ preorder tree.nodes start, place ∉ childrenAt tree.nodes place := by
    intro place _ isChild
    exact Nat.lt_irrefl place (forest.descending place place isChild)
  -- All nodes are entered, so that the walk folds over what lies below its start in pre-order.
  rw [edges, visitFrom_eq_foldl forest (fun _ _ _ => rfl) inside]
  -- At first nothing is noted and no edge is found.
  exact edges_foldl_meet _ {} (forest.pairwise_preorder inside) irreflexive

/-- A call leads from a member to an action with another name. -/
theorem calls_of_edgeAt? {written : List Nat} {place : Nat} {edge : Edge}
    (gives : body.edgeAt? tree written place = some edge) (calls : edge.relation = .calls) :
    ∃ action ≠ body.name, edge = ⟨body.id, SymbolNode.scopedId .action body.members.store action, .calls⟩ := by
  unfold edgeAt? at gives
  split at gives
  · -- A use of a field is no call.
    simp only [Option.ite_none_right_eq_some, Option.some.injEq] at gives
    obtain ⟨_, rfl⟩ := gives
    split at calls <;> cases calls
  · split at gives
    · rename_i receiver property _
      simp only [Option.ite_none_right_eq_some, Option.some.injEq] at gives
      obtain ⟨⟨_, _, other⟩, rfl⟩ := gives
      exact ⟨property, other, rfl⟩
    · cases gives
  · cases gives

end Body

/-! ### Getters and actions -/

/-- No member of a store has the id of an action with another name. -/
theorem scopedId_ne_action {name action : String} (kind : SymbolKind) (scope : String) (other : action ≠ name) :
    SymbolNode.scopedId kind scope name ≠ SymbolNode.scopedId .action scope action := by
  intro same
  have letters := congrArg String.toList same
  -- The sections of two kinds differ in a letter, and behind the same section come the names.
  cases kind <;> simp [SymbolNode.scopedId, SymbolKind.sectionName] at letters
  exact other (String.toList_inj.mp letters.symm)

/-- The body of a getter or an action with some parameters. A getter may see the store through the first of them. -/
def bodyOf (members : Members) (kind : SymbolKind) (name : String) (parameters : List String) : Body :=
  ⟨members, SymbolNode.scopedId kind members.store name, name, if kind = .getter then parameters.head? else none⟩

/-- The edges from a getter or an action that is a function are those from its body. -/
theorem memberEdges_function {tree : SyntaxTree} {entry : String × Nat} {parameters : List String} {start : Nat}
    (isFunction : tree.shape? entry.2 = some (.function parameters start)) (members : Members) (kind : SymbolKind) :
    memberEdges tree members kind entry = (bodyOf members kind entry.1 parameters).edges tree start := by
  rw [memberEdges, isFunction]
  rfl

/-- The edges from a getter or an action of a store are those of two passes over the nodes of its body: a use of a state
field changes the field if any node of the body writes to that very place, and reads it otherwise, and a call of an
action with another name than the member's is a call. Every node of the body is taken once, in pre-order, and no call
leads from a member to itself. -/
theorem memberEdges_twoPass (text : String) (root : Cst) (tags : List (String × Span)) (members : Members)
    (kind : SymbolKind) (entry : String × Nat) (parameters : List String) (start : Nat)
    (isFunction : (Tree.ofScript text root tags).shape? entry.2 = some (.function parameters start)) :
    let tree := Tree.ofScript text root tags
    let body := bodyOf members kind entry.1 parameters
    let places := preorder tree.nodes start
    memberEdges tree members kind entry = places.filterMap (body.edgeAt? tree (tree.targets places)) ∧
      places = tree.walk start ∧ places.Nodup ∧
      ∀ edge ∈ memberEdges tree members kind entry, edge.relation = .calls → edge.source ≠ edge.target := by
  intro tree body places
  have forest : Forest tree.nodes tree.roots := Tree.ofScript_forest text root tags
  -- The body is a child of the function, so that it is a place of the tree.
  have inside : start < tree.nodes.size :=
    ((isForest_of_forest forest).child_lt entry.2 _ isFunction start (List.mem_singleton_self start)).2
  have twoPass : memberEdges tree members kind entry = places.filterMap (body.edgeAt? tree (tree.targets places)) := by
    rw [memberEdges_function isFunction]
    exact Body.edges_eq_twoPass forest inside
  refine ⟨twoPass, (walk_eq_preorder forest inside).symm, forest.nodup_preorder inside, ?_⟩
  intro edge member calls
  -- A call leads to an action with another name, and names tell the ids of members apart.
  rw [twoPass] at member
  obtain ⟨place, _, gives⟩ := List.mem_filterMap.mp member
  obtain ⟨action, other, rfl⟩ := Body.calls_of_edgeAt? gives calls
  exact scopedId_ne_action kind members.store other

/-- A function that copies a field of its store to itself, and calls another action and itself. -/
def copyingText : String := "function go() { this.n = this.n; this.stop(); this.go() }"

/-- The tree of the function. -/
def copyingScript : Cst :=
  .node .program 0 57
    [.declared 57 (.leaf .identifier 9 11) (.listed .construct 11 13 [])
      (.bodyOver 14 57
        [.ended (.assigned (.ownProperty 16 22) (.ownProperty 25 31)) 32,
          .ended (.callOf (.ownProperty 33 42) 44 []) 45, .ended (.callOf (.ownProperty 46 53) 55 []) 55])]

/-- The store of this function. -/
def copyingStore : Members := ⟨"s", ["n"], [], [("go", 15), ("stop", 0)]⟩

/-- The function changes the field, reads it, and calls the other action. Its call of itself gives no edge. -/
theorem memberEdges_twoPass_copying :
    Script.parseStrict copyingText = .ok copyingScript ∧
      (Tree.ofScript copyingText copyingScript []).shape? 15 = some (.function [] 14) ∧
      memberEdges (Tree.ofScript copyingText copyingScript []) copyingStore .action ("go", 15) =
        [⟨"s#actions.go", "s#state.n", .modifiesState⟩, ⟨"s#actions.go", "s#state.n", .readsState⟩,
          ⟨"s#actions.go", "s#actions.stop", .calls⟩] := by
  have isFunction : (Tree.ofScript copyingText copyingScript []).shape? 15 = some (.function [] 14) := by cbv
  refine ⟨by decide +kernel, isFunction, ?_⟩
  -- The theorem gives the two passes, which are evaluated on the tree.
  rw [(memberEdges_twoPass copyingText copyingScript [] copyingStore .action ("go", 15) [] 14 isFunction).1]
  cbv

end Store

end LayerAudit
