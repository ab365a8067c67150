import LayerAudit.Tree.Basic
import Mathlib.Data.List.Induction
import Mathlib.Data.List.Nodup
import Mathlib.Data.List.Perm.Basic

/-!
Arrays of nodes that are forests: every node has one place among the children of all nodes, or is a root. A walk from
the roots of a forest meets every node once.
-/

namespace LayerAudit.SyntaxTree

open Script (Span)

/-! ### Forests -/

/-- The children of the node at a place. -/
def childrenAt (nodes : Array TreeNode) (place : Nat) : List Nat :=
  (nodes[place]?.map (·.shape.children)).getD []

/-- The children of all nodes, as often as they are children. -/
def allChildren (nodes : Array TreeNode) : List Nat := nodes.toList.flatMap (·.shape.children)

/-- The nodes form a forest with some roots. -/
structure Forest (nodes : Array TreeNode) (roots : List Nat) : Prop where
  /-- Children are laid down before their parents. -/
  descending : ∀ place, ∀ child ∈ childrenAt nodes place, child < place
  /-- Every place occurs once among the children and the roots. -/
  owned : (allChildren nodes ++ roots).Perm (List.range nodes.size)

/-- The places at and below a place, each node before those below it. Nothing lies below a node that does not come
before it. -/
def preorder (nodes : Array TreeNode) (place : Nat) : List Nat :=
  place :: (childrenAt nodes place).flatMap fun child => if _below : child < place then preorder nodes child else []
termination_by place

/-- The places where the script and, if there is one, the template of a tree begin. -/
def roots (tree : SyntaxTree) : List Nat := tree.program :: tree.template.toList

variable {nodes : Array TreeNode} {roots : List Nat} {shape : Shape} {span : Span}

/-- A node behind all others leaves them where they are. -/
theorem getElem?_push_of_some {node stored : TreeNode} {place : Nat} (found : nodes[place]? = some stored) :
    (nodes.push node)[place]? = some stored := by
  rw [Array.getElem?_push_lt (Array.getElem?_eq_some_iff.mp found).1]
  exact (Array.getElem?_eq_getElem _).symm.trans found

/-- The last node keeps its children. -/
theorem childrenAt_push_size (node : TreeNode) : childrenAt (nodes.push node) nodes.size = node.shape.children := by
  simp [childrenAt]

/-- A node behind all others changes nothing at their places. -/
theorem childrenAt_push_of_ne (node : TreeNode) {place : Nat} (other : place ≠ nodes.size) :
    childrenAt (nodes.push node) place = childrenAt nodes place := by
  simp only [childrenAt, Array.getElem?_push, if_neg other]

/-- The children of a node behind all others come last. -/
theorem allChildren_push (node : TreeNode) :
    allChildren (nodes.push node) = allChildren nodes ++ node.shape.children := by
  simp [allChildren]

/-- The children of a node are among those of all nodes. -/
theorem mem_allChildren {place child : Nat} (member : child ∈ childrenAt nodes place) : child ∈ allChildren nodes := by
  unfold childrenAt at member
  cases found : nodes[place]? with
  | none =>
    -- A place without a node has no children.
    simp [found] at member
  | some node =>
    -- A place with a node lists exactly the children of that node.
    simp only [found, Option.map_some, Option.getD_some] at member
    exact List.mem_flatMap.mpr ⟨node, Array.mem_toList_iff.mpr (Array.mem_of_getElem? found), member⟩

/-- No nodes are a forest without roots. -/
theorem forest_empty : Forest #[] [] := by
  constructor
  · intro place child member
    simp [childrenAt] at member
  · exact List.Perm.refl []

namespace Forest

/-- Roots count in any order. -/
theorem perm (forest : Forest nodes roots) {others : List Nat} (same : roots.Perm others) : Forest nodes others :=
  ⟨forest.descending, (same.symm.append_left _).trans forest.owned⟩

/-- Every root is the place of a node. -/
theorem root_lt (forest : Forest nodes roots) {root : Nat} (isRoot : root ∈ roots) : root < nodes.size :=
  List.mem_range.mp (forest.owned.mem_iff.mp (List.mem_append_right _ isRoot))

/-- A node behind all others takes some of the roots as its children, and is a root in their place. -/
theorem push {others : List Nat} (forest : Forest nodes (shape.children ++ others)) :
    Forest (nodes.push ⟨shape, span⟩) (nodes.size :: others) := by
  constructor
  · intro place child member
    by_cases last : place = nodes.size
    · -- The children of the new node are roots of the earlier forest.
      subst last
      rw [childrenAt_push_size] at member
      exact forest.root_lt (List.mem_append_left _ member)
    · -- All others have the children that they had.
      rw [childrenAt_push_of_ne _ last] at member
      exact forest.descending place child member
  · rw [allChildren_push, Array.size_push, List.range_succ]
    -- The new place comes behind all that were owned before.
    calc allChildren nodes ++ shape.children ++ nodes.size :: others
        _ = allChildren nodes ++ shape.children ++ ([nodes.size] ++ others) := rfl
        _ |>.Perm (allChildren nodes ++ shape.children ++ (others ++ [nodes.size])) :=
          List.perm_append_comm.append_left _
        _ = allChildren nodes ++ (shape.children ++ others) ++ [nodes.size] := by simp only [List.append_assoc]
        _ |>.Perm (List.range nodes.size ++ [nodes.size]) := forest.owned.append_right _

/-- Without its last node a forest has the children of that node as roots. -/
theorem of_push {node : TreeNode} (forest : Forest (nodes.push node) roots) :
    ∃ others, roots.Perm (nodes.size :: others) ∧ Forest nodes (node.shape.children ++ others) := by
  -- No node has the last one as a child, since every child comes before its parent.
  have isRoot : nodes.size ∈ roots := by
    have listed : nodes.size ∈ allChildren (nodes.push node) ++ roots :=
      forest.owned.mem_iff.mpr (List.mem_range.mpr (by simp))
    refine (List.mem_append.mp listed).resolve_left fun isChild => ?_
    obtain ⟨parent, stored, member⟩ := List.mem_flatMap.mp isChild
    obtain ⟨place, within, here⟩ := List.mem_iff_getElem.mp stored
    have own : childrenAt (nodes.push node) place = parent.shape.children := by
      have found : (nodes.push node)[place]? = some parent := by
        rw [← Array.getElem?_toList, List.getElem?_eq_getElem within, here]
      simp [childrenAt, found]
    -- Such a parent would have a place behind the last one.
    have before := forest.descending place nodes.size (own ▸ member)
    have inside : place < nodes.size + 1 := by simpa using within
    omega
  refine ⟨roots.erase nodes.size, List.perm_cons_erase isRoot, ?_, ?_⟩
  · intro place child member
    by_cases last : place = nodes.size
    · -- The last place itself has no node left.
      simp [childrenAt, last] at member
    · exact forest.descending place child (by rwa [childrenAt_push_of_ne _ last])
  · -- Both sides of the count lose the last place.
    have owned := forest.owned
    rw [allChildren_push, Array.size_push, List.range_succ] at owned
    have moved : (allChildren nodes ++ (node.shape.children ++ roots.erase nodes.size) ++ [nodes.size]).Perm
        (allChildren nodes ++ node.shape.children ++ roots) := by
      simp only [List.append_assoc]
      refine (List.Perm.append_left _ ?_).append_left _
      exact List.perm_append_comm.trans (List.perm_cons_erase isRoot).symm
    exact (List.perm_append_right_iff _).mp (moved.trans owned)

/-- A place occurs among the children of all nodes once, or not at all if it is a root. -/
theorem count_allChildren (forest : Forest nodes roots) {place : Nat} (inside : place < nodes.size) :
    (allChildren nodes).count place = if place ∈ roots then 0 else 1 := by
  -- The places of all nodes are owned once, as the range counts each of them once.
  have once : (allChildren nodes ++ roots).count place = 1 := by
    rw [forest.owned.count_eq]
    exact List.count_eq_one_of_mem List.nodup_range (List.mem_range.mpr inside)
  -- The one place is either among the roots or among the children.
  rw [List.count_append] at once
  split
  · rename_i isRoot
    have present := List.count_pos_iff.mpr isRoot
    omega
  · rename_i notRoot
    have absent := List.count_eq_zero_of_not_mem notRoot
    omega

/-- No place is a child twice, neither of one node nor of two. -/
theorem nodup_allChildren (forest : Forest nodes roots) : (allChildren nodes).Nodup :=
  (forest.owned.nodup_iff.mpr List.nodup_range).of_append_left

/-- No place is twice a child of one node. -/
theorem nodup_childrenAt (forest : Forest nodes roots) (place : Nat) : (childrenAt nodes place).Nodup := by
  unfold childrenAt
  cases found : nodes[place]? with
  | none => exact List.nodup_nil
  | some node =>
    have stored : node ∈ nodes.toList := Array.mem_toList_iff.mpr (Array.mem_of_getElem? found)
    -- The children of one node are a part of all children, in which nothing comes twice.
    exact (List.nodup_flatMap.mp forest.nodup_allChildren).1 node stored

/-- A place is the child of one node at most. -/
theorem parent_unique (forest : Forest nodes roots) {first second child : Nat}
    (ofFirst : child ∈ childrenAt nodes first) (ofSecond : child ∈ childrenAt nodes second) : first = second := by
  have apart := List.pairwise_iff_getElem.mp (List.nodup_flatMap.mp forest.nodup_allChildren).2
  -- What has a child is a node.
  have stored {place : Nat} (isChild : child ∈ childrenAt nodes place) :
      ∃ inside : place < nodes.toList.length, child ∈ (nodes.toList[place]).shape.children := by
    unfold childrenAt at isChild
    cases found : nodes[place]? with
    | none => simp [found] at isChild
    | some node =>
      obtain ⟨inside, rfl⟩ := Array.getElem?_eq_some_iff.mp found
      exact ⟨inside, by simpa [found] using isChild⟩
  obtain ⟨inFirst, isFirst⟩ := stored ofFirst
  obtain ⟨inSecond, isSecond⟩ := stored ofSecond
  -- Two different parents would both list the child, and the lists of different nodes are apart.
  rcases Nat.lt_trichotomy first second with before | same | behind
  · exact absurd isSecond (apart first second inFirst inSecond before isFirst)
  · exact same
  · exact absurd isFirst (apart second first inSecond inFirst behind isSecond)

end Forest

/-! ### What lies below a place -/

/-- A place comes before all that lies below its children. -/
theorem preorder_eq (forest : Forest nodes roots) (place : Nat) :
    preorder nodes place = place :: (childrenAt nodes place).flatMap (preorder nodes) := by
  rw [preorder]
  -- The test in the definition never fails in a forest.
  refine congrArg _ (List.flatMap_congr fun child member => ?_)
  rw [dif_pos (forest.descending place child member)]

/-- Where all nodes are kept, nothing changes below their places. -/
theorem preorder_kept {after : Array TreeNode}
    (kept : ∀ (place : Nat) (node : TreeNode), nodes[place]? = some node → after[place]? = some node) {place : Nat}
    (inside : place < nodes.size) : preorder after place = preorder nodes place := by
  -- The induction goes down to the children, which come before their node.
  induction place using Nat.strongRecOn with
  | _ place ih =>
    have stored : nodes[place]? = some nodes[place] := Array.getElem?_eq_getElem inside
    have same : childrenAt after place = childrenAt nodes place := by
      rw [childrenAt, childrenAt, kept place _ stored, stored]
    rw [preorder, preorder, same]
    refine congrArg _ (List.flatMap_congr fun child _ => ?_)
    split
    · rename_i below
      exact ih child below (Nat.lt_trans below inside)
    · rfl

/-- A node behind all others changes nothing below their places. -/
theorem preorder_push (node : TreeNode) {place : Nat} (inside : place < nodes.size) :
    preorder (nodes.push node) place = preorder nodes place :=
  preorder_kept (fun _ _ found => getElem?_push_of_some found) inside

/-- At and below the roots of a forest every place lies once. -/
theorem Forest.preorder_perm (forest : Forest nodes roots) :
    (roots.flatMap (preorder nodes)).Perm (List.range nodes.size) := by
  -- The induction is on the nodes from their end: the last one is a root, and its children are roots before it.
  obtain ⟨list⟩ := nodes
  induction list using List.reverseRecOn generalizing roots with
  | nil =>
    have none : roots = [] := by simpa [allChildren] using forest.owned
    simp [none]
  | append_singleton rest node ih =>
    have pushed : (⟨rest ++ [node]⟩ : Array TreeNode) = Array.push ⟨rest⟩ node := (List.push_toArray rest node).symm
    rw [pushed] at forest ⊢
    generalize (⟨rest⟩ : Array TreeNode) = nodes at forest ih ⊢
    obtain ⟨others, split, earlier⟩ := forest.of_push
    -- Below the roots that were there before, the last node changes nothing.
    have older {place : Nat} (isRoot : place ∈ node.shape.children ++ others) :
        preorder (nodes.push node) place = preorder nodes place :=
      preorder_push node (earlier.root_lt isRoot)
    have last : preorder (nodes.push node) nodes.size =
        nodes.size :: node.shape.children.flatMap (preorder nodes) := by
      rw [preorder_eq forest, childrenAt_push_size]
      exact congrArg _ (List.flatMap_congr fun child member => older (List.mem_append_left _ member))
    have behind : others.flatMap (preorder (nodes.push node)) = others.flatMap (preorder nodes) :=
      List.flatMap_congr fun place member => older (List.mem_append_right _ member)
    calc roots.flatMap (preorder (nodes.push node))
        _ |>.Perm ((nodes.size :: others).flatMap (preorder (nodes.push node))) := split.flatMap_right _
        _ = nodes.size :: (node.shape.children ++ others).flatMap (preorder nodes) := by
          rw [List.flatMap_cons, last, behind, List.flatMap_append, List.cons_append]
        _ |>.Perm (nodes.size :: List.range nodes.size) := (ih earlier).cons _
        _ |>.Perm (List.range nodes.size ++ [nodes.size]) := (List.perm_append_singleton _ _).symm
        _ = List.range (nodes.push node).size := by rw [Array.size_push, List.range_succ]

/-- What lies at and below a place does not come behind it. -/
theorem le_of_mem_preorder (forest : Forest nodes roots) {place other : Nat} (member : other ∈ preorder nodes place) :
    other ≤ place := by
  -- The induction goes down to the children, which come before their node.
  induction place using Nat.strongRecOn with
  | _ place ih =>
    rw [preorder_eq forest] at member
    rcases List.mem_cons.mp member with rfl | below
    · -- The place itself is not behind itself.
      exact Nat.le_refl _
    · obtain ⟨child, isChild, inside⟩ := List.mem_flatMap.mp below
      have early := forest.descending place child isChild
      exact Nat.le_trans (ih child early inside) (Nat.le_of_lt early)

/-- What lies at and below a place lies together where that place lies. -/
theorem preorder_together (forest : Forest nodes roots) {above place : Nat} (member : place ∈ preorder nodes above) :
    preorder nodes place <:+: preorder nodes above := by
  induction above using Nat.strongRecOn with
  -- Either the place is the one above, or it lies in what a child of that one shows.
  | _ above ih =>
    rw [preorder_eq forest above] at member
    rcases List.mem_cons.mp member with rfl | below
    · exact List.infix_rfl
    · -- The place lies at or below some child, and all that lies there comes together.
      rw [preorder_eq forest above]
      obtain ⟨child, isChild, inside⟩ := List.mem_flatMap.mp below
      obtain ⟨before, behind, split⟩ := List.append_of_mem isChild
      have here : preorder nodes child <:+: (childrenAt nodes above).flatMap (preorder nodes) :=
        ⟨before.flatMap (preorder nodes), behind.flatMap (preorder nodes), by simp [split]⟩
      have low := ih child (forest.descending above child isChild) inside
      exact low.trans (here.trans (List.suffix_cons _ _).isInfix)

/-- Below a place of a forest no place lies twice. -/
theorem Forest.nodup_preorder (forest : Forest nodes roots) {place : Nat} (inside : place < nodes.size) :
    (preorder nodes place).Nodup := by
  -- The place lies at or below some root, and below the roots every place lies once.
  have distinct := forest.preorder_perm.nodup_iff.mpr List.nodup_range
  obtain ⟨root, isRoot, member⟩ := List.mem_flatMap.mp (forest.preorder_perm.mem_iff.mpr (List.mem_range.mpr inside))
  exact ((List.nodup_flatMap.mp distinct).1 root isRoot).sublist (preorder_together forest member).sublist

/-- At and below a place lie the children of all that lies there. -/
theorem child_mem_preorder (forest : Forest nodes roots) {place parent child : Nat}
    (member : parent ∈ preorder nodes place) (isChild : child ∈ childrenAt nodes parent) :
    child ∈ preorder nodes place := by
  -- What lies at the parent lies together inside, and the child comes in it directly behind the parent.
  refine (preorder_together forest member).subset ?_
  rw [preorder_eq forest]
  refine List.mem_cons_of_mem _ (List.mem_flatMap.mpr ⟨child, isChild, ?_⟩)
  rw [preorder_eq forest]
  exact List.mem_cons_self ..

/-- In pre-order a node comes before its children. -/
theorem Forest.pairwise_preorder (forest : Forest nodes roots) {place : Nat} (inside : place < nodes.size) :
    (preorder nodes place).Pairwise fun earlier later => earlier ∉ childrenAt nodes later := by
  induction place using Nat.strongRecOn with
  | _ place ih =>
    have distinct := forest.nodup_preorder inside
    rw [preorder_eq forest] at distinct ⊢
    rw [List.pairwise_cons, List.pairwise_flatMap]
    refine ⟨?_, ?_, ?_⟩
    · -- All that lies below comes before the place in the array, and its children even more so.
      intro later below isChild
      obtain ⟨child, listed, member⟩ := List.mem_flatMap.mp below
      have early := forest.descending place child listed
      have notBehind := le_of_mem_preorder forest member
      have back := forest.descending later place isChild
      omega
    · -- Below one child the hypothesis for that child is enough.
      intro child listed
      have early := forest.descending place child listed
      exact ih child early (Nat.lt_trans early inside)
    · -- What lies below two children is distinct, so that neither has a child below the other.
      refine (List.nodup_flatMap.mp (List.nodup_cons.mp distinct).2).2.imp ?_
      intro first second apart earlier member later otherMember isChild
      exact apart member (child_mem_preorder forest otherMember isChild)

/-! ### Walks over a forest -/

section

variable {σ : Type} {tree : SyntaxTree} {visit : Nat → Shape → σ → Bool × σ}

/-- What a visitor carries on from a place. -/
def carriedOn (tree : SyntaxTree) (visit : Nat → Shape → σ → Bool × σ) (carried : σ) (place : Nat) : σ :=
  (visit place ((tree.shape? place).getD (.other [])) carried).2

/-- The children of a shape that is found at a place, or of none. -/
theorem children_getD_shape? (place : Nat) :
    ((tree.shape? place).getD (.other [])).children = childrenAt tree.nodes place := by
  unfold shape? childrenAt
  cases tree.nodes[place]? <;> rfl

/-- A walk that enters every node meets what lies at and below the places on its stack, in pre-order. -/
theorem walkOn_eq_foldl (forest : Forest tree.nodes roots)
    (enters : ∀ place shape carried, (visit place shape carried).1 = true) (fresh : Array Bool) (stack : List Nat)
    (carried : σ) (distinct : (stack.flatMap (preorder tree.nodes)).Nodup)
    (unmet : ∀ place ∈ stack.flatMap (preorder tree.nodes), fresh[place]? = some true) :
    tree.walkOn visit fresh stack carried =
      (stack.flatMap (preorder tree.nodes)).foldl (tree.carriedOn visit) carried := by
  -- The induction follows the walk; what is still to be met are the pre-orders of the stack, one after another.
  fun_induction walkOn tree visit fresh stack carried with
  | case1 carried => rfl
  | case2 fresh carried place rest isFresh shape enter next met ih =>
    -- The node is entered, so its children go on the stack before the rest.
    have entered : enter = true := by simpa [met] using enters place shape carried
    have below : shape.children = childrenAt tree.nodes place := children_getD_shape? place
    have opened : (place :: rest).flatMap (preorder tree.nodes) =
        place :: (shape.children ++ rest).flatMap (preorder tree.nodes) := by
      rw [List.flatMap_cons, preorder_eq forest, below, List.flatMap_append, List.cons_append]
    have carries : tree.carriedOn visit carried place = next := congrArg Prod.snd met
    -- The place occurs once on the list, so what comes after it is met for the first time.
    rw [opened] at distinct unmet ⊢
    obtain ⟨absent, later⟩ := List.nodup_cons.mp distinct
    rw [List.foldl_cons, carries]
    simp only [entered, if_true] at ih ⊢
    -- The rest is fresh as before, since the place that was met is none of it.
    refine ih later fun other member => ?_
    have apart : place ≠ other := fun same => absent (same ▸ member)
    rw [Array.getElem?_setIfInBounds_ne apart]
    exact unmet other (List.mem_cons_of_mem _ member)
  | case3 fresh carried place rest isFresh ih =>
    -- Nothing at or below a place on the stack was met before.
    have first : place ∈ (place :: rest).flatMap (preorder tree.nodes) := by
      rw [List.flatMap_cons, preorder_eq forest]
      exact List.mem_append_left _ (List.mem_cons_self ..)
    exact absurd (unmet place first) isFresh

/-- A walk from a place that enters every node meets what lies at and below the place, in pre-order. -/
theorem visitFrom_eq_foldl (forest : Forest tree.nodes roots)
    (enters : ∀ place shape carried, (visit place shape carried).1 = true) {start : Nat}
    (inside : start < tree.nodes.size) (carried : σ) :
    tree.visitFrom visit start carried = (preorder tree.nodes start).foldl (tree.carriedOn visit) carried := by
  -- A walk begins with one place on the stack and with everything fresh.
  have alone : [start].flatMap (preorder tree.nodes) = preorder tree.nodes start := by simp
  rw [visitFrom, walkOn_eq_foldl forest enters, alone]
  · rw [alone]
    exact forest.nodup_preorder inside
  · intro place member
    -- Nothing below a node comes behind it, and no node was met yet.
    have early := le_of_mem_preorder forest (alone ▸ member)
    have within : place < tree.nodes.size := Nat.lt_of_le_of_lt early inside
    simp [within]

/-- The places that a walk meets are those at and below its start, in pre-order. -/
theorem walk_eq_preorder (forest : Forest tree.nodes roots) {start : Nat} (inside : start < tree.nodes.size) :
    tree.walk start = preorder tree.nodes start := by
  -- The walk collects places in front of each other and turns the list round at its end.
  have collected (places met : List Nat) :
      places.foldl (tree.carriedOn fun place _ met => (true, place :: met)) met = places.reverse ++ met := by
    induction places generalizing met with
    | nil => rfl
    | cons place rest ih => simp [carriedOn, ih]
  have entered : tree.visitFrom (fun place _ met => (true, place :: met)) start [] =
      (preorder tree.nodes start).reverse := by
    rw [visitFrom_eq_foldl forest (fun _ _ _ => rfl) inside, collected, List.append_nil]
  change (tree.visitFrom (fun place _ met => (true, place :: met)) start []).reverse = _
  rw [entered, List.reverse_reverse]

end

/-! ### Syntax trees -/

/-- What a walk may rely on in a syntax tree. -/
structure IsForest (tree : SyntaxTree) : Prop where
  /-- The script and the template begin at nodes. -/
  root_lt : ∀ root ∈ tree.roots, root < tree.nodes.size
  /-- Children are nodes that come before their parent. -/
  child_lt : ∀ place shape, tree.shape? place = some shape → ∀ child ∈ shape.children,
    child < place ∧ child < tree.nodes.size
  /-- The script and the template have no parent. Every other node has one, and is its child once. -/
  owned : ∀ place < tree.nodes.size,
    (tree.nodes.toList.flatMap (·.shape.children)).count place = if place ∈ tree.roots then 0 else 1
  /-- No descent from parents to children goes on for ever. -/
  descends : WellFounded fun child parent => ∃ shape, tree.shape? parent = some shape ∧ child ∈ shape.children
  /-- A walk over the script and then one over the template meet every node once. -/
  met : (tree.roots.flatMap tree.walk).Perm (List.range tree.nodes.size)
  /-- A visitor that enters all nodes is told exactly those, one after another. -/
  visited : ∀ root ∈ tree.roots, ∀ (σ : Type) (visit : Nat → Shape → σ → Bool × σ),
    (∀ place shape carried, (visit place shape carried).1 = true) → ∀ carried,
      tree.visitFrom visit root carried =
        (tree.walk root).foldl
          (fun carried place => (visit place ((tree.shape? place).getD (.other [])) carried).2) carried

/-- The shape of a node tells its children. -/
theorem childrenAt_of_shape? {tree : SyntaxTree} {place : Nat} (found : tree.shape? place = some shape) :
    childrenAt tree.nodes place = shape.children := by
  rw [← children_getD_shape?, found, Option.getD_some]

/-- A syntax tree whose nodes are a forest with its roots can be relied on in walks. -/
theorem isForest_of_forest {tree : SyntaxTree} (forest : Forest tree.nodes tree.roots) : tree.IsForest where
  root_lt root isRoot := forest.root_lt isRoot
  child_lt place shape found child member := by
    have isChild : child ∈ childrenAt tree.nodes place := by
      rw [childrenAt_of_shape? found]
      exact member
    -- What is a child of a node is counted among the places of all nodes.
    have listed := forest.owned.mem_iff.mp (List.mem_append_left _ (mem_allChildren isChild))
    exact ⟨forest.descending place child isChild, List.mem_range.mp listed⟩
  owned place inside := forest.count_allChildren inside
  descends := by
    -- Descending goes to smaller places, and these are well-founded.
    refine Subrelation.wf (fun {child parent} below => ?_) Nat.lt_wfRel.wf
    obtain ⟨shape, found, member⟩ := below
    refine forest.descending parent child ?_
    rw [childrenAt_of_shape? found]
    exact member
  met := by
    -- Each root is walked in pre-order, and the pre-orders of the roots are all places.
    have walked : tree.roots.flatMap tree.walk = tree.roots.flatMap (preorder tree.nodes) :=
      List.flatMap_congr fun root isRoot => walk_eq_preorder forest (forest.root_lt isRoot)
    rw [walked]
    exact forest.preorder_perm
  visited root isRoot σ visit enters carried := by
    rw [walk_eq_preorder forest (forest.root_lt isRoot)]
    exact visitFrom_eq_foldl forest enters (forest.root_lt isRoot) carried

end LayerAudit.SyntaxTree
