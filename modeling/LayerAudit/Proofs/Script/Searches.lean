import LayerAudit.Proofs.Iteration
import LayerAudit.Proofs.Script.Walks
import Mathlib.Algebra.Order.BigOperators.Group.List
import Mathlib.Algebra.Order.Group.Nat
import Mathlib.Order.Interval.Finset.Nat

/-!
The searches of a tree, seen as a whole. They come to an end after no more moves than there are nodes, the depth that
they count is that of the node where they stand, and they find what is told of the tree without any walk: the nodes by
their levels, the first damage in source order, and the bytes of the damage that stands in no other damage.
-/

namespace LayerAudit.Script

/-- The bytes of a range. -/
def Span.bytes (span : Span) : Finset Nat := Finset.Ico span.start span.stop

/-- A range has as many bytes as its size tells. -/
theorem Span.card_bytes (span : Span) : span.bytes.card = span.size := Nat.card_Ico span.start span.stop

namespace Cst

/-! ### Damage in no other damage -/

mutual

/-- The nodes at and below a node in source order, each with the nodes above it from the nearest on. -/
def lineages (above : List Cst) : Cst → List (List Cst × Cst)
  | mk head children => (above, mk head children) :: lineagesIn (mk head children :: above) children

/-- The same of several nodes. -/
def lineagesIn (above : List Cst) : List Cst → List (List Cst × Cst)
  | [] => []
  | node :: rest => lineages above node ++ lineagesIn above rest

end

/-- A node is damage, and none of the nodes above it is. -/
def isExposed (lineage : List Cst × Cst) : Bool := lineage.2.isDamage && !lineage.1.any isDamage

/-- The damage without damage above it, in source order. -/
def exposedDamage (root : Cst) : List Cst := ((root.lineages []).filter isExposed).map (·.2)

/-- Several nodes below the same ones come one after another. -/
theorem lineagesIn_eq (above nodes : List Cst) : lineagesIn above nodes = nodes.flatMap (lineages above) := by
  induction nodes with
  | nil => rfl
  | cons node rest ih => rw [lineagesIn, ih, List.flatMap_cons]

/-- A node comes before those below it, which have it above them. -/
theorem lineages_eq (above : List Cst) (node : Cst) :
    node.lineages above = (above, node) :: node.children.flatMap (lineages (node :: above)) := by
  cases node
  rw [lineages, lineagesIn_eq]
  rfl

/-- Below damage nothing is exposed, and elsewhere what is outermost. -/
theorem exposed_lineages (above : List Cst) (node : Cst) : ((node.lineages above).filter isExposed).map (·.2) =
    if above.any isDamage then [] else outermost isDamage node := by
  -- By induction on the size of the tree, so that all children are covered at once.
  induction size : sizeOf node using Nat.strongRecOn generalizing node above with
  | _ bound ih =>
    subst size
    -- What is exposed below a node is so below one of its children, with the node itself among those above.
    have below : node.children.flatMap (fun child => ((child.lineages (node :: above)).filter isExposed).map (·.2)) =
        if (node :: above).any isDamage then [] else node.children.flatMap (outermost isDamage) := by
      split
      · rename_i shadowed
        refine List.flatMap_eq_nil_iff.mpr fun child isChild => ?_
        rw [ih _ (Tree.sizeOf_lt_of_mem_children isChild) _ child rfl, if_pos shadowed]
      · rename_i bare
        refine List.flatMap_congr fun child isChild => ?_
        rw [ih _ (Tree.sizeOf_lt_of_mem_children isChild) _ child rfl, if_neg bare]
    rw [lineages_eq, List.filter_cons, List.filter_flatMap, isExposed]
    -- The node is exposed itself, or it shows what is exposed below it.
    cases shadowed : above.any isDamage with
    | true => simp [shadowed, List.map_flatMap, below]
    | false =>
      cases damaged : node.isDamage with
      | true => simp [shadowed, damaged, List.map_flatMap, below, outermost_of_isSought damaged]
      | false => simp [shadowed, damaged, List.map_flatMap, below, outermost_of_not_isSought damaged]

/-- The damage without damage above it is what is outermost. -/
theorem exposedDamage_eq (root : Cst) : root.exposedDamage = outermost isDamage root := exposed_lineages [] root

/-! ### Disjoint parts -/

/-- The ranges of the children lie in that of the node and have no byte in common. -/
def PartsApart (node : Cst) : Prop :=
  (∀ child ∈ node.children, child.span.bytes ⊆ node.span.bytes) ∧
    node.children.Pairwise fun first second => Disjoint first.span.bytes second.span.bytes

/-- Ranges are compared byte by byte. -/
instance (node : Cst) : Decidable node.PartsApart :=
  inferInstanceAs (Decidable ((∀ child ∈ node.children, child.span.bytes ⊆ node.span.bytes) ∧
    node.children.Pairwise fun first second => Disjoint first.span.bytes second.span.bytes))

/-- Disjoint ranges inside of some bytes are together no larger than these. -/
theorem sum_size_le {nodes : List Cst} {outer : Finset Nat} (inside : ∀ node ∈ nodes, node.span.bytes ⊆ outer)
    (apart : nodes.Pairwise fun first second => Disjoint first.span.bytes second.span.bytes) :
    (nodes.map fun node => node.span.size).sum ≤ outer.card := by
  induction nodes generalizing outer with
  | nil => simp
  | cons node rest ih =>
    obtain ⟨others, apart⟩ := List.pairwise_cons.mp apart
    obtain ⟨here, inside⟩ := List.forall_mem_cons.mp inside
    -- The other ranges lie in what the first one leaves.
    have left : (rest.map fun node => node.span.size).sum ≤ (outer \ node.span.bytes).card :=
      ih (fun other member => Finset.subset_sdiff.mpr ⟨inside other member, (others other member).symm⟩) apart
    rw [Finset.card_sdiff_of_subset here, Span.card_bytes] at left
    have whole := Finset.card_le_card here
    rw [Span.card_bytes] at whole
    rw [List.map_cons, List.sum_cons]
    omega

/-- The outermost damage covers no more bytes than the node that it is in. -/
theorem sum_outermost_le {node : Cst} (apart : ∀ inner ∈ node.nodes, inner.PartsApart) :
    -- Again by induction on the size: either the node is damage, or its damage lies in the children.
    ((outermost isDamage node).map fun damage => damage.span.size).sum ≤ node.span.size := by
  induction size : sizeOf node using Nat.strongRecOn generalizing node with
  | _ bound ih =>
    subst size
    cases damaged : node.isDamage with
    | true => simp [outermost_of_isSought damaged]
    | false =>
      -- What is outermost lies in the children then, and these have no byte in common.
      have own : node.PartsApart := apart node (nodes_eq node ▸ List.mem_cons_self ..)
      have parts (child : Cst) (isChild : child ∈ node.children) :
          ((outermost isDamage child).map fun damage => damage.span.size).sum ≤ child.span.size :=
        ih _ (Tree.sizeOf_lt_of_mem_children isChild)
          (fun inner member => apart inner (nodes_of_child isChild member)) rfl
      rw [outermost_of_not_isSought damaged, List.map_flatMap, List.flatMap_def, List.sum_flatten, List.map_map]
      calc (node.children.map fun child => ((outermost isDamage child).map fun damage => damage.span.size).sum).sum
          ≤ (node.children.map fun child => child.span.size).sum := List.sum_le_sum parts
        _ ≤ node.span.bytes.card := sum_size_le own.1 own.2
        _ = node.span.size := node.span.card_bytes

/-- A child of a node lies one level deeper. -/
theorem Below.snoc {root node child : Cst} {levels : Nat} (below : root.Below levels node)
    (isChild : child ∈ node.children) : root.Below (levels + 1) child := by
  induction below with
  | self => exact .child isChild (.self child)
  | child member _ ih => exact .child member (ih isChild)

end Cst

namespace Cursor

/-! ### Where a cursor stands -/

/-- A node with the siblings behind it has its place in a tree: the way up leads through parents to the root. -/
def Stands (root node : Cst) (behind : List Cst) : List (Cst × List Cst) → Prop
  | [] => node = root ∧ behind = []
  | (parent, after) :: above => (∀ child ∈ node :: behind, child ∈ parent.children) ∧ Stands root parent after above

variable {root node : Cst} {behind : List Cst} {above : List (Cst × List Cst)}

/-- A cursor stands as many levels below the root as nodes are above it. -/
theorem Stands.below (stands : Stands root node behind above) : root.Below above.length node := by
  induction above generalizing node behind with
  | nil => exact stands.1 ▸ .self node
  | cons parent above ih => exact (ih stands.2).snoc (stands.1 node (List.mem_cons_self ..))

/-- A cursor goes down to a place in the same tree. -/
theorem Stands.firstChild {cursor child : Cursor} (stands : Stands root cursor.node cursor.behind cursor.above)
    (found : cursor.firstChild? = some child) : Stands root child.node child.behind child.above := by
  -- The child is the first of the children, and those behind it are children too.
  unfold firstChild? at found
  split at found
  · cases found
  · rename_i children
    cases found
    exact ⟨fun _ member => children ▸ member, stands⟩

/-- A cursor goes sideways to a place in the same tree. -/
theorem Stands.nextSibling {cursor sibling : Cursor} (stands : Stands root cursor.node cursor.behind cursor.above)
    (found : cursor.nextSibling? = some sibling) : Stands root sibling.node sibling.behind sibling.above := by
  unfold nextSibling? at found
  split at found
  · cases found
  · rename_i behind
    cases found
    rw [behind] at stands
    cases above : cursor.above with
    -- The root has no siblings.
    | nil =>
      rw [above] at stands
      cases stands.2
    | cons parent rest =>
      rw [above] at stands
      exact ⟨fun child member => stands.1 child (List.mem_cons_of_mem _ member), stands.2⟩

/-- A cursor goes up to a place in the same tree. -/
theorem Stands.parent {cursor parent : Cursor} (stands : Stands root cursor.node cursor.behind cursor.above)
    (found : cursor.parent? = some parent) : Stands root parent.node parent.behind parent.above := by
  -- The parent was kept on the way, together with its place.
  unfold parent? at found
  split at found
  · cases found
  · rename_i above
    cases found
    rw [above] at stands
    exact stands.2

end Cursor

namespace Sounding

variable {root : Cst}

/-- The cursor of a walk stands in the tree. -/
def Stands (root : Cst) (state : Sounding) : Prop :=
  Cursor.Stands root state.cursor.node state.cursor.behind state.cursor.above

/-- Every step leads to a place in the same tree. -/
theorem Stands.next {state next : Sounding} (stands : state.Stands root) (step : state.next? = some next) :
    next.Stands root := by
  unfold next? at step
  split at step
  · -- Upwards there is a sibling, or else a parent.
    split at step
    · rename_i sibling further
      cases step
      exact Cursor.Stands.nextSibling stands further
    · obtain ⟨parent, up, rfl⟩ := Option.map_eq_some_iff.mp step
      exact Cursor.Stands.parent stands up
  · -- Downwards there is a child, or the same place to leave again.
    split at step
    · rename_i child down
      cases step
      exact Cursor.Stands.firstChild stands down
    · cases step
      exact stands

/-- Wherever a walk has come, the depth that it counts is that of the node, so that it is above zero if there is a
parent, and no more than two moves for each node of the tree were needed. -/
theorem of_iterate? {steps : Nat} {state : Sounding}
    (reached : iterate? next? steps { cursor := Cursor.atRoot root } = some state) :
    steps ≤ 2 * root.size ∧ root.Below state.depth state.cursor.node ∧
      ∀ parent, state.cursor.parent? = some parent → 0 < state.depth := by
  -- Both invariants hold at the start and are kept by each step, so they hold of what was reached.
  have countsAtFirst : Counts { cursor := Cursor.atRoot root } := rfl
  have standsAtFirst : Stands root { cursor := Cursor.atRoot root } := ⟨rfl, rfl⟩
  have counts : state.Counts := iterate?_keeps Counts.next countsAtFirst reached
  have stands : state.Stands root := iterate?_keeps Stands.next standsAtFirst reached
  have moves := iterate?_add_le work_of_next? reached
  -- Two moves for each node: one to enter it, and one to leave it.
  have start : Sounding.work { cursor := Cursor.atRoot root } = 2 * root.size := by
    simp [work, pending, Cursor.atRoot, Cursor.ahead, Cst.sizeAll]
  refine ⟨by omega, ?_, fun parent up => counts.pos up⟩
  rw [counts]
  exact Cursor.Stands.below stands

end Sounding

namespace Cursor

/-- A walk in pre-order has come to an end before it has taken as many steps as there are nodes. -/
theorem steps_lt_size {root : Cst} {enters : Cst → Bool} {steps : Nat} {cursor : Cursor}
    (reached : iterate? (fun here => here.proceed? (enters here.node)) steps (atRoot root) = some cursor) :
    steps < root.size := by
  -- Each step leaves one node for good, and at the start all nodes are still to come.
  have moves := iterate?_add_le work_of_proceed? reached
  have start : (atRoot root).work = root.size := by simp [work, atRoot, ahead, Cst.sizeAll]
  have own := cursor.node.size_eq
  rw [start] at moves
  -- What is still to come holds the node where the cursor stands, so that one node is left at least.
  simp only [work, Cst.sizeAll] at moves
  omega

/-- The three searches of a tree come to an end and agree with what is told of it by recursion. The search for depth
finds a node more than a limit below the root exactly if there is one, and never counts below zero. The search for
damage finds what comes first in source order, and finds some wherever there is any. The bytes are those of the damage
without damage above it, and so no more than those of the root, as long as the ranges of all nodes nest and those of
siblings are disjoint. -/
theorem walks_agree_with_recursion (root : Cst) :
    (∀ limit, deeperThan limit (atRoot root) = true ↔ ∃ levels node, root.Below levels node ∧ limit < levels) ∧
      (∀ steps state, iterate? Sounding.next? steps { cursor := atRoot root } = some state →
        steps ≤ 2 * root.size ∧ root.Below state.depth state.cursor.node ∧
          ∀ parent, state.cursor.parent? = some parent → 0 < state.depth) ∧
      (∀ (enters : Cst → Bool) steps cursor,
        iterate? (fun here => here.proceed? (enters here.node)) steps (atRoot root) = some cursor →
          steps < root.size) ∧
      firstDamage? (atRoot root) = root.nodes.find? Cst.isDamage ∧
      (root.hasDamage = true ↔ ∃ node ∈ root.nodes, node.isDamage = true) ∧
      (root.hasDamage = true → (firstDamage? (atRoot root)).isSome = true) ∧
      damagedBytes 0 (atRoot root) = (root.exposedDamage.map fun node => node.span.size).sum ∧
      ((∀ node ∈ root.nodes, node.PartsApart) → damagedBytes 0 (atRoot root) ≤ root.span.size) := by
  -- Without anything above the root, what is ahead of a walk is nothing but the tree.
  have first : firstDamage? (atRoot root) = root.nodes.find? Cst.isDamage := by
    simp [firstDamage?_eq, atRoot, ahead, Cst.damage, List.head?_filter]
  have damaged : root.hasDamage = true ↔ ∃ node ∈ root.nodes, node.isDamage = true := by
    rw [Cst.hasDamage_eq_any, List.any_eq_true]
  have bytes : damagedBytes 0 (atRoot root) =
      ((Cst.outermost Cst.isDamage root).map fun node => node.span.size).sum := by
    simp [damagedBytes_eq, atRoot, ahead]
  refine ⟨fun limit => deeperThan_iff limit root, fun _ _ => Sounding.of_iterate?, fun _ _ _ => steps_lt_size, first,
    damaged, fun hasDamage => ?_, ?_, fun apart => ?_⟩
  · -- Damage anywhere in the tree is found by any search for it.
    rw [first, List.find?_isSome]
    exact damaged.mp hasDamage
  · rw [bytes, Cst.exposedDamage_eq]
  · exact bytes ▸ Cst.sum_outermost_le apart

/-- Text that was passed over with more of the same inside, and behind it a construct that lacks its end. -/
def brokenScript : Cst :=
  .mk ⟨.program, none, ⟨0, 10⟩, false, false⟩
    [.mk ⟨.error, none, ⟨0, 4⟩, false, false⟩ [.mk ⟨.error, none, ⟨1, 3⟩, false, false⟩ []],
      .mk ⟨.construct, none, ⟨4, 10⟩, false, false⟩
        [.mk ⟨.identifier, none, ⟨4, 9⟩, false, false⟩ [], .mk ⟨.token, none, ⟨10, 10⟩, false, true⟩ []]]

/-- The inner damage is not counted again, and the token that is missing has no bytes. -/
theorem damagedBytes_brokenScript : (∀ node ∈ brokenScript.nodes, node.PartsApart) ∧
    deeperThan 1 (atRoot brokenScript) = true ∧ (firstDamage? (atRoot brokenScript)).isSome = true ∧
      damagedBytes 0 (atRoot brokenScript) = 4 ∧ damagedBytes 0 (atRoot brokenScript) ≤ brokenScript.span.size := by
  -- The ranges of this script nest, which bounds the bytes of its damage.
  have apart : ∀ node ∈ brokenScript.nodes, node.PartsApart := by decide
  have twoBelow : ∃ levels node, brokenScript.Below levels node ∧ 1 < levels :=
    ⟨2, _, .child (List.mem_cons_self ..) (.child (List.mem_cons_self ..) (.self _)), by decide⟩
  obtain ⟨deeper, -, -, -, -, found, bytes, bounded⟩ := walks_agree_with_recursion brokenScript
  refine ⟨apart, (deeper 1).mpr twoBelow, found (by decide), ?_, bounded apart⟩
  rw [bytes]
  decide

end Cursor

end LayerAudit.Script
