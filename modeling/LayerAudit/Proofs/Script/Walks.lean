import LayerAudit.Proofs.Tree.Kept
import LayerAudit.Script.Cursor
import Mathlib.Algebra.GroupWithZero.Nat

/-!
Walks over the tree of a script. A cursor that goes down, sideways and up again finds what recursion over the tree
finds: whether some node lies too deep, where the first damage is, and how many bytes the outermost damage covers.
-/

namespace LayerAudit.Script

namespace Cst

/-- A node lies so many levels below another one. -/
inductive Below : Cst → Nat → Cst → Prop
  | self (node : Cst) : Below node 0 node
  | child {node child inner : Cst} {levels : Nat} (member : child ∈ node.children) (below : Below child levels inner) :
    Below node (levels + 1) inner

mutual

/-- The nodes of a kind at and below a node that lie below no other node of that kind, in source order. -/
def outermost (isSought : Cst → Bool) : Cst → List Cst
  | mk head children =>
    if isSought (mk head children) then [mk head children] else outermostAmong isSought children

/-- The same of several nodes. -/
def outermostAmong (isSought : Cst → Bool) : List Cst → List Cst
  | [] => []
  | node :: rest => outermost isSought node ++ outermostAmong isSought rest

end

variable {isSought : Cst → Bool}

/-- Among several nodes each counts for itself. -/
theorem outermostAmong_eq (isSought : Cst → Bool) (nodes : List Cst) :
    outermostAmong isSought nodes = nodes.flatMap (outermost isSought) := by
  -- By induction on the nodes, in their order.
  induction nodes with
  | nil => rfl
  | cons node rest ih => rw [outermostAmong, ih, List.flatMap_cons]

/-- A node of the kind hides what is below it. -/
theorem outermost_of_isSought {node : Cst} (found : isSought node = true) : outermost isSought node = [node] := by
  cases node
  rw [outermost, if_pos found]

/-- Any other node has what is outermost among its children. -/
theorem outermost_of_not_isSought {node : Cst} (other : isSought node = false) :
    outermost isSought node = node.children.flatMap (outermost isSought) := by
  cases node
  rw [outermost, other, outermostAmong_eq]
  rfl

/-- A node comes before those below it. -/
theorem nodes_eq (node : Cst) : node.nodes = node :: node.children.flatMap nodes := by
  cases node with
  | mk head children =>
    rw [nodes, nodesIn_eq]
    rfl

/-- There is damage among some nodes exactly if there is at or below one of them. -/
theorem hasDamageAmong_eq (nodes : List Cst) : hasDamageAmong nodes = nodes.any hasDamage := by
  induction nodes with
  | nil => rfl
  | cons node rest ih => rw [hasDamageAmong, ih, List.any_cons]

/-- There is damage at or below a node exactly if the node is damage or a child has some. -/
theorem hasDamage_eq (node : Cst) : node.hasDamage = (node.isDamage || node.children.any hasDamage) := by
  cases node with
  | mk head children =>
    rw [hasDamage, hasDamageAmong_eq]
    rfl

/-- There is damage at or below a node exactly if one of the nodes there is damage. -/
theorem hasDamage_eq_any (node : Cst) : node.hasDamage = node.nodes.any isDamage := by
  -- By induction on the size of the tree: what holds of all children holds of the node.
  induction size : sizeOf node using Nat.strongRecOn generalizing node with
  | _ bound ih =>
    subst size
    have below : ∀ child ∈ node.children, child.hasDamage = child.nodes.any isDamage := fun child isChild =>
      ih _ (Tree.sizeOf_lt_of_mem_children isChild) child rfl
    have same : node.children.any hasDamage = node.children.any fun child => child.nodes.any isDamage := by
      rw [Bool.eq_iff_iff, List.any_eq_true, List.any_eq_true]
      exact exists_congr fun child => and_congr_right fun isChild => by rw [below child isChild]
    rw [hasDamage_eq, nodes_eq, List.any_cons, List.any_flatMap, same]

/-- Without damage below a node, none of its children has any. -/
theorem hasDamage_of_child {node child : Cst} (whole : node.hasDamage = false) (isChild : child ∈ node.children) :
    child.hasDamage = false := by
  rw [hasDamage_eq, Bool.or_eq_false_iff, List.any_eq_false] at whole
  exact eq_false_of_ne_true (whole.2 child isChild)

/-! ### What the searches for damage list -/

/-- The node itself, if it is damage. -/
def ownDamage (node : Cst) : List Cst := if node.isDamage then [node] else []

/-- The damage at and below a node, in source order. -/
def damage (node : Cst) : List Cst := node.nodes.filter isDamage

/-- Without damage none is listed. -/
theorem damage_of_hasDamage {node : Cst} (whole : node.hasDamage = false) : node.damage = [] := by
  rw [hasDamage_eq_any, List.any_eq_false] at whole
  exact List.filter_eq_nil_iff.mpr whole

/-- All damage is listed, although what has no damage below it is not entered. -/
theorem damage_eq (node : Cst) :
    node.damage = node.ownDamage ++ (if node.hasDamage then node.children else []).flatMap damage := by
  -- The node itself comes first, and then what is below it.
  have own : node.damage = node.ownDamage ++ node.children.flatMap damage := by
    rw [damage, nodes_eq, List.filter_cons, List.filter_flatMap, ownDamage]
    cases node.isDamage <;> rfl
  rw [own]
  cases damaged : node.hasDamage with
  | true => rfl
  -- What is not entered has no damage, so that nothing is left out.
  | false =>
    have none : node.children.flatMap damage = [] :=
      List.flatMap_eq_nil_iff.mpr fun child isChild => damage_of_hasDamage (hasDamage_of_child damaged isChild)
    rw [none]
    rfl

/-- Where nothing is damage, nothing is outermost damage. -/
theorem outermost_of_hasDamage {node : Cst} (whole : node.hasDamage = false) : outermost isDamage node = [] := by
  -- By induction on the size. Neither the node nor any child has damage.
  induction size : sizeOf node using Nat.strongRecOn generalizing node with
  | _ bound ih =>
    subst size
    have other : node.isDamage = false := by
      rw [hasDamage_eq, Bool.or_eq_false_iff] at whole
      exact whole.1
    rw [outermost_of_not_isSought other, List.flatMap_eq_nil_iff]
    exact fun child isChild => ih _ (Tree.sizeOf_lt_of_mem_children isChild) (hasDamage_of_child whole isChild) rfl

/-- All outermost damage is listed, although neither damage nor what has no damage below it is entered. -/
theorem outermost_eq (node : Cst) : outermost isDamage node = node.ownDamage ++
    (if !node.isDamage && node.hasDamage then node.children else []).flatMap (outermost isDamage) := by
  -- Damage is listed and hides what is below it. Otherwise only a node with damage below it is entered.
  cases isDamage : node.isDamage with
  | true => simp [outermost_of_isSought isDamage, ownDamage, isDamage]
  | false =>
    cases damaged : node.hasDamage with
    -- What is damaged below is entered, as the node itself is no damage.
    | true => simp [outermost_of_not_isSought isDamage, ownDamage, isDamage]
    | false => simp [outermost_of_hasDamage damaged, ownDamage, isDamage]

end Cst

namespace Cursor

/-! ### Damage -/

/-- A search that lists something of each node and then of the children that are entered lists what is still to come
in the order of the walk. -/
theorem flatMap_proceed? {found own : Cst → List Cst} {enters : Cst → Bool}
    (list : ∀ node, found node = own node ++ (if enters node then node.children else []).flatMap found)
    (cursor : Cursor) :
    (cursor.node :: cursor.ahead).flatMap found = own cursor.node ++
      (((cursor.proceed? (enters cursor.node)).map fun next => next.node :: next.ahead).getD []).flatMap found := by
  rw [List.flatMap_cons, list, List.append_assoc, ← List.flatMap_append, ahead_eq_proceed?]

/-- The search for damage finds the first one of all that is still to come. -/
theorem firstDamage?_eq (cursor : Cursor) :
    cursor.firstDamage? = ((cursor.node :: cursor.ahead).flatMap Cst.damage).head? := by
  fun_induction firstDamage? cursor with
  -- The first damage is the node itself.
  | case1 cursor isDamage => simp [flatMap_proceed? Cst.damage_eq, Cst.ownDamage, isDamage]
  | case2 cursor noDamage next further ih =>
    rw [ih, flatMap_proceed? Cst.damage_eq cursor, further]
    simp [Cst.ownDamage, noDamage]
  | case3 cursor noDamage last =>
    rw [flatMap_proceed? Cst.damage_eq, last]
    simp [Cst.ownDamage, noDamage]

/-- The walk that measures damage counts the bytes of what is outermost among the nodes still to come. -/
theorem damagedBytes_eq (total : Nat) (cursor : Cursor) : cursor.damagedBytes total =
    total + (((cursor.node :: cursor.ahead).flatMap (Cst.outermost Cst.isDamage)).map
      fun node => node.span.size).sum := by
  fun_induction damagedBytes total cursor with
  | case1 total cursor isDamage counted next further ih =>
    -- The damage of the node counts, and the walk goes on with what lies before it.
    rw [ih, flatMap_proceed? Cst.outermost_eq cursor, further]
    cases damaged : cursor.node.isDamage <;>
      simp [counted, isDamage, Cst.ownDamage, damaged, Nat.add_assoc]
  | case2 total cursor isDamage counted last =>
    rw [flatMap_proceed? Cst.outermost_eq, last]
    cases damaged : cursor.node.isDamage <;> simp [counted, isDamage, Cst.ownDamage, damaged]

end Cursor

/-! ### Depth -/

/-- Something at or below a node at some depth lies too deep. -/
def Cst.ReachesPast (limit depth : Nat) (node : Cst) : Prop :=
  ∃ levels inner, node.Below levels inner ∧ limit < depth + levels

/-- At or below a node something lies too deep exactly if the node does or something at or below a child. -/
theorem Cst.reachesPast_iff (limit depth : Nat) (node : Cst) :
    node.ReachesPast limit depth ↔ limit < depth ∨ ∃ child ∈ node.children, child.ReachesPast limit (depth + 1) := by
  constructor
  · rintro ⟨levels, inner, below, tooDeep⟩
    cases below with
    | self => exact Or.inl tooDeep
    | child member below => exact Or.inr ⟨_, member, _, inner, below, by omega⟩
  · rintro (tooDeep | ⟨child, member, levels, inner, below, tooDeep⟩)
    · exact ⟨0, node, .self node, tooDeep⟩
    · exact ⟨levels + 1, inner, .child member below, by omega⟩

namespace Sounding

/-- The count of a walk is right: as many nodes are above as levels were counted. -/
def Counts (state : Sounding) : Prop := state.depth = state.cursor.above.length

/-- A right count is above zero wherever the walk can go up. -/
theorem Counts.pos {state : Sounding} (counts : state.Counts) {parent : Cursor}
    (up : state.cursor.parent? = some parent) : 0 < state.depth := by
  have shorter := Cursor.length_above_of_parent? up
  unfold Counts at counts
  omega

/-- Every step keeps the count right. -/
theorem Counts.next {state next : Sounding} (counts : state.Counts) (step : state.next? = some next) : next.Counts := by
  obtain ⟨cursor, depth, leaves⟩ := state
  unfold next? at step
  unfold Counts at counts ⊢
  cases leaves with
  | true =>
    simp only [if_true] at step
    split at step
    · rename_i sibling further
      cases step
      -- A sibling lies as deep as the node.
      simpa [Cursor.above_of_nextSibling? further] using counts
    · obtain ⟨parent, up, rfl⟩ := Option.map_eq_some_iff.mp step
      have shorter := Cursor.length_above_of_parent? up
      dsimp only at counts ⊢
      -- A parent lies one level less deep.
      omega
  | false =>
    simp only [Bool.false_eq_true, if_false] at step
    split at step
    · rename_i child down
      cases step
      have longer := Cursor.length_above_of_firstChild? down
      dsimp only at counts ⊢
      -- A child lies one level deeper.
      omega
    · cases step
      exact counts

/-- The nodes that a walk has not left yet, in their levels from the bottom up. -/
def levels (state : Sounding) : List (List Cst) :=
  (if state.leaves then state.cursor.behind else state.cursor.node :: state.cursor.behind) ::
    state.cursor.above.map (·.2)

/-- Some node of the levels, or below one of them, lies more than a number of levels below the top. -/
def Exceeds (limit : Nat) : List (List Cst) → Prop
  | [] => False
  | level :: above =>
    (∃ node ∈ level, node.ReachesPast limit above.length) ∨ Exceeds limit above

/-- A step loses no node that lies too deep, unless the walk was about to enter such a node. -/
theorem exceeds_levels_iff (limit : Nat) (state : Sounding)
    (within : state.leaves = false → state.cursor.above.length ≤ limit) :
    Exceeds limit state.levels ↔ ∃ next, state.next? = some next ∧ Exceeds limit next.levels := by
  obtain ⟨⟨node, behind, above⟩, depth, leaves⟩ := state
  cases leaves with
  | true =>
    cases behind with
    -- Sideways the other siblings stay, and at their end the walk goes up.
    | cons sibling rest => simp [levels, next?, Cursor.nextSibling?]
    | nil =>
      cases above with
      | nil => simp [levels, next?, Cursor.nextSibling?, Cursor.parent?, Exceeds]
      | cons parent above => simp [levels, next?, Cursor.nextSibling?, Cursor.parent?, Exceeds]
  | false =>
    -- A node that does not lie too deep leaves it to its children.
    have opened := Cst.reachesPast_iff limit above.length node
    have shallow : ¬limit < above.length := Nat.not_lt.mpr (within rfl)
    simp only [shallow, false_or] at opened
    cases children : node.children with
    | nil => simp [levels, next?, Cursor.firstChild?, Exceeds, children, opened]
    | cons child rest => simp [levels, next?, Cursor.firstChild?, Exceeds, children, opened, or_assoc]

/-- Where a walk with the right count goes on, it does not stand too deep. -/
theorem within_of_passes {limit : Nat} {state : Sounding} (counts : state.Counts)
    (passes : ¬(!state.leaves && decide (limit < state.depth)) = true) :
    state.leaves = false → state.cursor.above.length ≤ limit := by
  intro enters
  simp only [enters, Bool.not_false, Bool.true_and, decide_eq_true_eq, Nat.not_lt] at passes
  exact counts ▸ passes

/-- A walk with the right count tells whether a node that it has not left lies too deep. -/
theorem exceeds_iff (limit : Nat) (state : Sounding) (counts : state.Counts) :
    exceeds limit state = true ↔ Exceeds limit state.levels := by
  fun_induction exceeds limit state with
  | case1 state tooDeep =>
    obtain ⟨⟨node, behind, above⟩, depth, leaves⟩ := state
    obtain rfl : depth = above.length := counts
    simp only [Bool.and_eq_true, Bool.not_eq_true', decide_eq_true_eq] at tooDeep
    obtain ⟨rfl, tooDeep⟩ := tooDeep
    -- The node that is entered lies too deep itself.
    refine iff_of_true rfl (Or.inl ⟨node, List.mem_cons_self .., 0, node, .self node, ?_⟩)
    simpa using tooDeep
  -- The walk goes on, and nothing too deep is left behind.
  | case2 state passes next step ih =>
    rw [ih (counts.next step), exceeds_levels_iff limit state (within_of_passes counts passes), step]
    simp
  | case3 state passes last =>
    rw [exceeds_levels_iff limit state (within_of_passes counts passes), last]
    simp

end Sounding

namespace Cursor

/-- The walk finds too much depth exactly if some node lies more than the limit below the root. -/
theorem deeperThan_iff (limit : Nat) (root : Cst) :
    deeperThan limit (atRoot root) = true ↔ ∃ levels node, root.Below levels node ∧ limit < levels := by
  have counts : Sounding.Counts { cursor := atRoot root } := rfl
  rw [deeperThan, Sounding.exceeds_iff limit _ counts]
  simp [atRoot, Sounding.levels, Sounding.Exceeds, Cst.ReachesPast]

/-- Otherwise no node lies more than the limit below the root. -/
theorem deeperThan_eq_false_iff (limit : Nat) (root : Cst) :
    deeperThan limit (atRoot root) = false ↔ ∀ levels node, root.Below levels node → levels ≤ limit := by
  rw [← Bool.not_eq_true, deeperThan_iff]
  simp only [not_exists, not_and, Nat.not_lt]

end Cursor

end LayerAudit.Script
