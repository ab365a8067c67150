import LayerAudit.Proofs.Script.Walks
import LayerAudit.Proofs.Tree.Outline

/-!
How deep a lowered script is. A level of a script becomes no more than two levels of nodes: an entry of an object may be
one node in the script and two when it is lowered, and what is missing is stood in for by a node of its own. So a script
that is not too deep is lowered with no more calls inside of each other than it has levels, to nodes that lie no more
than twice as deep.
-/

namespace LayerAudit

open Script SyntaxTree

/-! ### Levels -/

section

variable {α : Type} (below : α → List α)

/-- Something lies so many levels below something else. -/
inductive Under : α → Nat → α → Prop
  | self (top : α) : Under top 0 top
  | down {top middle inner : α} {levels : Nat} (member : middle ∈ below top) (under : Under middle levels inner) :
    Under top (levels + 1) inner

/-- Nothing lies more than a number of levels below. -/
def Within : Nat → α → Prop
  | 0, top => below top = []
  | levels + 1, top => ∀ inner ∈ below top, Within levels inner

variable {below} {top inner : α} {levels bound : Nat}

/-- What lies directly below has fewer levels below itself. -/
theorem Within.of_mem (within : Within below bound top) (member : inner ∈ below top) :
    ∃ lower, bound = lower + 1 ∧ Within below lower inner := by
  cases bound with
  | zero => exact absurd (within ▸ member) List.not_mem_nil
  | succ lower => exact ⟨lower, rfl, within inner member⟩

/-- More levels are allowed than there are. -/
theorem Within.mono (within : Within below levels top) (more : levels ≤ bound) : Within below bound top := by
  -- One level less is allowed below each node, so the induction is on the levels that are allowed.
  induction bound generalizing levels top with
  | zero =>
    obtain rfl : levels = 0 := by omega
    exact within
  | succ bound ih =>
    intro inner member
    obtain ⟨lower, rfl, deeper⟩ := within.of_mem member
    exact ih deeper (Nat.le_of_succ_le_succ more)

/-- With nothing below nothing lies too deep. -/
theorem within_of_nil (none : below top = []) : Within below bound top :=
  have within : Within below 0 top := none
  within.mono (Nat.zero_le bound)

/-- Nothing lies deeper than is allowed. -/
theorem Under.levels_le (under : Under below top levels inner) (within : Within below bound top) : levels ≤ bound := by
  induction under generalizing bound with
  | self => exact Nat.zero_le bound
  | down member _ ih =>
    obtain ⟨lower, rfl, deeper⟩ := within.of_mem member
    exact Nat.succ_le_succ (ih deeper)

/-- What lies below has no more levels below itself than are left. -/
theorem Within.under (within : Within below bound top) (under : Under below top levels inner) :
    Within below bound inner := by
  -- Going down one step uses up one of the levels.
  induction under generalizing bound with
  | self => exact within
  | down member _ ih =>
    obtain ⟨lower, rfl, deeper⟩ := within.of_mem member
    exact (ih deeper).mono (Nat.le_succ lower)

end

/-- Where no node lies too deep, none of the levels is too many. -/
theorem Script.Cst.within_of_below {bound : Nat} {node : Cst}
    (shallow : ∀ levels inner, node.Below levels inner → levels ≤ bound) : Within Cst.children bound node := by
  -- One level is taken off at a time, together with the first step down.
  induction bound generalizing node with
  | zero =>
    refine List.eq_nil_iff_forall_not_mem.mpr fun child member => ?_
    have deeper := shallow 1 child (.child member (.self child))
    omega
  | succ bound ih =>
    intro child member
    refine ih fun levels inner below => ?_
    have deeper := shallow (levels + 1) inner (.child member below)
    omega

/-- The outlines directly below an outline. -/
def Outline.parts : Outline → List Outline
  | .mk _ _ below => below

namespace Tree

variable {nodes : Array TreeNode} {roots : List Nat}

/-- Below the outline of a place are those of its children. -/
theorem parts_outlineAt (forest : Forest nodes roots) (place : Nat) :
    (outlineAt nodes place).parts = (childrenAt nodes place).map (outlineAt nodes) := by
  -- A place without a node has nothing below it, and neither has its outline.
  cases found : nodes[place]? with
  | some node =>
    rw [outlineAt_eq forest found, childrenAt, found]
    rfl
  | none =>
    rw [outlineAt, childrenAt, found]
    rfl

/-- A place has no more levels below itself than its outline. -/
theorem within_of_outlineAt (forest : Forest nodes roots) {bound place : Nat}
    (within : Within Outline.parts bound (outlineAt nodes place)) : Within (childrenAt nodes) bound place := by
  -- The children of the place are those of its outline, with one level less.
  induction bound generalizing place with
  | zero =>
    have none : (outlineAt nodes place).parts = [] := within
    rw [parts_outlineAt forest] at none
    exact List.map_eq_nil_iff.mp none
  | succ bound ih =>
    intro child isChild
    refine ih (within (outlineAt nodes child) ?_)
    rw [parts_outlineAt forest]
    exact List.mem_map_of_mem isChild

/-! ### Lowering level by level -/

/-- How many levels a node takes up at most, apart from what lies below it: a node that stands in for what is missing
lies below it, and an entry is a node over its value. -/
def Standing.levels : Standing → Nat
  | .alone => 1
  | .entry => 2

variable {text : String} {node : Cst} {standing : Standing} {below : List Outline} {bound : Nat}

/-- A node has one level more than what it stands over. -/
theorem within_over (shape : Shape) (span : Span) (inside : ∀ outline ∈ below, Within Outline.parts bound outline) :
    Within Outline.parts (bound + 1) (.mk shape span below) := inside

/-- Nothing lies below a leaf. -/
theorem within_leaf (shape : Shape) (span : Span) : Within Outline.parts bound (.mk shape span []) := within_of_nil rfl

/-- A function has one level more than its body. -/
theorem within_functionOutline (inside : ∀ outline ∈ below, Within Outline.parts bound outline) :
    Within Outline.parts (bound + 1) (functionOutline text node below) := by
  refine within_over _ _ fun outline member => ?_
  split at member
  · exact List.mem_singleton.mp member ▸ within_leaf _ _
  · exact inside outline member

/-- What a node is lowered to has few levels more than what its parts are lowered to. -/
theorem within_outlineOver (inside : ∀ outline ∈ below, Within Outline.parts bound outline) :
    Within Outline.parts (bound + standing.levels) (outlineOver text node standing below) := by
  -- A leaf, a node over what its parts are lowered to, and a function over its body are the forms that occur.
  have one : bound + 1 ≤ bound + standing.levels := by cases standing <;> simp [Standing.levels]
  have leaf {shape : Shape} : Within Outline.parts (bound + standing.levels) (.mk shape node.span []) :=
    within_leaf shape node.span
  have above {shape : Shape} : Within Outline.parts (bound + standing.levels) (.mk shape node.span below) :=
    (within_over shape node.span inside).mono one
  have function : Within Outline.parts (bound + 1) (functionOutline text node below) := within_functionOutline inside
  unfold outlineOver
  cases role : node.role
  -- A wrapper is its first part or a leaf.
  case group | cast | nonNull =>
    cases below with
    | nil => exact leaf
    | cons first rest => exact (inside first (List.mem_cons_self ..)).mono (Nat.le_add_right ..)
  case importStatement | identifier | propertyName | string | this => exact leaf
  case exportStatement =>
    dsimp only
    split
    · exact leaf
    all_goals exact above
  case call =>
    dsimp only
    split
    · exact leaf
    · -- What stands in for a missing callee is a leaf beside the arguments.
      refine (within_over _ _ fun outline member => ?_).mono one
      split at member
      · exact inside outline member
      · rcases List.mem_cons.mp member with rfl | member
        · exact within_leaf _ _
        · exact inside outline member
  case shorthand =>
    cases standing with
    | alone => exact leaf
    -- As an entry a shorthand stands over the name that it is by itself.
    | entry =>
      refine (within_over _ _ fun outline member => ?_).mono one
      exact List.mem_singleton.mp member ▸ within_leaf _ _
  case templateString | update =>
    dsimp only
    split
    · exact above
    · exact leaf
  case function => exact function.mono one
  case method =>
    cases standing with
    | alone => exact function
    -- As an entry a method has a level for itself, and one for the function over its body.
    | entry => exact within_over _ _ fun outline member => List.mem_singleton.mp member ▸ function
  case assignment | member =>
    dsimp only
    split <;> exact above
  case pair =>
    cases standing with
    | alone => exact above
    | entry =>
      -- A pair always has a value, which may be a leaf that stands in for it.
      refine (within_over _ _ fun outline member => ?_).mono one
      split at member
      · exact List.mem_singleton.mp member ▸ within_leaf _ _
      · exact inside outline member
  all_goals exact above

/-- A part that is lowered with a node has fewer levels below itself. -/
theorem within_of_keptPart {part : Part node} (member : part ∈ keptParts standing node)
    (within : Within Cst.children bound node) : ∃ lower < bound, Within Cst.children lower part.1 := by
  -- The part is a child, or it is an argument and lies two levels below the node.
  rcases mem_children_of_keptPart member with isChild | ⟨child, isChild, isInner⟩
  · obtain ⟨lower, rfl, deeper⟩ := within.of_mem isChild
    exact ⟨lower, Nat.lt_succ_self lower, deeper⟩
  · obtain ⟨middle, rfl, deep⟩ := within.of_mem isChild
    obtain ⟨lower, rfl, deeper⟩ := deep.of_mem isInner
    exact ⟨lower, by omega, deeper⟩

/-- A node is lowered to no more than twice as many levels, besides those of its own. -/
theorem within_outlineOf (text : String) (within : Within Cst.children bound node) :
    Within Outline.parts (2 * bound + standing.levels) (outlineOf text standing node) := by
  -- The induction is on the levels, since the arguments of a call lie two levels below it.
  induction bound using Nat.strongRecOn generalizing node standing with
  | _ bound ih =>
    rw [outlineOf]
    -- Each part has at most twice as many levels as it has in the script, and two more as an entry.
    refine within_outlineOver fun outline member => ?_
    obtain ⟨part, isPart, rfl⟩ := List.mem_map.mp member
    obtain ⟨lower, fewer, deeper⟩ := within_of_keptPart isPart within
    have two : (standingBelow node).levels ≤ 2 := by cases standingBelow node <;> decide
    exact (ih lower fewer deeper).mono (by omega)

/-! ### Calls inside of each other -/

/-- Where all answers are known, they are gathered. -/
theorem mapM_eq_some {α β : Type} {ask : α → Option β} {answer : α → β} {list : List α}
    (known : ∀ item ∈ list, ask item = some (answer item)) : list.mapM ask = some (list.map answer) := by
  induction list with
  | nil => rfl
  | cons item rest ih =>
    obtain ⟨first, known⟩ := List.forall_mem_cons.mp known
    rw [List.mapM_cons, first, ih known]
    rfl

/-- What a node is lowered to, as long as no more than a number of calls are needed inside of each other. -/
def outlineWithin (text : String) : Nat → Standing → Cst → Option Outline
  | 0, _, _ => none
  | calls + 1, standing, node =>
    ((keptParts standing node).mapM fun part => outlineWithin text calls (standingBelow node) part.1).map
      (outlineOver text node standing)

/-- No more calls are needed than there are levels. -/
theorem outlineWithin_eq {calls : Nat} (within : Within Cst.children bound node) (enough : bound < calls) :
    outlineWithin text calls standing node = some (outlineOf text standing node) := by
  -- Each call answers for one level of the script.
  induction calls generalizing bound node standing with
  | zero => omega
  | succ calls ih =>
    -- Each part has fewer levels below itself, for which one call less is enough.
    have known : ∀ part ∈ keptParts standing node, outlineWithin text calls (standingBelow node) part.1 =
        some (outlineOf text (standingBelow node) part.1) := by
      intro part isPart
      obtain ⟨lower, fewer, deeper⟩ := within_of_keptPart isPart within
      exact ih deeper (by omega)
    rw [outlineWithin, mapM_eq_some known, outlineOf]
    rfl

end Tree

/-- An accepted script has no more levels than allowed. -/
theorem Script.within_of_accepted {text : String} {root : Cst}
    (accepted : parseStrict text = .ok root ∨ parsePermissive text = .ok root) :
    Within Cst.children deepest root := by
  -- Both ways of reading refuse a script with more levels before they give a tree.
  have judged (dialect : Dialect) (tolerance : Tolerance) (parsed : parse dialect tolerance text = .ok root) :
      Cursor.deeperThan deepest (Cursor.atRoot root) = false := by
    unfold parse at parsed
    split at parsed
    · cases parsed
    · split at parsed
      · rename_i verdict
        cases parsed
        unfold judge at verdict
        split at verdict
        · cases verdict
        · rename_i shallow
          exact eq_false_of_ne_true shallow
      · cases parsed
  refine Cst.within_of_below ((Cursor.deeperThan_eq_false_iff deepest root).mp ?_)
  rcases accepted with strict | permissive
  · exact judged .typed .strict strict
  · exact judged .markup .permissive permissive

end LayerAudit
