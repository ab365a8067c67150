import LayerAudit.Script.Cst

/-!
Walks over the tree of a script. A cursor stands at a node and knows the way back to the node where it started. It goes
down to a first child, on to a next sibling and up to a parent, and never beyond its start. The searches of a tree are
loops over these moves: for a node that lies too deep, for the first damage, and for the bytes that damage covers.
-/

namespace LayerAudit.Script

namespace Cst

mutual

/-- The number of nodes at and below a node. -/
def size : Cst → Nat
  | mk _ children => 1 + sizeAll children

/-- The number of nodes at and below several nodes. -/
def sizeAll : List Cst → Nat
  | [] => 0
  | node :: rest => size node + sizeAll rest

end

/-- A node counts besides those below it. -/
theorem size_eq (node : Cst) : node.size = 1 + sizeAll node.children := by
  cases node
  rfl

/-- Nodes of two lists are counted one list after the other. -/
theorem sizeAll_append (first second : List Cst) : sizeAll (first ++ second) = sizeAll first + sizeAll second := by
  -- By induction on the first list: its head is counted once on either side.
  induction first with
  | nil => simp [sizeAll]
  | cons node rest ih =>
    rw [List.cons_append, sizeAll, sizeAll, ih]
    omega

end Cst

/-- A place in a walk over a tree. -/
structure Cursor where
  node : Cst
  /-- The siblings behind the node. Where the walk started there are none. -/
  behind : List Cst := []
  /-- The nodes above, from the parent up to where the walk started, each with the siblings behind it. -/
  above : List (Cst × List Cst) := []
  deriving Inhabited

namespace Cursor

/-! ### Moves -/

/-- The walk that starts at a node. -/
def atRoot (root : Cst) : Cursor := { node := root }

/-- The first child of the node. -/
def firstChild? (cursor : Cursor) : Option Cursor :=
  match cursor.node.children with
  | [] => none
  | child :: rest => some ⟨child, rest, (cursor.node, cursor.behind) :: cursor.above⟩

/-- The next sibling of the node. -/
def nextSibling? (cursor : Cursor) : Option Cursor :=
  match cursor.behind with
  | [] => none
  | sibling :: rest => some { cursor with node := sibling, behind := rest }

/-- The parent of the node. -/
def parent? (cursor : Cursor) : Option Cursor :=
  match cursor.above with
  | [] => none
  | (node, behind) :: above => some ⟨node, behind, above⟩

/-- Going up leaves less above. -/
theorem length_above_of_parent? {cursor parent : Cursor} (found : cursor.parent? = some parent) :
    parent.above.length + 1 = cursor.above.length := by
  -- Without anything above there is no parent. Otherwise the parent's place holds one entry less.
  unfold parent? at found
  split at found
  · cases found
  · rename_i above
    cases found
    simp [above]

/-- Going down leaves one more above. -/
theorem length_above_of_firstChild? {cursor child : Cursor} (found : cursor.firstChild? = some child) :
    child.above.length = cursor.above.length + 1 := by
  unfold firstChild? at found
  split at found
  · cases found
  · cases found
    simp

/-- Going sideways leaves the same above. -/
theorem above_of_nextSibling? {cursor sibling : Cursor} (found : cursor.nextSibling? = some sibling) :
    sibling.above = cursor.above := by
  unfold nextSibling? at found
  split at found
  · cases found
  · cases found
    rfl

/-- The next node in pre-order that is not below the current one. There is none once the walk is back at its start. -/
def onward? (cursor : Cursor) : Option Cursor :=
  -- A sibling comes next. Without one the walk looks for one of the parent, until it is back at its start.
  match cursor.nextSibling? with
  | some sibling => some sibling
  | none =>
    match _up : cursor.parent? with
    | some parent => parent.onward?
    | none => none
termination_by cursor.above.length
decreasing_by
  have shorter := length_above_of_parent? _up
  omega

/-- The next node in pre-order, where nodes that are not entered have nothing below them. -/
def proceed? (cursor : Cursor) (enters : Bool) : Option Cursor :=
  match (if enters then cursor.firstChild? else none) with
  | some child => some child
  | none => cursor.onward?

/-! ### What is still to come -/

/-- The nodes at which a walk goes on once it is done with the current one and all below it. -/
def ahead (cursor : Cursor) : List Cst := cursor.behind ++ cursor.above.flatMap (·.2)

/-- The number of nodes that a walk has not left yet. -/
def work (cursor : Cursor) : Nat := Cst.sizeAll (cursor.node :: cursor.ahead)

/-- A node with children is replaced by these. -/
theorem ahead_of_firstChild? {cursor child : Cursor} (found : cursor.firstChild? = some child) :
    cursor.node.children ++ cursor.ahead = child.node :: child.ahead := by
  unfold firstChild? at found
  -- Only where children exist is there a first one, and the others wait behind it.
  split at found
  · cases found
  · rename_i children
    cases found
    simp [ahead, children]

/-- Without a first child there are no children. -/
theorem children_of_firstChild? {cursor : Cursor} (none : cursor.firstChild? = none) : cursor.node.children = [] := by
  unfold firstChild? at none
  split at none
  · assumption
  · cases none

/-- The next sibling comes first of all that is ahead. -/
theorem ahead_of_nextSibling? {cursor sibling : Cursor} (found : cursor.nextSibling? = some sibling) :
    cursor.ahead = sibling.node :: sibling.ahead := by
  unfold nextSibling? at found
  split at found
  · cases found
  · rename_i behind
    cases found
    simp [ahead, behind]

/-- Without a next sibling the parent has the same ahead. -/
theorem ahead_of_parent? {cursor parent : Cursor} (last : cursor.nextSibling? = none)
    (found : cursor.parent? = some parent) : cursor.ahead = parent.ahead := by
  -- Both moves look at the siblings behind and at what is above, so these two cases are all there is.
  unfold nextSibling? at last
  unfold parent? at found
  split at last
  · rename_i behind
    split at found
    · cases found
    · rename_i above
      cases found
      simp [ahead, behind, above]
  · cases last

/-- Without a next sibling and a parent nothing is ahead. -/
theorem ahead_eq_nil {cursor : Cursor} (last : cursor.nextSibling? = none) (top : cursor.parent? = none) :
    cursor.ahead = [] := by
  unfold nextSibling? at last
  unfold parent? at top
  split at last
  · rename_i behind
    split at top
    · rename_i above
      simp [ahead, behind, above]
    · cases top
  · cases last

/-- Going onward leads to the first node ahead, if there is one. -/
theorem ahead_eq_onward? (cursor : Cursor) :
    cursor.ahead = (cursor.onward?.map fun next => next.node :: next.ahead).getD [] := by
  -- By induction on the climb: a sibling ends it, a parent has the same ahead, and at the start nothing is left.
  fun_induction onward? cursor with
  | case1 cursor sibling found => exact ahead_of_nextSibling? found
  | case2 cursor last parent up ih => exact (ahead_of_parent? last up).trans ih
  | case3 cursor last top => exact ahead_eq_nil last top

/-- Going on in pre-order leads to the first of the children, if these are entered, and of the nodes ahead. -/
theorem ahead_eq_proceed? (cursor : Cursor) (enters : Bool) :
    (if enters then cursor.node.children else []) ++ cursor.ahead =
      ((cursor.proceed? enters).map fun next => next.node :: next.ahead).getD [] := by
  unfold proceed?
  -- A node that is not entered is left as on the way up. An entered one without children likewise.
  cases enters with
  | false => exact cursor.ahead_eq_onward?
  | true =>
    cases down : cursor.firstChild? with
    | some child => exact ahead_of_firstChild? down
    | none => simpa [children_of_firstChild? down] using cursor.ahead_eq_onward?

/-- Going on in pre-order leaves some node for good. -/
theorem work_of_proceed? {cursor next : Cursor} {enters : Bool} (found : cursor.proceed? enters = some next) :
    next.work < cursor.work := by
  -- What was ahead and below becomes the next node and what is ahead of it. The sizes of both sides agree.
  have rest := cursor.ahead_eq_proceed? enters
  rw [found] at rest
  have counted := congrArg Cst.sizeAll rest
  rw [Cst.sizeAll_append] at counted
  have entered : Cst.sizeAll (if enters then cursor.node.children else []) ≤ Cst.sizeAll cursor.node.children := by
    cases enters <;> simp [Cst.sizeAll]
  -- The node itself is not among those that are still to come.
  have own := cursor.node.size_eq
  simp only [work, Cst.sizeAll, Option.map_some, Option.getD_some] at counted ⊢
  omega

/-! ### Damage -/

/-- The first damage of the walk. What has no damage below it is not entered. -/
def firstDamage? (cursor : Cursor) : Option Cst :=
  -- A damaged node ends the search. Otherwise it goes below only where some damage lies.
  if cursor.node.isDamage then some cursor.node
  else
    match _next : cursor.proceed? cursor.node.hasDamage with
    | some next => next.firstDamage?
    | none => none
termination_by cursor.work
decreasing_by exact work_of_proceed? _next

/-- The number of bytes inside damage, where damage inside damage counts once. -/
def damagedBytes (total : Nat) (cursor : Cursor) : Nat :=
  let isDamage := cursor.node.isDamage
  let counted := if isDamage then total + cursor.node.span.size else total
  -- What lies below a damaged node is part of its bytes already.
  match _next : cursor.proceed? (!isDamage && cursor.node.hasDamage) with
  | some next => next.damagedBytes counted
  | none => counted
termination_by cursor.work
decreasing_by exact work_of_proceed? _next

end Cursor

/-! ### Depth -/

/-- A state of the walk that measures how deep nodes lie. -/
structure Sounding where
  cursor : Cursor
  /-- The levels that the walk went down and has not come up again, as they are counted on the way. -/
  depth : Nat := 0
  /-- The walk was at the node and below it already, and is about to leave it. -/
  leaves : Bool := false
  deriving Inhabited

namespace Sounding

/-- The step to the next state. The walk ends when it leaves the node where it started. -/
def next? (state : Sounding) : Option Sounding :=
  -- Leaving a node leads sideways or up. Otherwise the walk goes down, and turns round at a leaf.
  if state.leaves then
    match state.cursor.nextSibling? with
    | some sibling => some { state with cursor := sibling, leaves := false }
    | none => state.cursor.parent?.map fun parent => { state with cursor := parent, depth := state.depth - 1 }
  else
    match state.cursor.firstChild? with
    | some child => some { state with cursor := child, depth := state.depth + 1 }
    | none => some { state with leaves := true }

/-- The nodes that a walk has not left yet. -/
def pending (state : Sounding) : List Cst :=
  if state.leaves then state.cursor.ahead else state.cursor.node :: state.cursor.ahead

/-- The moves that are left in a walk, at most: down into each node, and up from each node and its parents. -/
def work (state : Sounding) : Nat :=
  2 * Cst.sizeAll state.pending + state.cursor.above.length + (if state.leaves then 1 else 0)

/-- Every step is one of the moves that are left. -/
theorem work_of_next? {state next : Sounding} (found : state.next? = some next) : next.work < state.work := by
  -- By the direction of the walk. Leaving takes one node, or one level above, from the work that is left.
  obtain ⟨cursor, depth, leaves⟩ := state
  unfold next? at found
  cases leaves with
  | true =>
    simp only [if_true] at found
    split at found
    · rename_i sibling further
      cases found
      simp [work, pending, Cursor.ahead_of_nextSibling? further, Cursor.above_of_nextSibling? further]
    · rename_i last
      obtain ⟨parent, up, rfl⟩ := Option.map_eq_some_iff.mp found
      have shorter := Cursor.length_above_of_parent? up
      simp [work, pending, Cursor.ahead_of_parent? last up, ← shorter]
  -- Going down, the children take the place of the node, and one more level has to be left again.
  | false =>
    have own := cursor.node.size_eq
    simp only [Bool.false_eq_true, if_false] at found
    split at found
    · rename_i child down
      cases found
      have below := congrArg Cst.sizeAll (Cursor.ahead_of_firstChild? down)
      have longer := Cursor.length_above_of_firstChild? down
      rw [Cst.sizeAll_append] at below
      simp only [work, pending, Bool.false_eq_true, if_false, Cst.sizeAll] at below ⊢
      omega
    · -- A leaf has only to be left, which is one move less than to enter and leave it.
      cases found
      simp only [work, pending, Bool.false_eq_true, if_true, if_false, Cst.sizeAll]
      omega

/-- Some node of the walk lies more than a number of levels below its start, by the count on the way. -/
def exceeds (limit : Nat) (state : Sounding) : Bool :=
  -- Nodes are measured on the way down only, when the count stands for the level of the node.
  if !state.leaves && limit < state.depth then true
  else
    match _next : state.next? with
    | some next => exceeds limit next
    | none => false
termination_by state.work
decreasing_by exact work_of_next? _next

end Sounding

/-- Some node of the walk lies more than a number of levels below its start. -/
def Cursor.deeperThan (limit : Nat) (cursor : Cursor) : Bool := Sounding.exceeds limit { cursor }

end LayerAudit.Script
