import LayerAudit.Proofs.Tree.Walk
import Mathlib.Data.List.Nodup

/-!
A walk keeps the places to go to on a stack, on which one place may stand several times. It meets the same nodes in the
same order as the recursive traversal, which visits the children of a node one after another and remembers where it was.
-/

namespace LayerAudit.SyntaxTree

variable {σ : Type}

/-! ### The recursive traversal -/

/-- The places whose nodes a visitor was told, in their order, and what the visitor carries. -/
structure Tour (σ : Type) where
  met : List Nat
  carried : σ
  deriving DecidableEq, Repr

/-- The number of nodes that were not met yet. -/
def unmet (tree : SyntaxTree) (met : List Nat) : Nat := ((List.range tree.nodes.size).filter (· ∉ met)).length

/-- Meeting a node leaves fewer unmet ones. -/
theorem unmet_concat_lt (tree : SyntaxTree) {met : List Nat} {place : Nat}
    (fresh : place < tree.nodes.size ∧ place ∉ met) : tree.unmet (met ++ [place]) < tree.unmet met := by
  have rest : (List.range tree.nodes.size).filter (· ∉ met ++ [place]) =
      ((List.range tree.nodes.size).filter (· ∉ met)).erase place := by
    -- The places are distinct, so that the one that was met is erased with its only occurrence.
    have distinct : ((List.range tree.nodes.size).filter (· ∉ met)).Nodup := List.nodup_range.filter _
    rw [distinct.erase_eq_filter, List.filter_filter]
    refine List.filter_congr fun other _ => Bool.eq_iff_iff.mpr ?_
    simp [and_comm]
  -- The place was unmet before, so that erasing it makes the list shorter.
  have listed : place ∈ (List.range tree.nodes.size).filter (· ∉ met) := by simp [fresh]
  have some := List.length_pos_of_mem listed
  rw [unmet, unmet, rest, List.length_erase_of_mem listed]
  omega

/-- When more was met, no more nodes are unmet. -/
theorem unmet_le_of_grown (tree : SyntaxTree) {met more : List Nat} (grows : met <+: more) :
    tree.unmet more ≤ tree.unmet met := by
  refine (List.monotone_filter_right _ fun place absent => ?_).length_le
  have absent : place ∉ more := by simpa using absent
  simpa using fun member => absent (grows.subset member)

/-- A tour that goes on from another one. -/
abbrev Longer (tour : Tour σ) := { after : Tour σ // tour.met <+: after.met }

/-- A tour that goes on from a longer one. -/
def Longer.andThen {tour told : Tour σ} (first : Longer told) (grows : tour.met <+: told.met)
    (next : ∀ middle : Tour σ, told.met <+: middle.met → Longer middle) : Longer tour :=
  ⟨(next first.1 first.2).1, (grows.trans first.2).trans (next first.1 first.2).2⟩

/-- Visit some places one after another, each with all that lies below it before the next one. A place without a node
and one that was met before are passed over, and nothing below a node is visited that the visitor does not enter. -/
def traverse (tree : SyntaxTree) (visit : Nat → Shape → σ → Bool × σ) (places : List Nat) (tour : Tour σ) :
    Longer tour :=
  match places with
  | [] => ⟨tour, List.prefix_rfl⟩
  | place :: rest =>
    if fresh : place < tree.nodes.size ∧ place ∉ tour.met then
      -- The visitor is told of the node, and then answers whether to enter it.
      let shape := (getElem tree.nodes place fresh.1).shape
      let answer := visit place shape tour.carried
      let told : Tour σ := ⟨tour.met ++ [place], answer.2⟩
      let below : Longer told := if answer.1 then traverse tree visit shape.children told else ⟨told, List.prefix_rfl⟩
      -- What lies below the place is visited before the rest, which goes on from where that ended.
      below.andThen (List.prefix_append _ _) fun middle _longer => traverse tree visit rest middle
    else traverse tree visit rest tour
termination_by (tree.unmet tour.met, places.length)
decreasing_by
  · exact Prod.Lex.left _ _ (unmet_concat_lt tree fresh)
  · exact Prod.Lex.left _ _ (Nat.lt_of_le_of_lt (unmet_le_of_grown tree _longer) (unmet_concat_lt tree fresh))
  · apply Prod.Lex.right
    simp

/-- No node is met twice, and only places with nodes are met. -/
theorem traverse_met (tree : SyntaxTree) (visit : Nat → Shape → σ → Bool × σ) (places : List Nat) (tour : Tour σ)
    (distinct : tour.met.Nodup) (inside : ∀ place ∈ tour.met, place < tree.nodes.size) :
    (tree.traverse visit places tour).1.met.Nodup ∧
      ∀ place ∈ (tree.traverse visit places tour).1.met, place < tree.nodes.size := by
  -- The traversal calls itself twice for a fresh place, and the second call begins where the first one ended.
  fun_induction traverse tree visit places tour with
  | case1 tour => exact ⟨distinct, inside⟩
  | case2 tour place rest fresh shape answer told below ihBelow ihRest =>
    -- The new place was not met before; then come the nodes below it, and then the rest.
    have toldDistinct : told.met.Nodup := List.nodup_append_comm.mp (List.nodup_cons.mpr ⟨fresh.2, distinct⟩)
    have toldInside : ∀ other ∈ told.met, other < tree.nodes.size := by
      intro other member
      rcases List.mem_append.mp member with old | new
      · exact inside other old
      · exact List.mem_singleton.mp new ▸ fresh.1
    -- The visitor enters the node or not, and what lies below keeps both properties.
    have belowMet : below.1.met.Nodup ∧ ∀ other ∈ below.1.met, other < tree.nodes.size := by
      unfold below
      split
      · exact ihBelow toldDistinct toldInside
      · exact ⟨toldDistinct, toldInside⟩
    exact ihRest below.1 below.2 belowMet.1 belowMet.2
  | case3 tour place rest old ih => exact ih distinct inside

/-! ### Walks with a record -/

/-- The visitor that notes each place that it is told of, and goes on as another one does. -/
def record (visit : Nat → Shape → σ → Bool × σ) (place : Nat) (shape : Shape) (tour : Tour σ) : Bool × Tour σ :=
  ((visit place shape tour.carried).1, ⟨tour.met ++ [place], (visit place shape tour.carried).2⟩)

/-- Which places are fresh when some were met. -/
def freshBehind (tree : SyntaxTree) (met : List Nat) : Array Bool :=
  Array.ofFn fun place : Fin tree.nodes.size => decide (place.1 ∉ met)

/-- A place is fresh if it has a node that was not met. -/
theorem freshBehind_iff (tree : SyntaxTree) {met : List Nat} {place : Nat} :
    (tree.freshBehind met)[place]? = some true ↔ place < tree.nodes.size ∧ place ∉ met := by
  simp [freshBehind, Array.getElem?_ofFn]

/-- At first every place is fresh. -/
theorem freshBehind_nil (tree : SyntaxTree) : tree.freshBehind [] = Array.replicate tree.nodes.size true := by
  apply Array.ext <;> simp [freshBehind]

/-- A place that is met is fresh no longer. -/
theorem freshBehind_concat (tree : SyntaxTree) (met : List Nat) (place : Nat) :
    (tree.freshBehind met).setIfInBounds place false = tree.freshBehind (met ++ [place]) := by
  apply Array.ext
  · simp [freshBehind]
  · intro other inside _
    have inside : other < tree.nodes.size := by simpa [freshBehind] using inside
    -- The place itself and every other one are compared by their entries.
    by_cases same : place = other
    · simp [freshBehind, same]
    · rw [Array.getElem_setIfInBounds_ne (by simpa [freshBehind] using inside) same]
      simp [freshBehind, Ne.symm same]

/-- A walk meets a fresh place, and goes on with its children if they are entered. -/
theorem walkOn_fresh {tree : SyntaxTree} {visit : Nat → Shape → σ → Bool × σ} {fresh : Array Bool} {place : Nat}
    (isFresh : fresh[place]? = some true) (rest : List Nat) (carried : σ) :
    tree.walkOn visit fresh (place :: rest) carried =
      tree.walkOn visit (fresh.setIfInBounds place false)
        (if (visit place ((tree.shape? place).getD (.other [])) carried).1 then
          ((tree.shape? place).getD (.other [])).children ++ rest else rest)
        (visit place ((tree.shape? place).getD (.other [])) carried).2 := by
  rw [walkOn, dif_pos isFresh]

/-- A walk passes a place that is not fresh. -/
theorem walkOn_stale {tree : SyntaxTree} {visit : Nat → Shape → σ → Bool × σ} {fresh : Array Bool} {place : Nat}
    (isStale : ¬fresh[place]? = some true) (rest : List Nat) (carried : σ) :
    tree.walkOn visit fresh (place :: rest) carried = tree.walkOn visit fresh rest carried := by
  rw [walkOn, dif_neg isStale]

/-- What a visitor carries does not depend on the record. -/
theorem carried_walkOn_record (tree : SyntaxTree) (visit : Nat → Shape → σ → Bool × σ) (fresh : Array Bool)
    (stack : List Nat) (tour : Tour σ) :
    (tree.walkOn (record visit) fresh stack tour).carried = tree.walkOn visit fresh stack tour.carried := by
  -- The record changes neither the stack nor the answers, so that both walks take the same steps.
  fun_induction walkOn tree (record visit) fresh stack tour with
  | case1 tour => rw [walkOn]
  | case2 fresh tour place rest isFresh shape enters next met ih =>
    -- Both visitors give the same answer.
    obtain ⟨rfl, rfl⟩ := Prod.mk.inj met
    rw [walkOn_fresh isFresh]
    exact ih
  | case3 fresh tour place rest isStale ih =>
    rw [walkOn_stale isStale]
    exact ih

/-- Places on top of the stack are visited as in the recursive traversal, and then the walk goes on with what lies
below them on the stack. -/
theorem walkOn_append (tree : SyntaxTree) (visit : Nat → Shape → σ → Bool × σ) (places stack : List Nat)
    (tour : Tour σ) :
    tree.walkOn (record visit) (tree.freshBehind tour.met) (places ++ stack) tour =
      tree.walkOn (record visit) (tree.freshBehind (tree.traverse visit places tour).1.met) stack
        (tree.traverse visit places tour).1 := by
  -- The induction follows the traversal, and what lies below on the stack is arbitrary.
  fun_induction traverse tree visit places tour generalizing stack with
  | case1 tour => rfl
  | case2 tour place rest fresh shape answer told below ihBelow ihRest =>
    have found : tree.shape? place = some shape := by simp [shape?, fresh.1, shape]
    -- The node is met, and its children come on top of the rest if they are entered.
    have step : tree.walkOn (record visit) (tree.freshBehind tour.met) (place :: (rest ++ stack)) tour =
        tree.walkOn (record visit) (tree.freshBehind told.met)
          (if answer.1 then shape.children ++ (rest ++ stack) else rest ++ stack) told := by
      rw [walkOn_fresh (tree.freshBehind_iff.mpr fresh), found, freshBehind_concat]
      rfl
    -- The children are visited from the top of the stack, by the hypothesis for what lies below the place.
    have entered : tree.walkOn (record visit) (tree.freshBehind told.met)
        (if answer.1 then shape.children ++ (rest ++ stack) else rest ++ stack) told =
          tree.walkOn (record visit) (tree.freshBehind below.1.met) (rest ++ stack) below.1 := by
      unfold below
      split
      · exact ihBelow (rest ++ stack)
      · rfl
    rw [List.cons_append, step, entered]
    exact ihRest below.1 below.2 stack
  | case3 tour place rest old ih =>
    -- The place has no node, or it was met before.
    rw [List.cons_append, walkOn_stale (mt tree.freshBehind_iff.mp old)]
    exact ih stack

/-- A walk with a record is the recursive traversal. -/
theorem visitFrom_record (tree : SyntaxTree) (visit : Nat → Shape → σ → Bool × σ) (start : Nat) (carried : σ) :
    tree.visitFrom (record visit) start ⟨[], carried⟩ = (tree.traverse visit [start] ⟨[], carried⟩).1 := by
  -- Nothing is left on the stack behind the start.
  have traversed := tree.walkOn_append visit [start] [] ⟨[], carried⟩
  rw [List.append_nil, freshBehind_nil, walkOn.eq_1] at traversed
  exact traversed

/-! ### Searches -/

/-- The visitor that enters every node and carries nothing. -/
def enterAll (_place : Nat) (_shape : Shape) (carried : Unit) : Bool × Unit := (true, carried)

/-- A walk that enters all nodes meets those of the traversal that does. -/
theorem walk_eq_traverse (tree : SyntaxTree) (start : Nat) :
    tree.walk start = (tree.traverse enterAll [start] ⟨[], ()⟩).1.met := by
  -- The walk puts the places in front of each other and turns the list round at its end.
  have collected (fresh : Array Bool) (stack met : List Nat) :
      (tree.walkOn (fun place _ met => (true, place :: met)) fresh stack met).reverse =
        (tree.walkOn (record enterAll) fresh stack ⟨met.reverse, ()⟩).met := by
    fun_induction walkOn tree (fun place _ met => (true, place :: met)) fresh stack met with
    | case1 met => rw [walkOn]
    | case2 fresh met place rest isFresh shape enters next told ih =>
      obtain ⟨rfl, rfl⟩ := Prod.mk.inj told
      rw [List.reverse_cons] at ih
      rw [walkOn_fresh isFresh]
      exact ih
    | case3 fresh met place rest isStale ih =>
      rw [walkOn_stale isStale]
      exact ih
  rw [← visitFrom_record]
  exact collected _ [start] []

/-- The visitor of a search, which enters nodes until it has found one. -/
def searcher (condition : Shape → Bool) (place : Nat) (shape : Shape) : Option Nat → Bool × Option Nat
  | some first => (false, some first)
  | none => if condition shape then (false, some place) else (true, none)

/-- A search is a walk with this visitor. -/
theorem find?_eq_visitFrom (tree : SyntaxTree) (start : Nat) (condition : Shape → Bool) :
    tree.find? start condition = tree.visitFrom (searcher condition) start none := rfl

/-- A search that has found a node keeps it. -/
theorem walkOn_found (tree : SyntaxTree) (condition : Shape → Bool) (fresh : Array Bool) (stack : List Nat)
    (first : Nat) : tree.walkOn (searcher condition) fresh stack (some first) = some first := by
  have step : ∀ place shape found, found = some first → (searcher condition place shape found).2 = some first := by
    rintro place shape _ rfl
    rfl
  exact walkOn_keeps step fresh stack (some first) rfl

/-- What was met stays in front of what is met later. -/
theorem met_walkOn_record (tree : SyntaxTree) (visit : Nat → Shape → σ → Bool × σ) (fresh : Array Bool)
    (stack : List Nat) (tour : Tour σ) : tour.met <+: (tree.walkOn (record visit) fresh stack tour).met := by
  have step : ∀ place shape later, tour.met <+: later.met → tour.met <+: (record visit place shape later).2.met :=
    fun place _ later grows => grows.trans (List.prefix_append later.met [place])
  exact walkOn_keeps step fresh stack tour List.prefix_rfl

/-- A search finds the first node of the whole walk that satisfies the condition, if none did so far. -/
theorem walkOn_searcher (tree : SyntaxTree) (condition : Shape → Bool) (fresh : Array Bool) (stack : List Nat)
    (tour : Tour Unit) (inside : ∀ place : Nat, fresh[place]? = some true → place < tree.nodes.size)
    (missed : ∀ place ∈ tour.met, (tree.shape? place).any condition = false) :
    tree.walkOn (searcher condition) fresh stack none =
      (tree.walkOn (record enterAll) fresh stack tour).met.find? fun place => (tree.shape? place).any condition := by
  -- The induction follows the whole walk; the tour holds the places that did not fit.
  fun_induction walkOn tree (record enterAll) fresh stack tour with
  -- The walk is over, and nothing fitted.
  | case1 tour =>
    rw [walkOn]
    exact (List.find?_eq_none.mpr fun place member => by simp [missed place member]).symm
  | case2 fresh tour place rest isFresh shape enters next met ih =>
    obtain ⟨rfl, rfl⟩ := Prod.mk.inj met
    have found : tree.shape? place = some shape := by simp [shape?, inside place isFresh, shape]
    -- What is fresh later was fresh before, so that it has a node.
    have stays : ∀ other : Nat, (fresh.setIfInBounds place false)[other]? = some true → other < tree.nodes.size := by
      intro other isFresh
      rw [Array.getElem?_setIfInBounds] at isFresh
      split at isFresh
      · split at isFresh <;> cases isFresh
      · exact inside other isFresh
    rw [walkOn_fresh isFresh, found]
    by_cases holds : condition shape
    · -- The search ends here, and the whole walk only adds places behind this one.
      obtain ⟨later, split⟩ := tree.met_walkOn_record enterAll (fresh.setIfInBounds place false)
        (shape.children ++ rest) ⟨tour.met ++ [place], ()⟩
      have none : tour.met.find? (fun place => (tree.shape? place).any condition) = Option.none :=
        List.find?_eq_none.mpr fun other member => by simp [missed other member]
      have first : (tree.walkOn (record enterAll) (fresh.setIfInBounds place false) (shape.children ++ rest)
          ⟨tour.met ++ [place], ()⟩).met.find? (fun place => (tree.shape? place).any condition) = some place := by
        rw [← split, List.append_assoc, List.find?_append, none]
        simp [found, holds]
      simp only [Option.getD_some, searcher, holds, if_true, walkOn_found]
      exact first.symm
    · -- The node is passed, and both go on with its children.
      have stillMissed : ∀ other ∈ tour.met ++ [place], (tree.shape? other).any condition = false := by
        intro other member
        rcases List.mem_append.mp member with old | new
        · exact missed other old
        · rw [List.mem_singleton.mp new, found]
          simpa using holds
      simp only [Option.getD_some, searcher, holds, Bool.false_eq_true, if_false, if_true]
      exact ih stays stillMissed
  | case3 fresh tour place rest isStale ih =>
    rw [walkOn_stale isStale]
    exact ih inside missed

/-- A search finds the first of the places that a walk over all nodes meets. -/
theorem find?_eq (tree : SyntaxTree) (start : Nat) (condition : Shape → Bool) :
    tree.find? start condition = (tree.walk start).find? fun place => (tree.shape? place).any condition := by
  rw [find?_eq_visitFrom, walk_eq_traverse, ← visitFrom_record]
  refine tree.walkOn_searcher condition _ [start] ⟨[], ()⟩ (fun place isFresh => ?_) (List.forall_mem_nil _)
  -- Every place that is fresh at first has a node.
  simpa using (Array.getElem?_eq_some_iff.mp isFresh).1

/-- A walk over any array of nodes, from any place, tells its visitor the same nodes in the same order as the recursive
traversal does, whatever the visitor carries and whichever nodes it enters. No node is told twice, and a search finds the
first of the nodes that a walk over all of them meets. -/
theorem visitFrom_is_traversal (tree : SyntaxTree) (start : Nat) :
    (∀ (σ : Type) (visit : Nat → Shape → σ → Bool × σ) (carried : σ),
      tree.visitFrom (record visit) start ⟨[], carried⟩ = (tree.traverse visit [start] ⟨[], carried⟩).1 ∧
        tree.visitFrom visit start carried = (tree.traverse visit [start] ⟨[], carried⟩).1.carried ∧
        (tree.traverse visit [start] ⟨[], carried⟩).1.met.Nodup) ∧
    tree.walk start = (tree.traverse enterAll [start] ⟨[], ()⟩).1.met ∧
    ∀ condition, tree.find? start condition =
      (tree.walk start).find? fun place => (tree.shape? place).any condition := by
  refine ⟨fun σ visit carried => ⟨tree.visitFrom_record visit start carried, ?_, ?_⟩, tree.walk_eq_traverse start,
    fun condition => ?_⟩
  · -- The record is taken away for the carried value, and kept for the places that were met.
    rw [← visitFrom_record]
    exact (carried_walkOn_record tree visit _ [start] ⟨[], carried⟩).symm
  · exact (tree.traverse_met visit [start] ⟨[], carried⟩ List.nodup_nil (List.forall_mem_nil _)).1
  · rw [find?_eq_visitFrom, walk_eq_traverse, ← visitFrom_record]
    refine tree.walkOn_searcher condition _ [start] ⟨[], ()⟩ (fun place isFresh => ?_) (List.forall_mem_nil _)
    simpa using (Array.getElem?_eq_some_iff.mp isFresh).1

end LayerAudit.SyntaxTree
