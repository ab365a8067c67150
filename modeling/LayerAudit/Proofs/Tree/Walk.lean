import LayerAudit.Tree.Basic

/-! What every meeting with a node keeps, a whole walk keeps. -/

namespace LayerAudit.SyntaxTree

variable {σ : Type} {tree : SyntaxTree} {visit : Nat → Shape → σ → Bool × σ} {Kept : σ → Prop}

/-- A property of the carried value that each meeting keeps holds at the end of a walk. -/
theorem walkOn_keeps (step : ∀ place shape carried, Kept carried → Kept (visit place shape carried).2)
    (fresh : Array Bool) (stack : List Nat) (carried : σ) (start : Kept carried) :
    Kept (tree.walkOn visit fresh stack carried) := by
  -- The induction follows the walk: a fresh place is met, any other is passed over.
  fun_induction walkOn tree visit fresh stack carried with
  | case1 carried => exact start
  | case2 fresh carried place rest isFresh shape enters next met ih =>
    -- The meeting keeps the property, and the walk goes on from what it left.
    have kept := step place shape carried start
    rw [met] at kept
    exact ih kept
  | case3 fresh carried place rest isFresh ih => exact ih start

/-- The same of a walk from a place. -/
theorem visitFrom_keeps (step : ∀ place shape carried, Kept carried → Kept (visit place shape carried).2)
    (origin : Nat) (carried : σ) (start : Kept carried) : Kept (tree.visitFrom visit origin carried) :=
  walkOn_keeps step _ _ carried start

end LayerAudit.SyntaxTree
