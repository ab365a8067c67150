import Mathlib.Logic.Function.Iterate

/-!
Steps that may come to an end. A step gives the next state or none, and is repeated from a first state on. What a step
keeps, a run keeps, and where every step lowers a measure, a run takes no more steps than the measure allows.
-/

namespace LayerAudit

/-- The state after so many steps, if there are so many. -/
def iterate? {State : Type} (step : State → Option State) : Nat → State → Option State
  | 0, state => some state
  | steps + 1, state => (step state).bind (iterate? step steps)

variable {State : Type} {step : State → Option State} {steps : Nat} {first last : State}

/-- A run of some steps is a step and a run of one less. -/
theorem iterate?_succ_eq_some_iff :
    iterate? step (steps + 1) first = some last ↔
      ∃ next, step first = some next ∧ iterate? step steps next = some last :=
  Option.bind_eq_some_iff

/-- What every step keeps holds at the end of a run. -/
theorem iterate?_keeps {Holds : State → Prop}
    (keeps : ∀ {here next : State}, Holds here → step here = some next → Holds next) (holds : Holds first)
    (reached : iterate? step steps first = some last) : Holds last := by
  induction steps generalizing first with
  | zero =>
    cases reached
    exact holds
  | succ steps ih =>
    -- The first step keeps it, and the rest of the run begins where that step leads.
    obtain ⟨next, taken, reached⟩ := iterate?_succ_eq_some_iff.mp reached
    exact ih (keeps holds taken) reached

/-- Where every step lowers a measure, the steps of a run come out of what the measure was at first. -/
theorem iterate?_add_le {measure : State → Nat}
    (lowers : ∀ {here next : State}, step here = some next → measure next < measure here)
    (reached : iterate? step steps first = some last) : steps + measure last ≤ measure first := by
  induction steps generalizing first with
  | zero =>
    cases reached
    omega
  | succ steps ih =>
    obtain ⟨next, taken, reached⟩ := iterate?_succ_eq_some_iff.mp reached
    -- The first step lowers the measure by one at least, which pays for that step.
    have lower := lowers taken
    have later := ih reached
    omega

end LayerAudit
