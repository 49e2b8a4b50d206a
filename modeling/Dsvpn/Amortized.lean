import Dsvpn.StepSystem
import Mathlib.Algebra.Ring.Nat
import Mathlib.Algebra.BigOperators.Group.List.Basic

namespace Dsvpn.StepSystem

/-!
# Amortised costs of runs

A run is charged for some of its steps.  Where every charge is paid out of a
potential of the state, or out of what the event brings in, the whole run costs
at most what the events bring in and the potential it uses up.
-/

variable
    {State Event : Type}
    {step : State → Event → Option State}

/-- What the steps of a run cost together, up to the first refused event. -/
def totalCost
    (step : State → Event → Option State)
    (cost : State → Event → State → Nat) :
    State → List Event → Nat
  | _, [] =>
      0
  | state, event :: rest =>
      match step state event with
      | none => 0
      | some next => cost state event next + totalCost step cost next rest

/--
Every step pays `price` for each unit it costs.  The potential may be
negative.
-/
structure Pays
    (step : State → Event → Option State)
    (Invariant : State → Prop)
    (cost : State → Event → State → Nat)
    (price : Nat)
    (income : Event → Nat)
    (potential : State → Int) : Prop where
  preserved :
    ∀ {state event next},
      Invariant state →
      step state event = some next →
      Invariant next
  pays :
    ∀ {state event next},
      Invariant state →
      step state event = some next →
      price * cost state event next + potential next ≤
        potential state + income event

/-- The costs of a run are paid. -/
theorem Pays.totalCost_le
    {Invariant : State → Prop}
    {cost : State → Event → State → Nat}
    {price : Nat}
    {income : Event → Nat}
    {potential : State → Int}
    (paid : Pays step Invariant cost price income potential)
    {state final : State}
    {events : List Event}
    (initially : Invariant state)
    (reached : run step state events = some final) :
    price * totalCost step cost state events + potential final ≤
      potential state + (events.map income).sum := by
  induction events generalizing state with
  | nil =>
      obtain rfl := Option.some.inj reached
      simp [totalCost]
  | cons event rest inductionHypothesis =>
      obtain ⟨next, performed, later⟩ := run_cons_eq_some.mp reached
      have first := paid.pays initially performed
      have others :=
        inductionHypothesis (paid.preserved initially performed) later
      have total :
          totalCost step cost state (event :: rest) =
            cost state event next + totalCost step cost next rest := by
        simp only [totalCost, performed]
      rw [total, List.map_cons, List.sum_cons]
      push_cast at others ⊢
      rw [Int.mul_add]
      omega

end Dsvpn.StepSystem
