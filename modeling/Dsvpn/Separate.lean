import Dsvpn.StepSystem

namespace Dsvpn.StepSystem

/-!
# Two parts that do not touch each other

Two coroutines take turns on one state.  `first` and `second` are what each of
them reads and writes.  When every step of the one leaves the part of the
other alone, and depends on its own part only, an interleaving is no more than
its two halves side by side.
-/

variable {State Event First Second : Type}

/--
`isFirst` tells whose step an event is.  A step of either coroutine needs both
parts to be live; a coroutine that has crashed stops the other one as well.
-/
structure Separate
    (step : State → Event → Option State)
    (isFirst : Event → Bool)
    (first : State → First)
    (second : State → Second)
    (liveFirst : First → Prop)
    (liveSecond : Second → Prop) : Prop where
  live :
    ∀ {state event next},
      step state event = some next →
      liveFirst (first state) ∧ liveSecond (second state)
  keepsSecond :
    ∀ {state event next},
      isFirst event = true →
      step state event = some next →
      second next = second state
  keepsFirst :
    ∀ {state event next},
      isFirst event = false →
      step state event = some next →
      first next = first state
  stepsFirst :
    ∀ {state other event next},
      isFirst event = true →
      step state event = some next →
      first other = first state →
      liveSecond (second other) →
      ∃ otherNext,
        step other event = some otherNext ∧ first otherNext = first next
  stepsSecond :
    ∀ {state other event next},
      isFirst event = false →
      step state event = some next →
      second other = second state →
      liveFirst (first other) →
      ∃ otherNext,
        step other event = some otherNext ∧
          second otherNext = second next

namespace Separate

variable
    {step : State → Event → Option State}
    {isFirst : Event → Bool}
    {first : State → First}
    {second : State → Second}
    {liveFirst : First → Prop}
    {liveSecond : Second → Prop}

/-- The two coroutines have equal rights. -/
theorem symm
    (separate :
      Separate step isFirst first second liveFirst liveSecond) :
    Separate step (fun event => !isFirst event) second first
      liveSecond liveFirst where
  live := fun performed => (separate.live performed).symm
  keepsSecond := fun isSecond => separate.keepsFirst (by simpa using isSecond)
  keepsFirst := fun notSecond =>
    separate.keepsSecond (by simpa using notSecond)
  stepsFirst := fun isSecond =>
    separate.stepsSecond (by simpa using isSecond)
  stepsSecond := fun notSecond =>
    separate.stepsFirst (by simpa using notSecond)

/-- The first coroutine's half of a run is a run by itself. -/
theorem run_first
    (separate :
      Separate step isFirst first second liveFirst liveSecond)
    {state other final : State}
    {events : List Event}
    (same : first other = first state)
    (live : liveSecond (second other))
    (reached : run step state events = some final) :
    ∃ alone,
      run step other (events.filter isFirst) = some alone ∧
        first alone = first final := by
  induction events generalizing state other with
  | nil =>
      simp only [run_nil, Option.some.injEq] at reached
      subst final
      exact ⟨other, rfl, same⟩
  | cons event rest inductionHypothesis =>
      obtain ⟨next, performed, later⟩ := run_cons_eq_some.mp reached
      cases turn : isFirst event with
      | true =>
          obtain ⟨otherNext, otherPerformed, sameNext⟩ :=
            separate.stepsFirst turn performed same live
          have stillLive : liveSecond (second otherNext) := by
            rw [separate.keepsSecond turn otherPerformed]
            exact live
          obtain ⟨alone, aloneReached, sameFinal⟩ :=
            inductionHypothesis sameNext stillLive later
          refine ⟨alone, ?_, sameFinal⟩
          rw [List.filter_cons_of_pos turn]
          exact run_cons_eq_some.mpr
            ⟨otherNext, otherPerformed, aloneReached⟩
      | false =>
          rw [List.filter_cons_of_neg (by simp [turn])]
          exact inductionHypothesis
            (same.trans (separate.keepsFirst turn performed).symm)
            live later

/-- So is the other half. -/
theorem run_second
    (separate :
      Separate step isFirst first second liveFirst liveSecond)
    {state other final : State}
    {events : List Event}
    (same : second other = second state)
    (live : liveFirst (first other))
    (reached : run step state events = some final) :
    ∃ alone,
      run step other (events.filter fun event => !isFirst event) =
          some alone ∧
        second alone = second final :=
  separate.symm.run_first same live reached

/-- A run that ends with a live first part started with one. -/
theorem liveFirst_of_run
    (separate :
      Separate step isFirst first second liveFirst liveSecond)
    {state final : State}
    {events : List Event}
    (reached : run step state events = some final)
    (live : liveFirst (first final)) :
    liveFirst (first state) := by
  cases events with
  | nil =>
      simp only [run_nil, Option.some.injEq] at reached
      rw [reached]
      exact live
  | cons event rest =>
      obtain ⟨next, performed, _⟩ := run_cons_eq_some.mp reached
      exact (separate.live performed).1

/--
Two runs, one of each coroutine by itself, can be interleaved in any way, as
long as neither has crashed.
-/
theorem run_interleaved
    (separate :
      Separate step isFirst first second liveFirst liveSecond)
    {state one other oneFinal otherFinal : State}
    {events : List Event}
    (sameFirst : first state = first one)
    (sameSecond : second state = second other)
    (oneReached : run step one (events.filter isFirst) = some oneFinal)
    (otherReached :
      run step other (events.filter fun event => !isFirst event) =
        some otherFinal)
    (oneLive : liveFirst (first oneFinal))
    (otherLive : liveSecond (second otherFinal)) :
    ∃ final,
      run step state events = some final ∧
        first final = first oneFinal ∧
        second final = second otherFinal := by
  induction events generalizing state one other with
  | nil =>
      obtain rfl := Option.some.inj oneReached
      obtain rfl := Option.some.inj otherReached
      exact ⟨state, rfl, sameFirst, sameSecond⟩
  | cons event rest inductionHypothesis =>
      have startsLive : liveFirst (first one) :=
        separate.liveFirst_of_run oneReached oneLive
      have otherStartsLive : liveSecond (second other) :=
        separate.symm.liveFirst_of_run otherReached otherLive
      cases turn : isFirst event with
      | true =>
          rw [List.filter_cons_of_pos turn] at oneReached
          rw [List.filter_cons_of_neg (by simp [turn])] at otherReached
          obtain ⟨oneNext, onePerformed, oneLater⟩ :=
            run_cons_eq_some.mp oneReached
          obtain ⟨next, performed, sameNext⟩ :=
            separate.stepsFirst turn onePerformed sameFirst
              (by rw [sameSecond]; exact otherStartsLive)
          obtain ⟨final, reached, ends⟩ :=
            inductionHypothesis sameNext
              ((separate.keepsSecond turn performed).trans sameSecond)
              oneLater otherReached
          exact ⟨final,
            run_cons_eq_some.mpr ⟨next, performed, reached⟩, ends⟩
      | false =>
          rw [List.filter_cons_of_neg (by simp [turn])] at oneReached
          rw [List.filter_cons_of_pos (by simp [turn])] at otherReached
          obtain ⟨otherNext, otherPerformed, otherLater⟩ :=
            run_cons_eq_some.mp otherReached
          obtain ⟨next, performed, sameNext⟩ :=
            separate.stepsSecond turn otherPerformed sameSecond
              (by rw [sameFirst]; exact startsLive)
          obtain ⟨final, reached, ends⟩ :=
            inductionHypothesis
              ((separate.keepsFirst turn performed).trans sameFirst)
              sameNext oneReached otherLater
          exact ⟨final,
            run_cons_eq_some.mpr ⟨next, performed, reached⟩, ends⟩

end Separate

end Dsvpn.StepSystem
