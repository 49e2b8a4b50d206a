import Mathlib.Data.List.Basic
import Mathlib.Tactic.Common

namespace Dsvpn.StepSystem

/-!
# Executable step systems

A step system is a partial function from a state and an event to the next
state; `none` means that the event is not enabled.  This module has the runs
of such a system and the induction rules the model's proofs use: invariants
over all runs, invariants over the runs whose steps all meet a condition, and
the comparison of a run with the run from which some events were removed.
-/

variable {State Event : Type}

/-- Perform a list of events; every one has to be enabled. -/
def run
    (step : State → Event → Option State) :
    State → List Event → Option State
  | state, [] =>
      some state
  | state, event :: rest =>
      match step state event with
      | none => none
      | some next => run step next rest

/--
Every event of the list meets `condition` in the state in which it happens.
-/
def Along
    (step : State → Event → Option State)
    (condition : State → Event → Prop) :
    State → List Event → Prop
  | _, [] =>
      True
  | state, event :: rest =>
      condition state event ∧
        match step state event with
        | none => True
        | some next => Along step condition next rest

instance decidableAlong
    (step : State → Event → Option State)
    (condition : State → Event → Prop)
    [∀ state event, Decidable (condition state event)]
    (state : State)
    (events : List Event) :
    Decidable (Along step condition state events) :=
  match events with
  | [] =>
      inferInstanceAs (Decidable True)
  | event :: rest =>
      match performed : step state event with
      | none =>
          decidable_of_iff (condition state event ∧ True)
            (by simp only [Along, performed])
      | some next =>
          have := decidableAlong step condition next rest
          decidable_of_iff
            (condition state event ∧ Along step condition next rest)
            (by simp only [Along, performed])

variable {step : State → Event → Option State}

@[simp] theorem run_nil (state : State) :
    run step state [] = some state :=
  rfl

/-- A nonempty run performs its first event and continues. -/
theorem run_cons_eq_some
    {state final : State}
    {event : Event}
    {rest : List Event} :
    run step state (event :: rest) = some final ↔
      ∃ next, step state event = some next ∧
        run step next rest = some final := by
  rw [run]
  cases step state event with
  | none => simp only [reduceCtorEq, false_and, exists_false]
  | some next => simp only [Option.some.injEq, exists_eq_left']

/-- Runs compose. -/
theorem run_append
    (state : State)
    (first later : List Event) :
    run step state (first ++ later) =
      (run step state first).bind fun middle => run step middle later := by
  induction first generalizing state with
  | nil =>
      rfl
  | cons event rest inductionHypothesis =>
      simp only [List.cons_append, run]
      cases step state event with
      | none => rfl
      | some next => exact inductionHypothesis next

/-- What every step preserves holds after every run. -/
theorem run_invariant
    {Invariant : State → Prop}
    (preserved :
      ∀ {state event next},
        Invariant state →
        step state event = some next →
        Invariant next)
    {state final : State}
    {events : List Event}
    (initially : Invariant state)
    (reached : run step state events = some final) :
    Invariant final := by
  induction events generalizing state with
  | nil =>
      simp only [run_nil, Option.some.injEq] at reached
      subst final
      exact initially
  | cons event rest inductionHypothesis =>
      obtain ⟨next, performed, later⟩ := run_cons_eq_some.mp reached
      exact inductionHypothesis (preserved initially performed) later

/--
What every step that meets the condition preserves holds after every run
whose steps all meet the condition.
-/
theorem run_invariant_along
    {Invariant : State → Prop}
    {condition : State → Event → Prop}
    (preserved :
      ∀ {state event next},
        Invariant state →
        condition state event →
        step state event = some next →
        Invariant next)
    {state final : State}
    {events : List Event}
    (initially : Invariant state)
    (conditions : Along step condition state events)
    (reached : run step state events = some final) :
    Invariant final := by
  induction events generalizing state with
  | nil =>
      simp only [run_nil, Option.some.injEq] at reached
      subst final
      exact initially
  | cons event rest inductionHypothesis =>
      obtain ⟨next, performed, later⟩ := run_cons_eq_some.mp reached
      simp only [Along, performed] at conditions
      exact inductionHypothesis
        (preserved initially conditions.1 performed)
        conditions.2 later

/-- Where a condition is met along a run, so is what follows from it. -/
theorem Along.imp
    {condition consequence : State → Event → Prop}
    (follows :
      ∀ {state event}, condition state event → consequence state event)
    {state : State}
    {events : List Event}
    (conditions : Along step condition state events) :
    Along step consequence state events := by
  induction events generalizing state with
  | nil =>
      trivial
  | cons event rest inductionHypothesis =>
      obtain ⟨here, later⟩ := conditions
      refine ⟨follows here, ?_⟩
      split
      · trivial
      · rename_i next performed
        rw [performed] at later
        exact inductionHypothesis later

/-- A condition on the events alone holds along every run of such events. -/
theorem along_of_forall
    {condition : Event → Prop}
    {state : State}
    {events : List Event}
    (all : ∀ event ∈ events, condition event) :
    Along step (fun _ event => condition event) state events := by
  induction events generalizing state with
  | nil =>
      trivial
  | cons event rest inductionHypothesis =>
      refine ⟨all event List.mem_cons_self, ?_⟩
      split
      · trivial
      · exact inductionHypothesis fun later member =>
          all later (List.mem_cons_of_mem _ member)

/--
An invariant that also speaks about what the events have brought so far, as
long as that is a prefix of a given stream.
-/
theorem run_invariant_observing
    {Item : Type}
    {Invariant : List Item → State → Prop}
    {condition : State → Event → Prop}
    {observe : Event → List Item}
    {stream : List Item}
    (preserved :
      ∀ {past state event next},
        Invariant past state →
        condition state event →
        past ++ observe event <+: stream →
        step state event = some next →
        Invariant (past ++ observe event) next)
    {past : List Item}
    {state final : State}
    {events : List Event}
    (initially : Invariant past state)
    (conditions : Along step condition state events)
    (whole : past ++ events.flatMap observe <+: stream)
    (reached : run step state events = some final) :
    Invariant (past ++ events.flatMap observe) final := by
  induction events generalizing past state with
  | nil =>
      simp only [run_nil, Option.some.injEq] at reached
      subst final
      simpa using initially
  | cons event rest inductionHypothesis =>
      obtain ⟨next, performed, later⟩ := run_cons_eq_some.mp reached
      simp only [Along, performed] at conditions
      rw [List.flatMap_cons, ← List.append_assoc] at whole ⊢
      have sofar : past ++ observe event <+: stream :=
        (List.prefix_append _ _).trans whole
      exact inductionHypothesis
        (preserved initially conditions.1 sofar performed)
        conditions.2 whole later

/-- Some event that meets the condition can happen, and leaves less work. -/
def ProgressesAlong
    {Item : Type}
    (step : State → Event → Option State)
    (condition : State → Event → Prop)
    (observe : Event → List Item)
    (stream : List Item)
    (work : List Item → State → Nat)
    (past : List Item)
    (state : State) : Prop :=
  ∃ event next,
    condition state event ∧
      past ++ observe event <+: stream ∧
      step state event = some next ∧
      work (past ++ observe event) next < work past state

/--
If some event leaves less work until a state is done with the stream, then
every state can be continued to one that is.
-/
theorem exists_run_along_of_progress
    {Item : Type}
    {Invariant Done : List Item → State → Prop}
    {condition : State → Event → Prop}
    {observe : Event → List Item}
    {stream : List Item}
    (work : List Item → State → Nat)
    (preserved :
      ∀ {past state event next},
        Invariant past state →
        condition state event →
        past ++ observe event <+: stream →
        step state event = some next →
        Invariant (past ++ observe event) next)
    (progress :
      ∀ {past state},
        Invariant past state →
        past <+: stream →
        ¬ Done past state →
        ProgressesAlong step condition observe stream work past state)
    {past : List Item}
    {state : State}
    (initially : Invariant past state)
    (sofar : past <+: stream) :
    ∃ events final,
      Along step condition state events ∧
        past ++ events.flatMap observe <+: stream ∧
        run step state events = some final ∧
        Done (past ++ events.flatMap observe) final := by
  induction left : work past state using Nat.strongRecOn
    generalizing past state with
  | ind left inductionHypothesis =>
      by_cases done : Done past state
      · refine ⟨[], state, trivial, ?_, rfl, ?_⟩
        · simpa using sofar
        · simpa using done
      · obtain ⟨event, next, allowed, whole, performed, less⟩ :=
          progress initially sofar done
        subst left
        obtain ⟨events, final, all, wholeLater, reached, finished⟩ :=
          inductionHypothesis _ less
            (preserved initially allowed whole performed) whole rfl
        refine ⟨event :: events, final, ?_, ?_, ?_, ?_⟩
        · simp only [Along, performed]
          exact ⟨allowed, all⟩
        · simpa [List.append_assoc] using wholeLater
        · exact run_cons_eq_some.mpr ⟨next, performed, reached⟩
        · simpa [List.append_assoc] using finished

/-- Along a run that is performed, every event meets the condition. -/
theorem forall_of_along
    {condition : Event → Prop}
    {state final : State}
    {events : List Event}
    (conditions :
      Along step (fun _ event => condition event) state events)
    (reached : run step state events = some final) :
    ∀ event ∈ events, condition event := by
  induction events generalizing state with
  | nil => simp
  | cons event rest inductionHypothesis =>
      obtain ⟨next, performed, later⟩ := run_cons_eq_some.mp reached
      simp only [Along, performed] at conditions
      intro member inEvents
      rcases List.mem_cons.mp inEvents with rfl | inRest
      · exact conditions.1
      · exact inductionHypothesis conditions.2 later member inRest

/-- The same, when the condition is one on the events alone. -/
def Progresses
    {Item : Type}
    (step : State → Event → Option State)
    (condition : Event → Prop)
    (observe : Event → List Item)
    (stream : List Item)
    (work : List Item → State → Nat)
    (past : List Item)
    (state : State) : Prop :=
  ∃ event next,
    condition event ∧
      past ++ observe event <+: stream ∧
      step state event = some next ∧
      work (past ++ observe event) next < work past state

theorem exists_run_of_progress
    {Item : Type}
    {Invariant Done : List Item → State → Prop}
    {condition : Event → Prop}
    {observe : Event → List Item}
    {stream : List Item}
    (work : List Item → State → Nat)
    (preserved :
      ∀ {past state event next},
        Invariant past state →
        condition event →
        past ++ observe event <+: stream →
        step state event = some next →
        Invariant (past ++ observe event) next)
    (progress :
      ∀ {past state},
        Invariant past state →
        past <+: stream →
        ¬ Done past state →
        Progresses step condition observe stream work past state)
    {past : List Item}
    {state : State}
    (initially : Invariant past state)
    (sofar : past <+: stream) :
    ∃ events final,
      (∀ event ∈ events, condition event) ∧
        past ++ events.flatMap observe <+: stream ∧
        run step state events = some final ∧
        Done (past ++ events.flatMap observe) final := by
  have along :
      ∃ events final,
        Along step (fun _ event => condition event) state events ∧
          past ++ events.flatMap observe <+: stream ∧
          run step state events = some final ∧
          Done (past ++ events.flatMap observe) final :=
    exists_run_along_of_progress work
      (fun holds allowed whole performed =>
        preserved holds allowed whole performed)
      (fun holds sofar unfinished => progress holds sofar unfinished)
      initially sofar
  obtain ⟨events, final, conditions, whole, reached, done⟩ := along
  exact ⟨events, final, forall_of_along conditions reached, whole,
    reached, done⟩

/--
When each single step keeps a property exactly under a condition, the
property holds after a run exactly when all steps of the run met it.
-/
theorem run_iff_along
    {Invariant Property : State → Prop}
    {condition : State → Event → Prop}
    (preserved :
      ∀ {state event next},
        Invariant state →
        step state event = some next →
        Invariant next)
    (exact :
      ∀ {state event next},
        Invariant state →
        step state event = some next →
        (Property next ↔ Property state ∧ condition state event))
    {state final : State}
    {events : List Event}
    (initially : Invariant state)
    (reached : run step state events = some final) :
    Property final ↔
      Property state ∧ Along step condition state events := by
  induction events generalizing state with
  | nil =>
      simp only [run_nil, Option.some.injEq] at reached
      subst final
      simp [Along]
  | cons event rest inductionHypothesis =>
      obtain ⟨next, performed, later⟩ := run_cons_eq_some.mp reached
      rw [inductionHypothesis (preserved initially performed) later,
        exact initially performed]
      simp only [Along, performed, and_assoc]

/--
When a step that does not meet the condition leads to a state from which
there is no way back, a run that ends elsewhere met the condition throughout.
-/
theorem along_of_not_doomed
    {Invariant Doomed : State → Prop}
    {condition : State → Event → Prop}
    (preserved :
      ∀ {state event next},
        Invariant state →
        condition state event →
        step state event = some next →
        Invariant next)
    (dooms :
      ∀ {state event next},
        Invariant state →
        ¬ condition state event →
        step state event = some next →
        Doomed next)
    (doomed :
      ∀ {state event next},
        Doomed state →
        step state event = some next →
        Doomed next)
    {state final : State}
    {events : List Event}
    (initially : Invariant state)
    (reached : run step state events = some final)
    (escaped : ¬ Doomed final) :
    Along step condition state events := by
  induction events generalizing state with
  | nil =>
      trivial
  | cons event rest inductionHypothesis =>
      obtain ⟨next, performed, later⟩ := run_cons_eq_some.mp reached
      by_cases allowed : condition state event
      · simp only [Along, performed]
        exact ⟨allowed,
          inductionHypothesis (preserved initially allowed performed)
            later⟩
      · exact (escaped
          (run_invariant doomed (dooms initially allowed performed)
            later)).elim

/--
When a removed event leaves the related state related, and every other event
can happen in both, then the run without the removed events succeeds and ends
in a related state.
-/
theorem run_without
    (Related : State → State → Prop)
    {condition : State → Event → Prop}
    (removed : Event → Bool)
    (hidden :
      ∀ {state other event next},
        Related state other →
        condition state event →
        removed event = true →
        step state event = some next →
        Related next other)
    (visible :
      ∀ {state other event next},
        Related state other →
        removed event = false →
        step state event = some next →
        ∃ otherNext,
          step other event = some otherNext ∧ Related next otherNext)
    {state other final : State}
    {events : List Event}
    (related : Related state other)
    (conditions : Along step condition state events)
    (reached : run step state events = some final) :
    ∃ otherFinal,
      run step other (events.filter fun event => !removed event) =
          some otherFinal ∧
        Related final otherFinal := by
  induction events generalizing state other with
  | nil =>
      simp only [run_nil, Option.some.injEq] at reached
      subst final
      exact ⟨other, rfl, related⟩
  | cons event rest inductionHypothesis =>
      obtain ⟨next, performed, later⟩ := run_cons_eq_some.mp reached
      simp only [Along, performed] at conditions
      obtain ⟨allowed, conditions⟩ := conditions
      cases isRemoved : removed event with
      | true =>
          simp only [List.filter_cons, isRemoved, Bool.not_true,
            Bool.false_eq_true, if_false]
          exact inductionHypothesis
            (hidden related allowed isRemoved performed)
            conditions later
      | false =>
          obtain ⟨otherNext, otherPerformed, stillRelated⟩ :=
            visible related isRemoved performed
          obtain ⟨otherFinal, otherReached, finalRelated⟩ :=
            inductionHypothesis stillRelated conditions later
          refine ⟨otherFinal, ?_, finalRelated⟩
          simp only [List.filter_cons, isRemoved, Bool.not_false,
            if_true]
          exact run_cons_eq_some.mpr
            ⟨otherNext, otherPerformed, otherReached⟩

/-! ## What a run puts out -/

/-- What the steps of a run put out, in order. -/
def outputs
    {Output : Type}
    (step : State → Event → Option State)
    (observe : State → Event → List Output) :
    State → List Event → List Output
  | _, [] =>
      []
  | state, event :: rest =>
      match step state event with
      | none => []
      | some next =>
          observe state event ++ outputs step observe next rest

/--
When what a step puts out is good, and stays good as the run goes on, then
everything that a run has put out is good.
-/
theorem outputs_good
    {Output : Type}
    {observe : State → Event → List Output}
    {Invariant : State → Prop}
    {Good : State → Output → Prop}
    (preserved :
      ∀ {state event next},
        Invariant state →
        step state event = some next →
        Invariant next)
    (sound :
      ∀ {state event next},
        Invariant state →
        step state event = some next →
        ∀ output ∈ observe state event, Good next output)
    (kept :
      ∀ {state event next output},
        step state event = some next →
        Good state output →
        Good next output)
    {state final : State}
    {events : List Event}
    (initially : Invariant state)
    (reached : run step state events = some final) :
    ∀ output ∈ outputs step observe state events, Good final output := by
  induction events generalizing state with
  | nil => simp [outputs]
  | cons event rest inductionHypothesis =>
      obtain ⟨next, performed, later⟩ := run_cons_eq_some.mp reached
      intro output member
      simp only [outputs, performed, List.mem_append] at member
      rcases member with now | afterwards
      · exact run_invariant
          (fun good performed => kept performed good)
          (sound initially performed output now) later
      · exact inductionHypothesis (preserved initially performed) later
          output afterwards

/-- An invariant that also speaks of what the run has put out so far. -/
theorem run_invariant_outputs
    {Invariant : List Output → State → Prop}
    {condition : State → Event → Prop}
    {observe : State → Event → List Output}
    (preserved :
      ∀ {past state event next},
        Invariant past state →
        condition state event →
        step state event = some next →
        Invariant (past ++ observe state event) next)
    {past : List Output}
    {state final : State}
    {events : List Event}
    (initially : Invariant past state)
    (conditions : Along step condition state events)
    (reached : run step state events = some final) :
    Invariant (past ++ outputs step observe state events) final := by
  induction events generalizing past state with
  | nil =>
      obtain rfl := Option.some.inj reached
      simpa [outputs] using initially
  | cons event rest inductionHypothesis =>
      obtain ⟨next, performed, later⟩ := run_cons_eq_some.mp reached
      simp only [Along, performed] at conditions
      simp only [outputs, performed]
      rw [← List.append_assoc]
      exact inductionHypothesis (preserved initially conditions.1 performed)
        conditions.2 later

/--
When another system can match every step that meets the condition, by the
events that the step stands for, it can match every run of such steps.
-/
theorem run_refines
    {Abstract Label : Type}
    {abstractStep : Abstract → Label → Option Abstract}
    (Related : State → Abstract → Prop)
    {condition : State → Event → Prop}
    {labels : State → Event → List Label}
    (matched :
      ∀ {state event next abstract},
        Related state abstract →
        condition state event →
        step state event = some next →
        ∃ abstractNext,
          run abstractStep abstract (labels state event) =
              some abstractNext ∧
            Related next abstractNext)
    {state final : State}
    {abstract : Abstract}
    {events : List Event}
    (related : Related state abstract)
    (conditions : Along step condition state events)
    (reached : run step state events = some final) :
    ∃ abstractFinal,
      run abstractStep abstract (outputs step labels state events) =
          some abstractFinal ∧
        Related final abstractFinal := by
  induction events generalizing state abstract with
  | nil =>
      obtain rfl := Option.some.inj reached
      exact ⟨abstract, rfl, related⟩
  | cons event rest inductionHypothesis =>
      obtain ⟨next, performed, later⟩ := run_cons_eq_some.mp reached
      simp only [Along, performed] at conditions
      obtain ⟨abstractNext, first, stillRelated⟩ :=
        matched related conditions.1 performed
      obtain ⟨abstractFinal, rest, finallyRelated⟩ :=
        inductionHypothesis stillRelated conditions.2 later
      refine ⟨abstractFinal, ?_, finallyRelated⟩
      simp only [outputs, performed]
      rw [run_append, first, Option.bind_some]
      exact rest

/--
Neither an event nor any of `own` that follows it before it happens again
leads to a bad state, whatever else happens in between.
-/
structure AvoidsAfter
    (step : State → Event → Option State)
    (bad : State → Prop)
    (own : Event → Prop)
    (starts : Event)
    (state : State) : Prop where
  first :
    ∀ started, step state starts = some started → ¬ bad started
  later :
    ∀ events waiting event next,
      run step state (starts :: events) = some waiting →
      starts ∉ events →
      own event →
      step waiting event = some next →
      ¬ bad next

/-- What holds from the event on until its next occurrence rules it out. -/
theorem AvoidsAfter.of_invariant
    {Invariant bad : State → Prop}
    {own : Event → Prop}
    {starts : Event}
    {state : State}
    (opens :
      ∀ started, step state starts = some started →
        ¬ bad started ∧ Invariant started)
    (preserved :
      ∀ {state event next},
        Invariant state →
        event ≠ starts →
        step state event = some next →
        Invariant next)
    (safe :
      ∀ {state event next},
        Invariant state →
        own event →
        step state event = some next →
        ¬ bad next) :
    AvoidsAfter step bad own starts state where
  first := fun started performed => (opens started performed).1
  later := by
    intro events waiting event next reached absent isOwn performed
    obtain ⟨started, first, rest⟩ := run_cons_eq_some.mp reached
    have others :
        Along step (fun _ event => event ≠ starts) started events :=
      along_of_forall fun event member same => absent (same ▸ member)
    exact safe
      (run_invariant_along preserved (opens started first).2 others rest)
      isOwn performed

end Dsvpn.StepSystem
