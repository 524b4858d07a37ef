import Mathlib.Tactic.Common

/-
  Machines that take one step for each event.

  A step may be impossible in a state. A run takes the
  steps of a list of events in order; `taken` lists each
  step of it with the state it is taken in, up to the first
  one that is impossible.

  Main declarations:
    * `Transition.run`, `Transition.taken`
    * `Transition.run_invariant`
    * `Transition.run_history`
    * `Transition.exists_run_of_taken`
    * `Transition.taken_invariant`
    * `Transition.forall_taken_iff`
    * `Transition.total`
-/

------------------------------------------------------------
-- Runs
------------------------------------------------------------

namespace Transition

variable {σ ε : Type}

/- The state behind a run, if all its steps are possible. -/
def run
    (step : σ → ε → Option σ)
    (state : σ) :
    List ε → Option σ
| [] => some state
| event :: events =>
    (step state event).bind fun state' =>
      run step state' events

/- The steps of a run, each with the state it starts from. -/
def taken
    (step : σ → ε → Option σ)
    (state : σ) :
    List ε → List (σ × ε)
| [] => []
| event :: events =>
    match step state event with
    | none => []
    | some state' =>
        (state, event) :: taken step state' events

theorem run_cons_of_some
    {step : σ → ε → Option σ}
    {state state' : σ}
    {event : ε}
    (hStep : step state event = some state')
    (events : List ε) :
    run step state (event :: events) =
      run step state' events := by
  simp [run, hStep]

theorem taken_cons_of_some
    {step : σ → ε → Option σ}
    {state state' : σ}
    {event : ε}
    (hStep : step state event = some state')
    (events : List ε) :
    taken step state (event :: events) =
      (state, event) :: taken step state' events := by
  simp [taken, hStep]

/- A run that goes on begins with a step. -/
theorem exists_step_of_run
    {step : σ → ε → Option σ}
    {state last : σ}
    {event : ε}
    {events : List ε}
    (hRun : run step state (event :: events) = some last) :
    ∃ state', step state event = some state' ∧
      run step state' events = some last :=
  Option.bind_eq_some_iff.mp hRun

/- The first step that is taken is that of the first event. -/
theorem exists_step_of_taken
    {step : σ → ε → Option σ}
    {state : σ}
    {events : List ε}
    {t : σ × ε}
    {rest : List (σ × ε)}
    (hTaken : taken step state events = t :: rest) :
    ∃ event later state', events = event :: later ∧
      step state event = some state' ∧
      t = (state, event) ∧ taken step state' later = rest := by
  cases events with
  | nil => cases hTaken
  | cons event later =>
      cases hNext : step state event with
      | none => simp [taken, hNext] at hTaken
      | some state' =>
          rw [taken_cons_of_some hNext] at hTaken
          rcases List.cons.inj hTaken with ⟨hFirst, hRest⟩
          exact ⟨event, later, state', rfl, hNext,
            hFirst.symm, hRest⟩

end Transition

------------------------------------------------------------
-- Invariants
------------------------------------------------------------

namespace Transition

variable {σ ε : Type}
variable {step : σ → ε → Option σ}

/-
  An invariant that the steps meeting a condition keep holds
  behind a run whose steps all meet the condition.
-/
theorem run_invariant
    (invariant : σ → Prop)
    (condition : σ → ε → Prop)
    (hStep : ∀ state event state',
      invariant state → condition state event →
      step state event = some state' → invariant state')
    {state last : σ}
    {events : List ε}
    (hRun : run step state events = some last)
    (hCondition : ∀ t ∈ taken step state events,
      condition t.1 t.2)
    (hInvariant : invariant state) :
    invariant last := by
  induction events generalizing state with
  | nil =>
      cases hRun
      exact hInvariant
  | cons event events ih =>
      rcases exists_step_of_run hRun with ⟨state', hNext, hRest⟩
      rw [taken_cons_of_some hNext] at hCondition
      have hHere : condition state event :=
        hCondition (state, event) List.mem_cons_self
      apply ih hRest
      · intro t ht
        exact hCondition t (List.mem_cons_of_mem _ ht)
      · exact hStep state event state' hInvariant hHere hNext

/-
  What is noted of the steps, one after the other, stays in
  a relation to the state that every step keeps up.
-/
theorem run_history
    {κ : Type}
    (note : κ → σ × ε → κ)
    (relation : κ → σ → Prop)
    (hStep : ∀ noted state event state',
      relation noted state → step state event = some state' →
      relation (note noted (state, event)) state')
    {state last : σ}
    {events : List ε}
    {noted : κ}
    (hRun : run step state events = some last)
    (hRelation : relation noted state) :
    relation ((taken step state events).foldl note noted)
      last := by
  induction events generalizing state noted with
  | nil =>
      cases hRun
      exact hRelation
  | cons event events ih =>
      rcases exists_step_of_run hRun with ⟨state', hNext, hRest⟩
      rw [taken_cons_of_some hNext]
      exact ih hRest
        (hStep noted state event state' hRelation hNext)

/-
  A step of a run is taken behind a run of the steps before
  it.
-/
theorem exists_run_of_taken
    {state : σ}
    {events : List ε}
    {before after : List (σ × ε)}
    {t : σ × ε}
    (hTaken : taken step state events = before ++ t :: after) :
    ∃ earlier,
      run step state earlier = some t.1 ∧
        taken step state earlier = before ∧
        (step t.1 t.2).isSome := by
  induction before generalizing state events with
  | nil =>
      rcases exists_step_of_taken hTaken with
        ⟨event, later, state', rfl, hNext, rfl, _⟩
      exact ⟨[], rfl, rfl, by simp [hNext]⟩
  | cons first before ih =>
      rcases exists_step_of_taken hTaken with
        ⟨event, later, state', rfl, hNext, rfl, hLater⟩
      rcases ih hLater with ⟨earlier, hRun, hBefore, hSome⟩
      refine ⟨event :: earlier, ?_, ?_, hSome⟩
      · rwa [run_cons_of_some hNext]
      · rw [taken_cons_of_some hNext, hBefore]

/- The invariant holds where a step of the run is taken. -/
theorem taken_invariant
    (invariant : σ → Prop)
    (condition : σ → ε → Prop)
    (hStep : ∀ state event state',
      invariant state → condition state event →
      step state event = some state' → invariant state')
    {state : σ}
    {events : List ε}
    (hCondition : ∀ t ∈ taken step state events,
      condition t.1 t.2)
    (hInvariant : invariant state)
    {t : σ × ε}
    (hMem : t ∈ taken step state events) :
    invariant t.1 := by
  rcases List.append_of_mem hMem with ⟨before, after, hTaken⟩
  rcases exists_run_of_taken hTaken with
    ⟨earlier, hRun, hBefore, _⟩
  apply run_invariant invariant condition hStep hRun ?_
    hInvariant
  intro u hu
  rw [hBefore] at hu
  apply hCondition u
  rw [hTaken]
  exact List.mem_append_left _ hu

end Transition

------------------------------------------------------------
-- Exact Conditions
------------------------------------------------------------

namespace Transition

variable {σ ε : Type}

/-
  Where a step from an invariant state is good exactly when
  it meets a condition, and then keeps the invariant, a run
  is good exactly when all its steps meet the condition.
-/
theorem forall_taken_iff
    {step : σ → ε → Option σ}
    (invariant : σ → Prop)
    {good condition : σ → ε → Prop}
    {events : List ε}
    (hGood : ∀ event ∈ events, ∀ state, invariant state →
      (good state event ↔ condition state event))
    (hStep : ∀ event ∈ events, ∀ state state',
      invariant state → condition state event →
      step state event = some state' → invariant state')
    {state : σ}
    (hInvariant : invariant state) :
    (∀ t ∈ taken step state events, good t.1 t.2) ↔
      ∀ t ∈ taken step state events, condition t.1 t.2 := by
  induction events generalizing state with
  | nil => simp [taken]
  | cons event events ih =>
      have hHere := hGood event List.mem_cons_self
      have hKept := hStep event List.mem_cons_self
      cases hNext : step state event with
      | none => simp [taken, hNext]
      | some state' =>
          simp only [taken_cons_of_some hNext,
            List.forall_mem_cons]
          rw [hHere state hInvariant]
          apply and_congr_right
          intro hCondition
          apply ih
          · intro later hLater
            exact hGood later (List.mem_cons_of_mem _ hLater)
          · intro later hLater
            exact hStep later (List.mem_cons_of_mem _ hLater)
          · exact hKept state state' hInvariant hCondition hNext

/- The step of a machine that always has one. -/
def total
    (f : σ → ε → σ)
    (state : σ)
    (event : ε) : Option σ :=
  some (f state event)

/- The steps of such a machine, by the events before each. -/
theorem mem_taken_total_iff
    {f : σ → ε → σ}
    {state : σ}
    {events : List ε}
    {t : σ × ε} :
    t ∈ taken (total f) state events ↔
      ∃ before after,
        events = before ++ t.2 :: after ∧
          t.1 = before.foldl f state := by
  induction events generalizing state with
  | nil => simp [taken]
  | cons event events ih =>
      have hTaken : taken (total f) state (event :: events) =
          (state, event) ::
            taken (total f) (f state event) events := rfl
      rw [hTaken, List.mem_cons, ih]
      constructor
      · rintro (rfl | ⟨before, after, rfl, hState⟩)
        · exact ⟨[], events, rfl, rfl⟩
        · exact ⟨event :: before, after, rfl, hState⟩
      · rintro ⟨before, after, hEvents, hState⟩
        cases before with
        | nil =>
            left
            rcases List.cons.inj hEvents with ⟨hEvent, _⟩
            exact Prod.ext hState hEvent.symm
        | cons first before =>
            right
            rcases List.cons.inj hEvents with ⟨rfl, hRest⟩
            exact ⟨before, after, hRest, hState⟩

end Transition
