import Mathlib.Logic.Relation
import Mathlib.Tactic.Common

/-
  Loops that end by a break or a return, and may not end.

  A loop is its body: a function that, from the state at the
  top of an iteration, either goes round again or leaves
  with a result. `run` executes a bounded number of
  iterations; `Returns` and `Terminates` quantify the bound
  away.

  Main declarations:
    * `LoopStep`, `run`, `Returns`, `Terminates`
    * `returns_unique`
    * `Returns.induction`, `Returns.of_invariant`
    * `terminates_of_measure`
    * `not_terminates_of_invariant`
    * `Reaches`, `Reaches.next`, `Reaches.invariant`
-/

------------------------------------------------------------
-- Loops
------------------------------------------------------------

/- What one iteration of a loop does. -/
inductive LoopStep (σ ρ : Type) where
  | next (state : σ)
  | done (result : ρ)

namespace Loop

variable {σ ρ : Type}
variable {body : σ → LoopStep σ ρ}

/- The result of a loop that leaves within `fuel` iterations. -/
def run
    (body : σ → LoopStep σ ρ) :
    Nat → σ → Option ρ
| 0, _ => none
| fuel + 1, state =>
    match body state with
    | .next state' => run body fuel state'
    | .done result => some result

/- The loop leaves with this result. -/
def Returns
    (body : σ → LoopStep σ ρ)
    (state : σ)
    (result : ρ) : Prop :=
  ∃ fuel, run body fuel state = some result

/- The loop leaves. -/
def Terminates
    (body : σ → LoopStep σ ρ)
    (state : σ) : Prop :=
  ∃ result, Returns body state result

theorem run_succ_of_next
    {state state' : σ}
    (hBody : body state = .next state')
    (fuel : Nat) :
    run body (fuel + 1) state = run body fuel state' := by
  simp [run, hBody]

theorem run_succ_of_done
    {state : σ}
    {result : ρ}
    (hBody : body state = .done result)
    (fuel : Nat) :
    run body (fuel + 1) state = some result := by
  simp [run, hBody]

theorem returns_of_done
    {state : σ}
    {result : ρ}
    (hBody : body state = .done result) :
    Returns body state result :=
  ⟨1, run_succ_of_done hBody 0⟩

theorem returns_iff_of_next
    {state state' : σ}
    {result : ρ}
    (hBody : body state = .next state') :
    Returns body state result ↔
      Returns body state' result := by
  constructor
  · rintro ⟨fuel, hRun⟩
    cases fuel with
    | zero => simp [run] at hRun
    | succ fuel =>
        exact ⟨fuel, by rwa [run_succ_of_next hBody] at hRun⟩
  · rintro ⟨fuel, hRun⟩
    exact ⟨fuel + 1, by rwa [run_succ_of_next hBody]⟩

theorem returns_iff_of_done
    {state : σ}
    {result left : ρ}
    (hBody : body state = .done left) :
    Returns body state result ↔ left = result := by
  constructor
  · rintro ⟨fuel, hRun⟩
    cases fuel with
    | zero => simp [run] at hRun
    | succ fuel =>
        rw [run_succ_of_done hBody] at hRun
        exact Option.some.inj hRun
  · rintro rfl
    exact returns_of_done hBody

theorem terminates_iff_of_next
    {state state' : σ}
    (hBody : body state = .next state') :
    Terminates body state ↔ Terminates body state' :=
  exists_congr fun _ => returns_iff_of_next hBody

/-
  The rule for a loop that has left: what holds where it
  breaks, and passes back through an iteration, holds where
  it started.
-/
theorem Returns.induction
    {motive : σ → ρ → Prop}
    (hDone : ∀ state result,
      body state = .done result → motive state result)
    (hNext : ∀ state state' result,
      body state = .next state' →
      motive state' result → motive state result)
    {state : σ}
    {result : ρ}
    (hReturns : Returns body state result) :
    motive state result := by
  obtain ⟨fuel, hRun⟩ := hReturns
  induction fuel generalizing state with
  | zero => simp [run] at hRun
  | succ fuel ih =>
      cases hBody : body state with
      | next state' =>
          rw [run_succ_of_next hBody] at hRun
          exact hNext state state' result hBody (ih hRun)
      | done left =>
          rw [run_succ_of_done hBody] at hRun
          obtain rfl := Option.some.inj hRun
          exact hDone state left hBody

/- A loop leaves with one result only. -/
theorem returns_unique
    {state : σ}
    {left right : ρ}
    (hLeft : Returns body state left)
    (hRight : Returns body state right) :
    left = right := by
  refine Returns.induction
    (motive := fun state left =>
      Returns body state right → left = right)
    ?_ ?_ hLeft hRight
  · intro state result hBody hRight
    exact (returns_iff_of_done hBody).mp hRight
  · intro state state' result hBody ih hRight
    exact ih ((returns_iff_of_next hBody).mp hRight)

/- A loop kept inside an invariant never leaves. -/
theorem not_terminates_of_invariant
    {invariant : σ → Prop}
    (hStep : ∀ state, invariant state →
      ∃ state', body state = .next state' ∧ invariant state')
    {state : σ}
    (hInvariant : invariant state) :
    ¬ Terminates body state := by
  rintro ⟨result, hReturns⟩
  refine Returns.induction
    (motive := fun state _ => ¬ invariant state)
    ?_ ?_ hReturns hInvariant
  · intro state result hBody hInvariant
    obtain ⟨state', hNext, _⟩ := hStep state hInvariant
    rw [hBody] at hNext
    cases hNext
  · intro state state' result hBody ih hInvariant
    obtain ⟨state'', hNext, hInvariant'⟩ :=
      hStep state hInvariant
    rw [hBody] at hNext
    cases hNext
    exact ih hInvariant'

/- A loop leaves when every iteration brings it nearer. -/
theorem terminates_of_measure
    (invariant : σ → Prop)
    (measure : σ → Nat)
    (hStep : ∀ state, invariant state →
      (∃ result, body state = .done result) ∨
        ∃ state', body state = .next state' ∧
          invariant state' ∧ measure state' < measure state)
    {state : σ}
    (hInvariant : invariant state) :
    Terminates body state := by
  induction hMeasure : measure state
    using Nat.strongRecOn generalizing state with
  | _ n ih =>
      rcases hStep state hInvariant with hDone | hNext
      · rcases hDone with ⟨result, hDone⟩
        exact ⟨result, returns_of_done hDone⟩
      · rcases hNext with ⟨state', hNext, hLater, hLess⟩
        rw [terminates_iff_of_next hNext]
        exact ih (measure state') (by omega) hLater rfl

/-
  What holds at the top of every iteration decides what
  holds of the result.
-/
theorem Returns.of_invariant
    (invariant : σ → Prop)
    {post : ρ → Prop}
    (hDone : ∀ state result, invariant state →
      body state = .done result → post result)
    (hNext : ∀ state state', invariant state →
      body state = .next state' → invariant state')
    {state : σ}
    {result : ρ}
    (hReturns : Returns body state result)
    (hInvariant : invariant state) :
    post result := by
  refine Returns.induction
    (motive := fun state result =>
      invariant state → post result)
    ?_ ?_ hReturns hInvariant
  · intro state result hBody hHolds
    exact hDone state result hHolds hBody
  · intro state state' result hBody hLater hHolds
    exact hLater (hNext state state' hHolds hBody)

end Loop

------------------------------------------------------------
-- States Reached
------------------------------------------------------------

namespace Loop

variable {σ ρ : Type}
variable {body : σ → LoopStep σ ρ}

/- The loop comes to the top of an iteration in a state. -/
def Reaches
    (body : σ → LoopStep σ ρ)
    (start : σ) : σ → Prop :=
  Relation.ReflTransGen (fun s s' => body s = .next s') start

theorem Reaches.next
    {start state state' : σ}
    (hReaches : Reaches body start state)
    (hBody : body state = .next state') :
    Reaches body start state' :=
  Relation.ReflTransGen.tail hReaches hBody

/- What every iteration keeps holds wherever the loop comes. -/
theorem Reaches.invariant
    (invariant : σ → Prop)
    (hNext : ∀ state state', invariant state →
      body state = .next state' → invariant state')
    {start state : σ}
    (hReaches : Reaches body start state)
    (hInvariant : invariant start) :
    invariant state := by
  induction hReaches with
  | refl => exact hInvariant
  | tail _ hBody ih => exact hNext _ _ ih hBody

end Loop
