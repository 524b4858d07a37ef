import Mathlib.Data.List.Induction
import Mathlib.Tactic.Common

/-
  The latest reading of a history.

  Only some elements of a history, oldest first, give a
  reading. A register that is set by these elements and kept
  by the others holds the latest of the readings.

  Main declarations:
    * `latest`, `latest_append`
    * `exists_of_latest_eq_some`
    * `steps`, `steps_append_singleton`
-/

------------------------------------------------------------
-- Latest Reading
------------------------------------------------------------

namespace Latest

variable {α β : Type}

/- The reading of the last element that gives one. -/
def latest
    (reading : α → Option β)
    (history : List α) : Option β :=
  history.reverse.findSome? reading

variable {reading : α → Option β}

theorem latest_append
    (older newer : List α) :
    latest reading (older ++ newer) =
      (latest reading newer).or (latest reading older) := by
  rw [latest, List.reverse_append, List.findSome?_append]
  rfl

theorem latest_append_singleton
    (history : List α)
    (x : α) :
    latest reading (history ++ [x]) =
      (reading x).or (latest reading history) := by
  rw [latest_append]
  cases hReading : reading x with
  | none => simp [latest, hReading]
  | some b => simp [latest, hReading]

theorem latest_map
    {γ : Type}
    (f : γ → α)
    (history : List γ) :
    latest reading (history.map f) =
      latest (reading ∘ f) history := by
  rw [latest, ← List.map_reverse, List.findSome?_map]
  rfl

/- The latest reading is one of the readings. -/
theorem exists_of_latest_eq_some
    {history : List α}
    {b : β}
    (hLatest : latest reading history = some b) :
    ∃ x ∈ history, reading x = some b := by
  rcases List.exists_of_findSome?_eq_some hLatest with
    ⟨x, hMem, hReading⟩
  exact ⟨x, List.mem_reverse.mp hMem, hReading⟩

/- Readings that all agree leave no choice. -/
theorem latest_eq_some_of_agree
    {history : List α}
    {b : β}
    (hAgree : ∀ x ∈ history, ∀ b', reading x = some b' →
      b' = b)
    (hSome : ∃ x ∈ history, reading x = some b) :
    latest reading history = some b := by
  rcases hSome with ⟨x, hMem, hReading⟩
  cases hLatest : latest reading history with
  | none =>
      have hNone := List.findSome?_eq_none_iff.mp hLatest x
        (List.mem_reverse.mpr hMem)
      rw [hReading] at hNone
      cases hNone
  | some b' =>
      rcases exists_of_latest_eq_some hLatest with
        ⟨y, hMemY, hReadingY⟩
      rw [hAgree y hMemY b' hReadingY]

end Latest

------------------------------------------------------------
-- Steps of a Sequence
------------------------------------------------------------

namespace Latest

variable {α : Type}

/- The pairs of neighbours, the older one first. -/
def steps (xs : List α) : List (α × α) :=
  xs.zip xs.tail

/- A new last element makes one more step. -/
theorem steps_append_singleton
    (xs : List α)
    (x : α) :
    steps (xs ++ [x]) =
      steps xs ++ (xs.getLast?.map (·, x)).toList := by
  induction xs with
  | nil => rfl
  | cons a xs ih =>
      cases xs with
      | nil => rfl
      | cons b xs =>
          unfold steps at ih ⊢
          simp only [List.cons_append, List.tail_cons,
            List.zip_cons_cons] at ih ⊢
          rw [ih, List.getLast?_cons_cons]

theorem mem_steps_append
    {xs : List α}
    (ys : List α)
    {step : α × α}
    (hMem : step ∈ steps xs) :
    step ∈ steps (xs ++ ys) := by
  induction ys using List.reverseRecOn with
  | nil =>
      rw [List.append_nil]
      exact hMem
  | append_singleton ys y ih =>
      rw [← List.append_assoc, steps_append_singleton]
      exact List.mem_append_left _ ih

theorem steps_map
    {β : Type}
    (f : α → β)
    (xs : List α) :
    steps (xs.map f) = (steps xs).map (Prod.map f f) := by
  unfold steps
  rw [← List.map_tail, List.zip_map]

end Latest
