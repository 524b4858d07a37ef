import Mathlib.Tactic.Common

/-
  An array of slots that is filled from its front.

  Each element of a list takes the next slot, as long as
  there is one, and rewrites what the slot holds; what finds
  no slot is ignored. How a slot is rewritten may depend on
  its old value.

  Main declarations:
    * `Slots`, `Slots.fill`, `Slots.fillAll`
    * `Slots.forall_fill`, `Slots.count_fillAll`
    * `Slots.getElem_fillAll`
    * `Slots.fillAll_filter_of_step`
-/

------------------------------------------------------------
-- Filling
------------------------------------------------------------

/- Slots, and how many of them have been taken. -/
structure Slots (α : Type) (n : Nat) where
  slots : Vector α n
  count : Nat

namespace Slots

variable {α β : Type}
variable {n : Nat}

/- One more element. -/
def fill
    (write : α → β → α)
    (s : Slots α n)
    (x : β) : Slots α n :=
  if hSlot : s.count < n then
    { slots := s.slots.set s.count (write s.slots[s.count] x)
      count := s.count + 1 }
  else
    s

/- The elements of a list, one after another. -/
def fillAll
    (write : α → β → α)
    (s : Slots α n)
    (xs : List β) : Slots α n :=
  xs.foldl (fill write) s

variable {write : α → β → α}

theorem fill_of_lt
    {s : Slots α n}
    (hSlot : s.count < n)
    (x : β) :
    s.fill write x =
      { slots := s.slots.set s.count (write s.slots[s.count] x)
        count := s.count + 1 } :=
  dif_pos hSlot

theorem fill_of_not_lt
    {s : Slots α n}
    (hSlot : ¬ s.count < n)
    (x : β) :
    s.fill write x = s :=
  dif_neg hSlot

theorem count_fill
    (write : α → β → α)
    (s : Slots α n)
    (x : β) :
    (s.fill write x).count =
      if s.count < n then s.count + 1 else s.count := by
  unfold fill
  split_ifs
  · rfl
  · rfl

/- The slot that is next is rewritten, the others are not. -/
theorem getElem_fill
    (write : α → β → α)
    (s : Slots α n)
    (x : β)
    {k : Nat}
    (hk : k < n) :
    (s.fill write x).slots[k] =
      if k = s.count then
        write s.slots[k] x
      else
        s.slots[k] := by
  unfold fill
  by_cases hSlot : s.count < n
  · rw [dif_pos hSlot, Vector.getElem_set]
    by_cases hNext : k = s.count
    · subst hNext
      simp
    · simp [hNext, Ne.symm hNext]
  · have hNext : k ≠ s.count := by omega
    rw [dif_neg hSlot, if_neg hNext]

/- What all slots satisfy and a rewrite keeps. -/
theorem forall_fill
    {P : α → Prop}
    (hWrite : ∀ a x, P a → P (write a x))
    {s : Slots α n}
    (hSlots : ∀ k (hk : k < n), P s.slots[k])
    (x : β)
    {k : Nat}
    (hk : k < n) :
    P (s.fill write x).slots[k] := by
  rw [getElem_fill]
  split_ifs
  · exact hWrite _ x (hSlots k hk)
  · exact hSlots k hk

theorem count_fillAll
    (write : α → β → α)
    {s : Slots α n}
    (hCount : s.count ≤ n)
    (xs : List β) :
    (s.fillAll write xs).count =
      min n (s.count + xs.length) := by
  unfold fillAll
  induction xs generalizing s with
  | nil =>
      rw [List.foldl_nil, List.length_nil]
      omega
  | cons x xs ih =>
      have hNext := count_fill write s x
      rw [List.foldl_cons, List.length_cons]
      split_ifs at hNext with hSlot
      · rw [ih (by omega)]
        omega
      · rw [ih (by omega)]
        omega

/-
  Behind a list, a slot from the first free one on holds
  what the element that took it has written.
-/
theorem getElem_fillAll
    (write : α → β → α)
    (s : Slots α n)
    (xs : List β)
    {k : Nat}
    (hk : k < n) :
    (s.fillAll write xs).slots[k] =
      if s.count ≤ k then
        (xs[k - s.count]?).elim s.slots[k] (write s.slots[k])
      else
        s.slots[k] := by
  unfold fillAll
  induction xs generalizing s with
  | nil => simp
  | cons x xs ih =>
      rw [List.foldl_cons, ih, getElem_fill write s x hk,
        count_fill]
      rcases Nat.lt_trichotomy k s.count with
        hBefore | hHere | hBehind
      · have hNot : ¬ (if s.count < n then s.count + 1
            else s.count) ≤ k := by
          split_ifs <;> omega
        rw [if_neg hNot, if_neg (by omega), if_neg (by omega)]
      · subst hHere
        rw [if_pos hk, if_neg (by omega), if_pos rfl,
          if_pos (Nat.le_refl _), Nat.sub_self]
        rfl
      · have hLater : k - s.count =
            (k - (s.count + 1)) + 1 := by
          omega
        have hFree : s.count < n := by omega
        rw [if_pos hFree, if_pos (by omega),
          if_neg (by omega), if_pos (by omega), hLater,
          List.getElem?_cons_succ]

end Slots

------------------------------------------------------------
-- Slots of a Larger State
------------------------------------------------------------

namespace Slots

variable {α β σ : Type}
variable {n : Nat}
variable {write : α → β → α}

/-
  A fold whose steps fill the slots of its state with some
  of the elements fills them with those in their order.
-/
theorem fillAll_filter_of_step
    {step : σ → β → σ}
    {slotsOf : σ → Slots α n}
    {takes : β → Bool}
    (hStep : ∀ s x, slotsOf (step s x) =
      if takes x then
        (slotsOf s).fill write x
      else
        slotsOf s)
    (s : σ)
    (xs : List β) :
    slotsOf (xs.foldl step s) =
      (slotsOf s).fillAll write (xs.filter takes) := by
  induction xs generalizing s with
  | nil => rfl
  | cons x xs ih =>
      rw [List.foldl_cons, ih, hStep]
      cases hTakes : takes x with
      | false => simp [hTakes]
      | true => simp [hTakes, fillAll]

/- Slots that are filled from the first one on. -/
theorem fillAll_of_empty
    {s : Slots α n}
    (hEmpty : s.count = 0)
    (write : α → β → α)
    (xs : List β) :
    (∀ k (hk : k < n), (s.fillAll write xs).slots[k] =
        (xs[k]?).elim s.slots[k] (write s.slots[k])) ∧
      (s.fillAll write xs).count = min n xs.length := by
  constructor
  · intro k hk
    rw [getElem_fillAll, hEmpty, if_pos (Nat.zero_le k),
      Nat.sub_zero]
  · rw [count_fillAll write (by omega), hEmpty, Nat.zero_add]

end Slots
