import Mathlib.Data.List.Infix
import Mathlib.Tactic.Common

/-
  Search for the first occurrence of a pattern in a list.

  `find` is the executable search; `OccursAt` is the
  relation it decides. The lemmas say how occurrences move
  when text is appended, dropped or cut, which is what a
  scanner over a growing buffer needs.

  Main declarations:
    * `OccursAt` and `find`
    * `find_eq_some_iff`, `find_eq_none_iff`
    * `find_append_of_some`
    * `find_eq_map_drop`
    * `occursAt_append_iff_of_boundary`
-/

------------------------------------------------------------
-- Occurrences
------------------------------------------------------------

namespace ListSearch

variable {α : Type}

/- The pattern stands in the text at a position. -/
def OccursAt
    (pattern text : List α)
    (i : Nat) : Prop :=
  pattern <+: text.drop i

instance
    [DecidableEq α]
    (pattern text : List α)
    (i : Nat) :
    Decidable (OccursAt pattern text i) :=
  inferInstanceAs (Decidable (pattern <+: text.drop i))

/- The pattern stands somewhere in the text. -/
def Occurs
    (pattern text : List α) : Prop :=
  ∃ i, OccursAt pattern text i

theorem OccursAt.add_length_le
    {pattern text : List α}
    {i : Nat}
    (hPattern : pattern ≠ [])
    (hOccurs : OccursAt pattern text i) :
    i + pattern.length ≤ text.length := by
  have hLength := hOccurs.length_le
  have hPos := List.length_pos_of_ne_nil hPattern
  simp only [List.length_drop] at hLength
  omega

theorem occursAt_iff_getElem?
    {pattern text : List α}
    {i : Nat} :
    OccursAt pattern text i ↔
      ∀ k, k < pattern.length →
        text[i + k]? = pattern[k]? := by
  unfold OccursAt
  rw [List.prefix_iff_getElem?]
  constructor
  · intro h k hk
    have hAt := h k hk
    rw [List.getElem?_drop] at hAt
    rw [hAt, List.getElem?_eq_getElem hk]
  · intro h k hk
    rw [List.getElem?_drop, h k hk,
      List.getElem?_eq_getElem hk]

/- The byte an occurrence shows at each of its offsets. -/
theorem OccursAt.getElem?_add
    {pattern text : List α}
    {i k : Nat}
    (hOccurs : OccursAt pattern text i)
    (hk : k < pattern.length) :
    text[i + k]? = pattern[k]? :=
  occursAt_iff_getElem?.mp hOccurs k hk

/- Where two occurrences overlap they show one byte. -/
theorem OccursAt.getElem?_eq
    {pattern other text : List α}
    {i j a b : Nat}
    (hPattern : OccursAt pattern text i)
    (hOther : OccursAt other text j)
    (ha : a < pattern.length)
    (hb : b < other.length)
    (hSame : i + a = j + b) :
    pattern[a]? = other[b]? := by
  rw [← hPattern.getElem?_add ha, ← hOther.getElem?_add hb,
    hSame]

@[simp] theorem occursAt_drop
    {pattern text : List α}
    {k i : Nat} :
    OccursAt pattern (text.drop k) i ↔
      OccursAt pattern text (k + i) := by
  simp [OccursAt, List.drop_drop]

theorem occursAt_append_of_occursAt
    {pattern text : List α}
    {i : Nat}
    (more : List α)
    (hOccurs : OccursAt pattern text i) :
    OccursAt pattern (text ++ more) i := by
  unfold OccursAt at *
  rw [List.drop_append]
  exact hOccurs.trans (List.prefix_append _ _)

/- Appending changes nothing where the pattern already fits. -/
theorem occursAt_append_iff_of_fits
    {pattern text more : List α}
    {i : Nat}
    (hFits : i + pattern.length ≤ text.length) :
    OccursAt pattern (text ++ more) i ↔
      OccursAt pattern text i := by
  constructor
  · intro hOccurs
    rw [occursAt_iff_getElem?] at hOccurs ⊢
    intro k hk
    rw [← hOccurs k hk,
      List.getElem?_append_left (by omega)]
  · exact occursAt_append_of_occursAt more

/- Past the first part, occurrences are those of the rest. -/
theorem occursAt_append_right
    {pattern text more : List α}
    {i : Nat} :
    OccursAt pattern (text ++ more) (text.length + i) ↔
      OccursAt pattern more i := by
  unfold OccursAt
  rw [List.drop_append,
    List.drop_eq_nil_of_le (Nat.le_add_right _ _)]
  simp

/-
  A first byte of the second part that the pattern does not
  contain keeps every occurrence on one side of the
  boundary.
-/
theorem occursAt_append_iff_of_boundary
    {pattern text more : List α}
    {a : α}
    {i : Nat}
    (hBoundary : a ∉ pattern)
    (hHead : more.head? = some a) :
    OccursAt pattern (text ++ more) i ↔
      OccursAt pattern text i ∨
        (text.length ≤ i ∧
          OccursAt pattern more (i - text.length)) := by
  constructor
  · intro hOccurs
    by_cases hFits : i + pattern.length ≤ text.length
    · exact Or.inl
        ((occursAt_append_iff_of_fits hFits).mp hOccurs)
    · by_cases hStart : text.length ≤ i
      · obtain ⟨k, rfl⟩ := Nat.exists_eq_add_of_le hStart
        apply Or.inr
        refine ⟨hStart, ?_⟩
        simpa using occursAt_append_right.mp hOccurs
      · -- the occurrence would cover the boundary byte
        exfalso
        have hk : text.length - i < pattern.length := by omega
        have hAt := hOccurs.getElem?_add hk
        have hIndex : i + (text.length - i) = text.length := by
          omega
        rw [hIndex, List.getElem?_append_right (Nat.le_refl _),
          Nat.sub_self, ← List.head?_eq_getElem?, hHead] at hAt
        exact hBoundary (List.mem_of_getElem? hAt.symm)
  · rintro (hLeft | ⟨hStart, hRight⟩)
    · exact occursAt_append_of_occursAt more hLeft
    · obtain ⟨k, rfl⟩ := Nat.exists_eq_add_of_le hStart
      apply occursAt_append_right.mpr
      simpa using hRight

end ListSearch

------------------------------------------------------------
-- First Occurrence
------------------------------------------------------------

namespace ListSearch

variable {α : Type}
variable [DecidableEq α]

/- The position of the first occurrence of a pattern. -/
def find
    (pattern : List α) :
    List α → Option Nat
| [] => if pattern = [] then some 0 else none
| a :: text =>
    if pattern <+: a :: text then
      some 0
    else
      (find pattern text).map (· + 1)

/- Before the first occurrence the search only counts. -/
theorem find_eq_map_drop
    {pattern text : List α}
    {k : Nat}
    (hLength : k ≤ text.length)
    (hNone : ∀ j, j < k → ¬ OccursAt pattern text j) :
    find pattern text =
      (find pattern (text.drop k)).map (k + ·) := by
  induction k generalizing text with
  | zero => simp
  | succ k ih =>
      cases text with
      | nil => simp at hLength
      | cons a text =>
          have hHead : ¬ pattern <+: a :: text :=
            hNone 0 (Nat.succ_pos k)
          have hTail :=
            @ih text (by simpa using hLength) (by
              intro j hj hOccurs
              apply hNone (j + 1) (by omega)
              simpa [OccursAt] using hOccurs)
          simp only [find, if_neg hHead, hTail,
            List.drop_succ_cons, Option.map_map]
          congr 1
          funext i
          simp only [Function.comp_apply]
          omega

theorem find_eq_some_iff
    {pattern text : List α}
    {i : Nat} :
    find pattern text = some i ↔
      OccursAt pattern text i ∧ i ≤ text.length ∧
        ∀ j, j < i → ¬ OccursAt pattern text j := by
  induction text generalizing i with
  | nil =>
      by_cases hPattern : pattern = []
      · subst hPattern
        simp only [find, if_true, Option.some.injEq]
        constructor
        · rintro rfl
          simp [OccursAt]
        · rintro ⟨_, hLength, _⟩
          exact (Nat.le_zero.mp hLength).symm
      · simp [find, hPattern, OccursAt]
  | cons a text ih =>
      by_cases hHead : pattern <+: a :: text
      · simp only [find, if_pos hHead, Option.some.injEq]
        constructor
        · rintro rfl
          simpa [OccursAt] using hHead
        · rintro ⟨_, _, hFirst⟩
          by_contra hNe
          exact hFirst 0 (by omega) (by simpa [OccursAt])
      · cases i with
        | zero => simp [find, OccursAt, hHead]
        | succ i =>
            have hMap :
                (find pattern text).map (· + 1) =
                    some (i + 1) ↔
                  find pattern text = some i := by
              simp
            simp only [find, if_neg hHead, hMap, ih]
            constructor
            · rintro ⟨hOccurs, hLength, hFirst⟩
              refine ⟨by simpa [OccursAt] using hOccurs,
                by simpa using hLength, ?_⟩
              intro j hj
              cases j with
              | zero => simpa [OccursAt] using hHead
              | succ j =>
                  simpa [OccursAt] using
                    hFirst j (by omega)
            · rintro ⟨hOccurs, hLength, hFirst⟩
              refine ⟨by simpa [OccursAt] using hOccurs,
                by simpa using hLength, ?_⟩
              intro j hj
              simpa [OccursAt] using
                hFirst (j + 1) (by omega)

theorem find_eq_none_iff
    {pattern text : List α} :
    find pattern text = none ↔
      ¬ Occurs pattern text := by
  induction text with
  | nil =>
      by_cases hPattern : pattern = []
      · subst hPattern
        simp [find, Occurs, OccursAt]
      · simp [find, hPattern, Occurs, OccursAt]
  | cons a text ih =>
      by_cases hHead : pattern <+: a :: text
      · simp only [find, if_pos hHead]
        have hOccurs : Occurs pattern (a :: text) :=
          ⟨0, by simpa [OccursAt] using hHead⟩
        simp [hOccurs]
      · simp only [find, if_neg hHead, Option.map_eq_none_iff,
          ih]
        apply not_congr
        constructor
        · rintro ⟨i, hi⟩
          exact ⟨i + 1, by simpa [OccursAt] using hi⟩
        · rintro ⟨i, hi⟩
          cases i with
          | zero =>
              exact absurd (by simpa [OccursAt] using hi) hHead
          | succ i => exact ⟨i, by simpa [OccursAt] using hi⟩

theorem find_isSome_iff
    {pattern text : List α} :
    (find pattern text).isSome ↔ Occurs pattern text := by
  rw [← not_iff_not, ← find_eq_none_iff]
  simp

theorem exists_find_of_occurs
    {pattern text : List α}
    (hOccurs : Occurs pattern text) :
    ∃ i, find pattern text = some i :=
  Option.isSome_iff_exists.mp (find_isSome_iff.mpr hOccurs)

theorem find_occursAt
    {pattern text : List α}
    {i : Nat}
    (hFind : find pattern text = some i) :
    OccursAt pattern text i :=
  (find_eq_some_iff.mp hFind).1

theorem find_le_of_occursAt
    {pattern text : List α}
    {i j : Nat}
    (hFind : find pattern text = some i)
    (hOccurs : OccursAt pattern text j) :
    i ≤ j := by
  by_contra hLess
  exact (find_eq_some_iff.mp hFind).2.2 j (by omega) hOccurs

theorem find_add_length_le
    {pattern text : List α}
    {i : Nat}
    (hPattern : pattern ≠ [])
    (hFind : find pattern text = some i) :
    i + pattern.length ≤ text.length :=
  (find_occursAt hFind).add_length_le hPattern

/- A text that starts with the pattern. -/
theorem find_self_append
    (pattern rest : List α) :
    find pattern (pattern ++ rest) = some 0 := by
  rw [find_eq_some_iff]
  simp [OccursAt]

/- A first occurrence stays first when text is appended. -/
theorem find_append_of_some
    {pattern text : List α}
    {i : Nat}
    (more : List α)
    (hPattern : pattern ≠ [])
    (hFind : find pattern text = some i) :
    find pattern (text ++ more) = some i := by
  have hFits := find_add_length_le hPattern hFind
  obtain ⟨hOccurs, hLength, hFirst⟩ :=
    find_eq_some_iff.mp hFind
  apply find_eq_some_iff.mpr
  refine ⟨occursAt_append_of_occursAt more hOccurs, ?_, ?_⟩
  · rw [List.length_append]
    omega
  · intro j hj hEarlier
    exact hFirst j hj
      ((occursAt_append_iff_of_fits (by omega)).mp hEarlier)

/- Searching from a later position. -/
theorem find_drop_eq_some_iff
    {pattern text : List α}
    {k i : Nat}
    (hLength : k ≤ text.length) :
    find pattern (text.drop k) = some i ↔
      OccursAt pattern text (k + i) ∧
        k + i ≤ text.length ∧
        ∀ j, k ≤ j → j < k + i →
          ¬ OccursAt pattern text j := by
  rw [find_eq_some_iff]
  simp only [occursAt_drop, List.length_drop]
  constructor
  · rintro ⟨hOccurs, hLe, hFirst⟩
    refine ⟨hOccurs, by omega, ?_⟩
    intro j hkj hj hAt
    apply hFirst (j - k) (by omega)
    have hIndex : k + (j - k) = j := by omega
    rwa [hIndex]
  · rintro ⟨hOccurs, hLe, hFirst⟩
    refine ⟨hOccurs, by omega, ?_⟩
    intro j hj hAt
    exact hFirst (k + j) (by omega) (by omega) hAt

omit [DecidableEq α] in
/- The search for one byte. -/
theorem occurs_singleton_iff
    {a : α}
    {text : List α} :
    Occurs [a] text ↔ a ∈ text := by
  constructor
  · intro hOccurs
    rcases hOccurs with ⟨i, hAt⟩
    exact List.mem_of_mem_drop (hAt.subset List.mem_cons_self)
  · intro hMem
    rcases List.append_of_mem hMem with ⟨before, after, rfl⟩
    exact ⟨before.length, by simp [OccursAt]⟩

/- Bytes without the first byte of a pattern are skipped. -/
theorem find_append_of_head_notMem
    {a : α}
    {pattern before text : List α}
    (hHead : a ∉ before) :
    find (a :: pattern) (before ++ text) =
      (find (a :: pattern) text).map (before.length + ·) := by
  have hNone : ∀ j, j < before.length →
      ¬ OccursAt (a :: pattern) (before ++ text) j := by
    intro j hj hAt
    have hByte := hAt.getElem?_add (k := 0) (by simp)
    rw [Nat.add_zero, List.getElem?_append_left hj,
      List.getElem?_cons_zero] at hByte
    exact hHead (List.mem_of_getElem? hByte)
  rw [find_eq_map_drop (by simp) hNone]
  simp

/-
  Text without the pattern is skipped when the next byte
  keeps every occurrence behind it.
-/
theorem find_append_of_boundary
    {pattern text more : List α}
    {a : α}
    (hBoundary : a ∉ pattern)
    (hHead : more.head? = some a)
    (hNone : ¬ Occurs pattern text) :
    find pattern (text ++ more) =
      (find pattern more).map (text.length + ·) := by
  have hSkip : ∀ j, j < text.length →
      ¬ OccursAt pattern (text ++ more) j := by
    intro j hj hAt
    rcases (occursAt_append_iff_of_boundary hBoundary
        hHead).mp hAt with hLeft | hRight
    · exact hNone ⟨j, hLeft⟩
    · omega
  rw [find_eq_map_drop (by simp) hSkip, List.drop_left]

/- The first occurrence in an initial part of a text. -/
theorem find_eq_some_iff_of_isPrefix
    {pattern part text : List α}
    {i : Nat}
    (hPattern : pattern ≠ [])
    (hPart : part <+: text) :
    find pattern part = some i ↔
      find pattern text = some i ∧
        i + pattern.length ≤ part.length := by
  rcases hPart with ⟨more, rfl⟩
  constructor
  · intro hFind
    exact ⟨find_append_of_some more hPattern hFind,
      find_add_length_le hPattern hFind⟩
  · intro hBoth
    rcases hBoth with ⟨hFind, hFits⟩
    have hAt := (occursAt_append_iff_of_fits hFits).mp
      (find_occursAt hFind)
    rcases exists_find_of_occurs ⟨i, hAt⟩ with
      ⟨first, hFirst⟩
    have hSame := find_append_of_some more hPattern hFirst
    rw [hFind] at hSame
    rw [hFirst, hSame]

end ListSearch
