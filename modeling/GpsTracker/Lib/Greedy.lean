import GpsTracker.Lib.ListSearch

/-
  Search in one pass, without going back.

  The search compares the text with the pattern from a place
  on; where they differ it goes on at the byte that broke
  the match, never inside it. The places where it begins a
  comparison are its attempts. It finds the first occurrence
  of the pattern exactly when that is one of them, and it
  does so in every text of a length exactly when each return
  of the first byte in the pattern, as far as the text has
  room for it, begins a border.

  Main declarations:
    * `matched`, `greedy`, `Attempt`
    * `greedy_eq_some_iff`
    * `FirstAttempted`, `greedy_eq_find_iff`
    * `greedy_eq_find_forall_iff`
-/

------------------------------------------------------------
-- Partial Matches
------------------------------------------------------------

namespace ListSearch

variable {α : Type}
variable [DecidableEq α]

/- How many first bytes of the pattern stand in the text. -/
def matched :
    List α → List α → Nat
| p :: pattern, a :: text =>
    if a = p then matched pattern text + 1 else 0
| _, _ => 0

theorem matched_lt_of_not_isPrefix
    {pattern text : List α}
    (hNot : ¬ pattern <+: text) :
    matched pattern text < pattern.length := by
  induction pattern generalizing text with
  | nil => exact absurd List.nil_prefix hNot
  | cons p pattern ih =>
      cases text with
      | nil => simp [matched]
      | cons a text =>
          by_cases hByte : a = p
          · subst hByte
            have hTail : ¬ pattern <+: text := by
              simpa using hNot
            simpa [matched] using ih hTail
          · simp [matched, hByte]

theorem getElem?_of_lt_matched
    {pattern text : List α}
    {k : Nat}
    (hk : k < matched pattern text) :
    text[k]? = pattern[k]? := by
  induction pattern generalizing text k with
  | nil => simp [matched] at hk
  | cons p pattern ih =>
      cases text with
      | nil => simp [matched] at hk
      | cons a text =>
          by_cases hByte : a = p
          · subst hByte
            rw [matched, if_pos rfl] at hk
            cases k with
            | zero => rfl
            | succ k =>
                simpa using @ih text k (by omega)
          · simp [matched, hByte] at hk

/- The next byte of the pattern is not the one in the text. -/
theorem getElem?_matched_ne
    {pattern text : List α}
    (hLess : matched pattern text < pattern.length) :
    text[matched pattern text]? ≠
      pattern[matched pattern text]? := by
  induction pattern generalizing text with
  | nil => simp at hLess
  | cons p pattern ih =>
      cases text with
      | nil => simp [matched]
      | cons a text =>
          by_cases hByte : a = p
          · subst hByte
            rw [matched, if_pos rfl, List.length_cons] at hLess
            simpa [matched] using @ih text (by omega)
          · simp [matched, hByte]

theorem matched_eq
    {pattern text : List α}
    {k : Nat}
    (hk : k < pattern.length)
    (hBefore : ∀ j, j < k → text[j]? = pattern[j]?)
    (hHere : text[k]? ≠ pattern[k]?) :
    matched pattern text = k := by
  have hLe : matched pattern text ≤ k := by
    by_contra hMore
    exact hHere (getElem?_of_lt_matched (by omega))
  by_contra hNe
  exact getElem?_matched_ne (by omega)
    (hBefore (matched pattern text) (by omega))

end ListSearch

------------------------------------------------------------
-- The Search
------------------------------------------------------------

namespace ListSearch

variable {α : Type}
variable [DecidableEq α]

/- How far the search goes on after a failed comparison. -/
def skip (pattern text : List α) : Nat :=
  max 1 (matched pattern text)

/-
  The search without going back: a failed comparison is
  left behind whole, or by one byte where nothing matched.
-/
def greedy
    (pattern text : List α) : Option Nat :=
  if pattern <+: text then
    some 0
  else if text = [] then
    none
  else
    (greedy pattern (text.drop (skip pattern text))).map
      (skip pattern text + ·)
termination_by text.length
decreasing_by
  have hPos : 0 < text.length :=
    List.length_pos_of_ne_nil (by assumption)
  have hSkip : 1 ≤ skip pattern text := le_max_left _ _
  rw [List.length_drop]
  omega

theorem greedy_of_isPrefix
    {pattern text : List α}
    (hPrefix : pattern <+: text) :
    greedy pattern text = some 0 := by
  rw [greedy, if_pos hPrefix]

theorem greedy_nil
    {pattern : List α}
    (hPattern : pattern ≠ []) :
    greedy pattern [] = none := by
  rw [greedy, if_neg (by simpa using hPattern), if_pos rfl]

theorem greedy_of_not_isPrefix
    {pattern text : List α}
    (hNot : ¬ pattern <+: text) :
    greedy pattern text =
      (greedy pattern (text.drop (skip pattern text))).map
        (skip pattern text + ·) := by
  by_cases hText : text = []
  · subst hText
    have hPattern : pattern ≠ [] := by
      rintro rfl
      exact hNot List.nil_prefix
    rw [List.drop_nil, greedy_nil hPattern, Option.map_none]
  · conv_lhs => rw [greedy, if_neg hNot, if_neg hText]

/- The text ends inside a comparison. -/
theorem greedy_take
    {pattern : List α}
    {k : Nat}
    (hk : k < pattern.length) :
    greedy pattern (pattern.take k) = none := by
  have hNot : ¬ pattern <+: pattern.take k := by
    intro hPrefix
    have hLength := hPrefix.length_le
    rw [List.length_take] at hLength
    omega
  have hMatched : matched pattern (pattern.take k) = k := by
    apply matched_eq hk
    · intro j hj
      exact List.getElem?_take_of_lt hj
    · have hEnd : (pattern.take k).length ≤ k := by
        rw [List.length_take]
        omega
      rw [List.getElem?_eq_none hEnd,
        List.getElem?_eq_getElem hk]
      simp
  have hSkip : k ≤ skip pattern (pattern.take k) := by
    rw [skip, hMatched]
    exact le_max_right _ _
  rw [greedy_of_not_isPrefix hNot, List.drop_eq_nil_of_le,
    greedy_nil (List.ne_nil_of_length_pos (by omega)),
    Option.map_none]
  rw [List.length_take]
  omega

/- A byte breaks a comparison: it is the next one to try. -/
theorem greedy_take_append
    {pattern : List α}
    {k : Nat}
    {a : α}
    {text : List α}
    (hk : k < pattern.length)
    (hByte : pattern[k]? ≠ some a) :
    greedy pattern (pattern.take k ++ a :: text) =
      (greedy pattern (a :: text)).map (k + ·) := by
  cases k with
  | zero => simp
  | succ k =>
      have hTake : (pattern.take (k + 1)).length = k + 1 := by
        rw [List.length_take]
        omega
      have hHere :
          (pattern.take (k + 1) ++ a :: text)[k + 1]? =
            some a := by
        rw [List.getElem?_append_right (by omega), hTake,
          Nat.sub_self, List.getElem?_cons_zero]
      have hNot :
          ¬ pattern <+: pattern.take (k + 1) ++ a :: text := by
        intro hPrefix
        rw [List.prefix_iff_getElem?] at hPrefix
        have hAt := hPrefix (k + 1) hk
        rw [hHere] at hAt
        apply hByte
        rw [List.getElem?_eq_getElem hk, ← hAt]
      have hMatched :
          matched pattern
            (pattern.take (k + 1) ++ a :: text) = k + 1 := by
        apply matched_eq hk
        · intro j hj
          rw [List.getElem?_append_left (by omega),
            List.getElem?_take_of_lt hj]
        · rw [hHere]
          exact Ne.symm hByte
      have hSkip :
          skip pattern
            (pattern.take (k + 1) ++ a :: text) = k + 1 := by
        rw [skip, hMatched]
        omega
      rw [greedy_of_not_isPrefix hNot, hSkip,
        List.drop_left' hTake]

/- A byte that does not begin the pattern is passed over. -/
theorem greedy_cons_of_ne
    {p a : α}
    {pattern text : List α}
    (hByte : a ≠ p) :
    greedy (p :: pattern) (a :: text) =
      (greedy (p :: pattern) text).map (1 + ·) := by
  have hNot : ¬ p :: pattern <+: a :: text := by
    intro hPrefix
    exact hByte (List.cons_prefix_cons.mp hPrefix).1.symm
  have hSkip : skip (p :: pattern) (a :: text) = 1 := by
    simp [skip, matched, hByte]
  rw [greedy_of_not_isPrefix hNot, hSkip,
    List.drop_succ_cons, List.drop_zero]

end ListSearch

------------------------------------------------------------
-- Attempts
------------------------------------------------------------

namespace ListSearch

variable {α : Type}
variable [DecidableEq α]

/-
  The places where the search begins a comparison: the start
  of the text, and from a place where the pattern does not
  stand the first byte behind its partial match.
-/
inductive Attempt
    (pattern text : List α) : Nat → Prop where
  | start : Attempt pattern text 0
  | restart
      {i : Nat}
      (hAttempt : Attempt pattern text i)
      (hNot : ¬ OccursAt pattern text i) :
      Attempt pattern text
        (i + skip pattern (text.drop i))

/- An attempt behind the first skip is one of the text. -/
theorem Attempt.of_drop_skip
    {pattern text : List α}
    (hNot : ¬ pattern <+: text)
    {i : Nat}
    (hAttempt :
      Attempt pattern (text.drop (skip pattern text)) i) :
    Attempt pattern text (skip pattern text + i) := by
  induction hAttempt with
  | start =>
      have hFirst : ¬ OccursAt pattern text 0 := by
        simpa [OccursAt] using hNot
      have hNext := Attempt.start.restart hFirst
      simpa using hNext
  | restart hBefore hFails ih =>
      rw [occursAt_drop] at hFails
      have hNext := ih.restart hFails
      rwa [← List.drop_drop, Nat.add_assoc] at hNext

/- The search comes to each attempt and goes on from there. -/
theorem Attempt.greedy_eq
    {pattern text : List α}
    {i : Nat}
    (hAttempt : Attempt pattern text i) :
    greedy pattern text =
      (greedy pattern (text.drop i)).map (i + ·) := by
  induction hAttempt with
  | start => simp
  | restart hBefore hFails ih =>
      rw [ih, greedy_of_not_isPrefix hFails, List.drop_drop,
        Option.map_map]
      congr 1
      funext k
      exact (Nat.add_assoc _ _ _).symm

/- The search stops at an attempt where the pattern stands. -/
theorem greedy_eq_some_iff
    {pattern text : List α}
    (hPattern : pattern ≠ [])
    {i : Nat} :
    greedy pattern text = some i ↔
      Attempt pattern text i ∧ OccursAt pattern text i := by
  constructor
  · intro hGreedy
    induction hLength : text.length
      using Nat.strongRecOn generalizing text i with
    | _ n ih =>
        by_cases hPrefix : pattern <+: text
        · rw [greedy_of_isPrefix hPrefix] at hGreedy
          cases hGreedy
          exact ⟨Attempt.start, by simpa [OccursAt]⟩
        · have hText : text ≠ [] := by
            rintro rfl
            rw [greedy_nil hPattern] at hGreedy
            cases hGreedy
          have hPos := List.length_pos_of_ne_nil hText
          have hSkip : 1 ≤ skip pattern text :=
            le_max_left _ _
          rw [greedy_of_not_isPrefix hPrefix] at hGreedy
          rcases Option.map_eq_some_iff.mp hGreedy with
            ⟨k, hLater, rfl⟩
          have hShort :
              (text.drop (skip pattern text)).length < n := by
            rw [List.length_drop]
            omega
          rcases ih _ hShort hLater rfl with
            ⟨hAttempt, hOccurs⟩
          exact ⟨hAttempt.of_drop_skip hPrefix,
            occursAt_drop.mp hOccurs⟩
  · rintro ⟨hAttempt, hOccurs⟩
    rw [hAttempt.greedy_eq, greedy_of_isPrefix hOccurs]
    simp

/- The first occurrence, if there is one, is tried. -/
def FirstAttempted (pattern text : List α) : Prop :=
  ∀ i, find pattern text = some i → Attempt pattern text i

/- This is when the search finds the first occurrence. -/
theorem greedy_eq_find_iff
    {pattern text : List α}
    (hPattern : pattern ≠ []) :
    greedy pattern text = find pattern text ↔
      FirstAttempted pattern text := by
  constructor
  · intro hEq i hFind
    rw [← hEq] at hFind
    exact ((greedy_eq_some_iff hPattern).mp hFind).1
  · intro hAttempted
    cases hFind : find pattern text with
    | none =>
        cases hGreedy : greedy pattern text with
        | none => rfl
        | some i =>
            rcases (greedy_eq_some_iff hPattern).mp hGreedy
              with ⟨_, hOccurs⟩
            exact absurd ⟨i, hOccurs⟩
              (find_eq_none_iff.mp hFind)
    | some i =>
        rw [greedy_eq_some_iff hPattern]
        exact ⟨hAttempted i hFind, find_occursAt hFind⟩

end ListSearch

------------------------------------------------------------
-- Borders
------------------------------------------------------------

namespace ListSearch

variable {α : Type}

/-
  Wherever the first byte of the pattern comes back in it,
  the rest of the pattern is one of its own beginnings. Only
  the places count from which the whole pattern would still
  fit into a text of the length `room`.
-/
def ReturnsAreBorders
    (room : Nat) (pattern : List α) : Prop :=
  ∀ d, d < pattern.length → d + pattern.length ≤ room →
    pattern[d]? = pattern[0]? → pattern.drop d <+: pattern

variable [DecidableEq α]

instance (room : Nat) (pattern : List α) :
    Decidable (ReturnsAreBorders room pattern) :=
  inferInstanceAs (Decidable (∀ d, d < pattern.length →
    d + pattern.length ≤ room → pattern[d]? = pattern[0]? →
      pattern.drop d <+: pattern))

variable {pattern text : List α}
variable {room : Nat}

/- A partial match then ends before the next occurrence. -/
theorem ReturnsAreBorders.add_skip_le
    (hBorders : ReturnsAreBorders room pattern)
    (hRoom : text.length ≤ room)
    {i k : Nat}
    (hNot : ¬ OccursAt pattern text k)
    (hOccurs : OccursAt pattern text i)
    (hLess : k < i) :
    k + skip pattern (text.drop k) ≤ i := by
  have hShort := matched_lt_of_not_isPrefix hNot
  have hNe := getElem?_matched_ne hShort
  rw [skip]
  generalize hMatched : matched pattern (text.drop k) = m
    at hShort hNe
  by_contra hOver
  rcases Nat.exists_eq_add_of_lt hLess with ⟨d, rfl⟩
  have hInside : d + 1 < m := by omega
  have hSame (e : Nat) (he : e < pattern.length) :
      (text.drop k)[d + 1 + e]? = pattern[e]? := by
    rw [List.getElem?_drop, ← hOccurs.getElem?_add he]
    congr 1
    omega
  have hReturn : pattern[d + 1]? = pattern[0]? := by
    rw [← hSame 0 (by omega)]
    exact (getElem?_of_lt_matched (by omega)).symm
  have hFits := hOccurs.add_length_le
    (List.ne_nil_of_length_pos (by omega))
  have hBorder :=
    hBorders (d + 1) (by omega) (by omega) hReturn
  -- the byte that broke the match is the one it asked for
  have hIndex : d + 1 + (m - (d + 1)) = m := by omega
  have hText := hSame (m - (d + 1)) (by omega)
  rw [List.prefix_iff_getElem?] at hBorder
  have hPattern := hBorder (m - (d + 1)) (by
    rw [List.length_drop]
    omega)
  rw [List.getElem_drop, ← List.getElem?_eq_getElem]
    at hPattern
  rw [hIndex] at hText hPattern
  exact hNe (hText.trans hPattern)

theorem firstAttempted_of_returnsAreBorders
    (hBorders : ReturnsAreBorders room pattern)
    (hRoom : text.length ≤ room) :
    FirstAttempted pattern text := by
  intro i hFind
  have hOccurs := find_occursAt hFind
  have hFirst := (find_eq_some_iff.mp hFind).2.2
  -- from every attempt up to the occurrence
  have hFrom : ∀ n k, i = k + n →
      Attempt pattern text k → Attempt pattern text i := by
    intro n
    induction n using Nat.strongRecOn with
    | _ n ih =>
        intro k hi hAttempt
        by_cases hHere : n = 0
        · obtain rfl : k = i := by omega
          exact hAttempt
        · have hNot := hFirst k (by omega)
          have hLe := hBorders.add_skip_le hRoom hNot hOccurs
            (by omega)
          have hSkip : 1 ≤ skip pattern (text.drop k) :=
            le_max_left _ _
          exact ih (i - (k + skip pattern (text.drop k)))
            (by omega) (k + skip pattern (text.drop k))
            (by omega) (hAttempt.restart hNot)
  exact hFrom i 0 (Nat.zero_add i).symm Attempt.start

/- Nothing is tried between the start and the first skip. -/
theorem Attempt.eq_zero_or_skip_le
    {i : Nat}
    (hAttempt : Attempt pattern text i) :
    i = 0 ∨ skip pattern text ≤ i := by
  induction hAttempt with
  | start => exact Or.inl rfl
  | restart hBefore hFails ih =>
      apply Or.inr
      rcases ih with rfl | hLater
      · rw [List.drop_zero]
        omega
      · omega

/-
  A return of the first byte that is not a border: where the
  pattern begins once more there, it is run over.
-/
theorem exists_not_firstAttempted
    (hBorders : ¬ ReturnsAreBorders room pattern) :
    ∃ text,
      text.length ≤ room ∧
        ¬ FirstAttempted pattern text := by
  simp only [ReturnsAreBorders, not_forall] at hBorders
  rcases hBorders with ⟨d, hd, hRoom, hReturn, hBorder⟩
  have hShort := matched_lt_of_not_isPrefix hBorder
  have hNe := getElem?_matched_ne hShort
  have hSame (k : Nat)
      (hk : k < matched (pattern.drop d) pattern) :
      pattern[k]? = pattern[d + k]? := by
    rw [getElem?_of_lt_matched hk, List.getElem?_drop]
  rw [List.length_drop] at hShort
  rw [List.getElem?_drop] at hNe
  have hNonzero : 0 < d := by
    apply Nat.pos_of_ne_zero
    rintro rfl
    exact hBorder (by simp)
  have hAgain : 0 < matched (pattern.drop d) pattern := by
    apply Nat.pos_of_ne_zero
    intro hZero
    rw [hZero] at hNe
    exact hNe hReturn.symm
  have hTake : (pattern.take d).length = d := by
    rw [List.length_take]
    omega
  have hSecond (k : Nat) :
      (pattern.take d ++ pattern)[d + k]? = pattern[k]? := by
    rw [List.getElem?_append_right (by omega), hTake]
    congr 1
    omega
  have hMatched :
      matched pattern (pattern.take d ++ pattern) =
        d + matched (pattern.drop d) pattern := by
    apply matched_eq (by omega)
    · intro j hj
      by_cases hEarly : j < d
      · rw [List.getElem?_append_left (by omega),
          List.getElem?_take_of_lt hEarly]
      · rcases Nat.exists_eq_add_of_le
          (Nat.le_of_not_lt hEarly) with ⟨k, rfl⟩
        rw [hSecond]
        exact hSame k (by omega)
    · rw [hSecond]
      exact hNe
  have hOccurs :
      OccursAt pattern (pattern.take d ++ pattern) d := by
    rw [OccursAt, List.drop_left' hTake]
  rcases exists_find_of_occurs ⟨d, hOccurs⟩ with
    ⟨first, hFind⟩
  have hLe := find_le_of_occursAt hFind hOccurs
  refine ⟨pattern.take d ++ pattern, ?_, ?_⟩
  · rw [List.length_append, hTake]
    omega
  intro hAttempted
  rcases (hAttempted first hFind).eq_zero_or_skip_le with
    rfl | hSkip
  · -- the partial match at the start is not a whole one
    have hAt := (find_occursAt hFind).getElem?_add
      (k := d + matched (pattern.drop d) pattern) (by omega)
    rw [Nat.zero_add, hSecond] at hAt
    exact hNe hAt
  · rw [skip, hMatched] at hSkip
    omega

/- The patterns found in every text of up to a length. -/
theorem greedy_eq_find_forall_iff
    (hPattern : pattern ≠ []) :
    (∀ text, text.length ≤ room →
      greedy pattern text = find pattern text) ↔
      ReturnsAreBorders room pattern := by
  constructor
  · intro hAll
    by_contra hBorders
    rcases exists_not_firstAttempted hBorders with
      ⟨text, hRoom, hMissed⟩
    exact hMissed
      ((greedy_eq_find_iff hPattern).mp (hAll text hRoom))
  · intro hBorders text hRoom
    apply (greedy_eq_find_iff hPattern).mpr
    exact firstAttempted_of_returnsAreBorders hBorders hRoom

end ListSearch
