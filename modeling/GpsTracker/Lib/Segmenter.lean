import Mathlib.Tactic.Common

/-
  Cutting a growing stream into segments.

  A segmenter looks at the bytes it holds and either says
  how many of them form the next segment or waits for more.
  Its answer may not change when more bytes arrive; this is
  carried by the structure. From that alone, the segments of
  a stream do not depend on the chunks it arrived in.

  Main declarations:
    * `Segmenter`
    * `Segmenter.split`
    * `Segmenter.split_append`
    * `Segmenter.splitChunks_eq_split`
-/

------------------------------------------------------------
-- Segmenters
------------------------------------------------------------

/- A cut rule whose answers are final. -/
structure Segmenter (α : Type) where
  cut : List α → Option Nat
  cut_pos : ∀ {text n}, cut text = some n → 0 < n
  cut_le : ∀ {text n}, cut text = some n → n ≤ text.length
  cut_append : ∀ {text n} (more),
    cut text = some n → cut (text ++ more) = some n

namespace Segmenter

variable {α : Type}

/- The segments of a text, and the bytes left waiting. -/
def split
    (S : Segmenter α)
    (text : List α) :
    List (List α) × List α :=
  match _hCut : S.cut text with
  | none => ([], text)
  | some n =>
      let rest := S.split (text.drop n)
      (text.take n :: rest.1, rest.2)
termination_by text.length
decreasing_by
  have hPos := S.cut_pos _hCut
  have hLe := S.cut_le _hCut
  simp only [List.length_drop]
  omega

/- The segments of a text. -/
def segments
    (S : Segmenter α)
    (text : List α) : List (List α) :=
  (S.split text).1

/- The bytes left waiting. -/
def rest
    (S : Segmenter α)
    (text : List α) : List α :=
  (S.split text).2

variable {S : Segmenter α}

theorem split_of_cut_none
    {text : List α}
    (hCut : S.cut text = none) :
    S.split text = ([], text) := by
  rw [split]
  split
  · rfl
  · simp_all

theorem split_of_cut_some
    {text : List α}
    {n : Nat}
    (hCut : S.cut text = some n) :
    S.split text =
      (text.take n :: S.segments (text.drop n),
        S.rest (text.drop n)) := by
  rw [split]
  split
  · simp_all
  · rename_i m hCut'
    obtain rfl : n = m :=
      Option.some.inj (hCut.symm.trans hCut')
    rfl

theorem segments_of_cut_none
    {text : List α}
    (hCut : S.cut text = none) :
    S.segments text = [] := by
  simp [segments, split_of_cut_none hCut]

theorem rest_of_cut_none
    {text : List α}
    (hCut : S.cut text = none) :
    S.rest text = text := by
  simp [rest, split_of_cut_none hCut]

theorem segments_of_cut_some
    {text : List α}
    {n : Nat}
    (hCut : S.cut text = some n) :
    S.segments text =
      text.take n :: S.segments (text.drop n) := by
  rw [segments, split_of_cut_some hCut]

theorem rest_of_cut_some
    {text : List α}
    {n : Nat}
    (hCut : S.cut text = some n) :
    S.rest text = S.rest (text.drop n) := by
  rw [rest, split_of_cut_some hCut]

/- Induction along the cuts of a text. -/
theorem cut_induction
    {motive : List α → Prop}
    (hWait : ∀ text, S.cut text = none → motive text)
    (hCut : ∀ text n, S.cut text = some n →
      motive (text.drop n) → motive text)
    (text : List α) :
    motive text := by
  induction hLength : text.length using
      Nat.strongRecOn generalizing text with
  | _ length ih =>
      cases hText : S.cut text with
      | none => exact hWait text hText
      | some n =>
          have hPos := S.cut_pos hText
          have hLe := S.cut_le hText
          apply hCut text n hText
          apply ih (text.drop n).length _ _ rfl
          rw [List.length_drop]
          omega

/- What is left waiting is not cut any further. -/
theorem cut_rest
    (text : List α) :
    S.cut (S.rest text) = none := by
  induction text using cut_induction (S := S) with
  | hWait text hText => rwa [rest_of_cut_none hText]
  | hCut text n hText ih => rwa [rest_of_cut_some hText]

/- Nothing is lost and nothing is reordered. -/
theorem flatten_segments_append_rest
    (text : List α) :
    (S.segments text).flatten ++ S.rest text = text := by
  induction text using cut_induction (S := S) with
  | hWait text hText =>
      simp [segments_of_cut_none hText,
        rest_of_cut_none hText]
  | hCut text n hText ih =>
      rw [segments_of_cut_some hText, rest_of_cut_some hText,
        List.flatten_cons, List.append_assoc, ih,
        List.take_append_drop]

/-
  Bytes that arrive later are cut after the segments already
  taken, from what was left waiting.
-/
theorem split_append
    (text more : List α) :
    S.split (text ++ more) =
      (S.segments text ++ S.segments (S.rest text ++ more),
        S.rest (S.rest text ++ more)) := by
  induction text using cut_induction (S := S) with
  | hWait text hText =>
      rw [segments_of_cut_none hText, rest_of_cut_none hText]
      rfl
  | hCut text n hText ih =>
      have hLe := S.cut_le hText
      rw [split_of_cut_some (S.cut_append more hText),
        segments_of_cut_some hText, rest_of_cut_some hText,
        List.take_append_of_le_length hLe,
        List.drop_append_of_le_length hLe]
      simp only [segments, rest] at ih ⊢
      rw [ih]
      rfl

end Segmenter

------------------------------------------------------------
-- Chunked Delivery
------------------------------------------------------------

namespace Segmenter

variable {α : Type}

/-
  Cut after each chunk: the segments in order, and the bytes
  left waiting after the last chunk.
-/
def splitChunks
    (S : Segmenter α)
    (waiting : List α) :
    List (List α) → List (List α) × List α
| [] => ([], waiting)
| chunk :: chunks =>
    let later := S.splitChunks (S.rest (waiting ++ chunk))
      chunks
    (S.segments (waiting ++ chunk) ++ later.1, later.2)

variable {S : Segmenter α}

/-
  How a stream is chunked does not matter. With no chunk at
  all nothing is cut, so then nothing may be cuttable.
-/
theorem splitChunks_eq_split
    {waiting : List α}
    {chunks : List (List α)}
    (hStart : chunks = [] → S.cut waiting = none) :
    S.splitChunks waiting chunks =
      S.split (waiting ++ chunks.flatten) := by
  induction chunks generalizing waiting with
  | nil =>
      simp [splitChunks, split_of_cut_none (hStart rfl)]
  | cons chunk chunks ih =>
      rw [splitChunks, ih (fun _ => cut_rest _),
        List.flatten_cons,
        ← List.append_assoc,
        split_append (waiting ++ chunk) chunks.flatten]
      rfl

end Segmenter
