import GpsTracker.Gps.ParseNmea
import GpsTracker.Lib.Segmenter

/-
  Which strings `GPS_Parse` hands to `ParseOneNmea`.

  `sentences` is the intended reading of a frame: skip to
  the next '$', take everything through the next "\r\n",
  continue behind it. The cursor of the code moves by the
  length of the sentence only, so it falls behind by the
  bytes that were skipped, and a '$' in the bytes it has
  fallen behind is found again.

  Main declarations:
    * `Gps.sentenceSegmenter`, `Gps.sentences`
    * `Gps.handed`
    * `Gps.SkippedClear`
    * `Gps.handed_eq_sentences_iff`
-/

open CString ListSearch

------------------------------------------------------------
-- Sentences
------------------------------------------------------------

namespace Gps

/- A byte other than '$', CR, LF and NUL. -/
def isBodyByte (b : UInt8) : Bool :=
  b ≠ byte '$' && b ≠ 13 && b ≠ 10 && b ≠ 0

/- An NMEA sentence: '$', such bytes, and "\r\n". -/
structure Sentence where
  body : List UInt8
  clear : body.all isBodyByte = true

namespace Sentence

theorem isBodyByte_of_mem
    (sentence : Sentence)
    {b : UInt8}
    (hMem : b ∈ sentence.body) :
    isBodyByte b = true :=
  List.all_eq_true.mp sentence.clear b hMem

def bytes (sentence : Sentence) : List UInt8 :=
  byte '$' :: (sentence.body ++ crlf)

theorem length_bytes
    (sentence : Sentence) :
    sentence.bytes.length = sentence.body.length + 3 := by
  simp [bytes, crlf]

theorem bytes_ne_nil
    (sentence : Sentence) :
    sentence.bytes ≠ [] :=
  List.cons_ne_nil _ _

theorem nul_notMem_bytes
    (sentence : Sentence) :
    0 ∉ sentence.bytes := by
  intro hMem
  rcases List.mem_cons.mp hMem with hDollar | hMem
  · revert hDollar
    decide
  · rcases List.mem_append.mp hMem with hBody | hEnd
    · exact absurd (sentence.isBodyByte_of_mem hBody)
        (by decide)
    · revert hEnd
      decide

/- A line feed ends the sentence. -/
theorem add_one_eq_length_of_feed
    (sentence : Sentence)
    {k : Nat}
    (hFeed : sentence.bytes[k]? = some 10) :
    k + 1 = sentence.bytes.length := by
  rw [length_bytes]
  unfold bytes at hFeed
  cases k with
  | zero =>
      rw [List.getElem?_cons_zero] at hFeed
      exact absurd (Option.some.inj hFeed) (by decide)
  | succ k =>
      rw [List.getElem?_cons_succ] at hFeed
      by_cases hBody : k < sentence.body.length
      · rw [List.getElem?_append_left hBody] at hFeed
        have hBodyByte := sentence.isBodyByte_of_mem
          (List.mem_of_getElem? hFeed)
        exact absurd hBodyByte (by decide)
      · rw [List.getElem?_append_right (by omega)] at hFeed
        have hIndex : k - sentence.body.length = 1 := by
          rcases List.getElem?_eq_some_iff.mp hFeed with
            ⟨hLt, hByte⟩
          simp only [crlf, List.length_cons,
            List.length_nil] at hLt
          by_contra hNe
          rw [show k - sentence.body.length = 0 by omega]
            at hFeed
          revert hFeed
          decide
        omega

/- A "\r\n" behind the '$' of a sentence is its end or later. -/
theorem length_le_of_crlf
    (sentence : Sentence)
    {text : List UInt8}
    {a j : Nat}
    (hAt : OccursAt sentence.bytes text a)
    (hCrlf : OccursAt crlf text j)
    (hBehind : a < j + 2) :
    a + sentence.bytes.length ≤ j + 2 := by
  by_contra hInside
  have hByte := hAt.getElem?_eq hCrlf (a := j + 1 - a)
    (b := 1) (by omega) (by decide) (by omega)
  have hLast := sentence.add_one_eq_length_of_feed hByte
  omega

end Sentence

end Gps

------------------------------------------------------------
-- The Sentences of a String
------------------------------------------------------------

namespace Gps

/- Where the first sentence begins, and where it ends. -/
def sentenceSpan
    (text : List UInt8) : Option (Nat × Nat) :=
  match find (ascii "$") text with
  | none => none
  | some start =>
      match find crlf (text.drop start) with
      | none => none
      | some length => some (start, start + length + 2)

theorem sentenceSpan_eq_some_iff
    {text : List UInt8}
    {start stop : Nat} :
    sentenceSpan text = some (start, stop) ↔
      find (ascii "$") text = some start ∧
        ∃ length,
          find crlf (text.drop start) = some length ∧
            stop = start + length + 2 := by
  constructor
  · intro hSpan
    unfold sentenceSpan at hSpan
    split at hSpan
    · cases hSpan
    · next first hStart =>
        split at hSpan
        · cases hSpan
        · next length hStop =>
            cases hSpan
            exact ⟨hStart, length, hStop, rfl⟩
  · intro hFinds
    rcases hFinds with ⟨hStart, length, hStop, rfl⟩
    simp only [sentenceSpan, hStart, hStop]

/- The sentence lies in the text and has at least 3 bytes. -/
theorem sentenceSpan_bounds
    {text : List UInt8}
    {start stop : Nat}
    (hSpan : sentenceSpan text = some (start, stop)) :
    start + 3 ≤ stop ∧ stop ≤ text.length := by
  rcases sentenceSpan_eq_some_iff.mp hSpan with
    ⟨hStart, length, hStop, rfl⟩
  have hStartFits :=
    find_add_length_le (by decide) hStart
  have hStopFits := find_add_length_le (by decide) hStop
  have hDollar := find_occursAt hStart
  simp only [List.length_drop, crlf, List.length_cons,
    List.length_nil] at hStopFits
  -- the '$' is not the carriage return
  have hPos : length ≠ 0 := by
    rintro rfl
    have hCr := (find_occursAt hStop).getElem?_add
      (k := 0) (by decide)
    have hByte := hDollar.getElem?_add (k := 0) (by decide)
    simp only [List.getElem?_drop, Nat.add_zero] at hCr hByte
    rw [hByte] at hCr
    revert hCr
    decide
  omega

/- A sentence is final once its "\r\n" has arrived. -/
theorem sentenceSpan_append
    {text : List UInt8}
    {start stop : Nat}
    (more : List UInt8)
    (hSpan : sentenceSpan text = some (start, stop)) :
    sentenceSpan (text ++ more) = some (start, stop) := by
  rcases sentenceSpan_eq_some_iff.mp hSpan with
    ⟨hStart, length, hStop, rfl⟩
  have hFits := find_add_length_le (by decide) hStart
  apply sentenceSpan_eq_some_iff.mpr
  refine ⟨find_append_of_some more (by decide) hStart,
    length, ?_, rfl⟩
  rw [List.drop_append_of_le_length (by omega)]
  exact find_append_of_some more (by decide) hStop

/- A segment is the bytes skipped and one sentence. -/
def sentenceSegmenter : Segmenter UInt8 :=
  { cut := fun text => (sentenceSpan text).map Prod.snd
    cut_pos := by
      intro text n hCut
      rcases Option.map_eq_some_iff.mp hCut with
        ⟨⟨start, stop⟩, hSpan, rfl⟩
      have hBounds := sentenceSpan_bounds hSpan
      show 0 < stop
      omega
    cut_le := by
      intro text n hCut
      rcases Option.map_eq_some_iff.mp hCut with
        ⟨⟨start, stop⟩, hSpan, rfl⟩
      exact (sentenceSpan_bounds hSpan).2
    cut_append := by
      intro text n more hCut
      rcases Option.map_eq_some_iff.mp hCut with
        ⟨span, hSpan, rfl⟩
      rw [sentenceSpan_append more hSpan]
      rfl }

/- How many bytes of a segment stand before its sentence. -/
def skipped (segment : List UInt8) : Nat :=
  (find (ascii "$") segment).getD 0

/- The sentence of a segment. -/
def sentenceOf (segment : List UInt8) : List UInt8 :=
  segment.drop (skipped segment)

/-
  The sentences of a string, scanning from the left: from
  the next '$' through the next "\r\n", again and again.
-/
def sentences
    (text : List UInt8) : List (List UInt8) :=
  (sentenceSegmenter.segments text).map sentenceOf

theorem skipped_take
    {text : List UInt8}
    {start stop : Nat}
    (hSpan : sentenceSpan text = some (start, stop)) :
    skipped (text.take stop) = start := by
  have hBounds := sentenceSpan_bounds hSpan
  rcases sentenceSpan_eq_some_iff.mp hSpan with
    ⟨hStart, _⟩
  rcases find_eq_some_iff.mp hStart with
    ⟨hAt, hLe, hFirst⟩
  have hTake : find (ascii "$") (text.take stop) =
      some start := by
    have hSplit := List.take_append_drop stop text
    have hFits : ∀ j, j ≤ start →
        (OccursAt (ascii "$") (text.take stop) j ↔
          OccursAt (ascii "$") text j) := by
      intro j hj
      conv_rhs => rw [← hSplit]
      rw [occursAt_append_iff_of_fits]
      rw [List.length_take]
      change j + 1 ≤ _
      omega
    apply find_eq_some_iff.mpr
    refine ⟨(hFits start (Nat.le_refl _)).mpr hAt, ?_, ?_⟩
    · rw [List.length_take]
      omega
    · intro j hj hEarlier
      exact hFirst j hj ((hFits j (by omega)).mp hEarlier)
  rw [skipped, hTake]
  rfl

theorem sentences_of_span_none
    {text : List UInt8}
    (hSpan : sentenceSpan text = none) :
    sentences text = [] := by
  unfold sentences
  rw [Segmenter.segments_of_cut_none]
  · rfl
  · simp [sentenceSegmenter, hSpan]

theorem sentences_of_span_some
    {text : List UInt8}
    {start stop : Nat}
    (hSpan : sentenceSpan text = some (start, stop)) :
    sentences text =
      (text.take stop).drop start ::
        sentences (text.drop stop) := by
  have hCut :
      sentenceSegmenter.cut text = some stop := by
    simp [sentenceSegmenter, hSpan]
  unfold sentences
  rw [Segmenter.segments_of_cut_some hCut, List.map_cons,
    sentenceOf, skipped_take hSpan]

end Gps

------------------------------------------------------------
-- Later Starts
------------------------------------------------------------

namespace Gps

/- A '$' with a "\r\n" behind it makes a sentence. -/
theorem exists_sentenceSpan
    {text : List UInt8}
    {p q : Nat}
    (hDollar : OccursAt (ascii "$") text p)
    (hCrlf : OccursAt crlf text q)
    (hOrder : p ≤ q) :
    ∃ start stop,
      sentenceSpan text = some (start, stop) ∧
        start ≤ p ∧ stop ≤ q + 2 := by
  rcases exists_find_of_occurs ⟨p, hDollar⟩ with
    ⟨start, hStart⟩
  have hFirst := find_le_of_occursAt hStart hDollar
  have hRest :
      OccursAt crlf (text.drop start) (q - start) := by
    rw [occursAt_drop, Nat.add_sub_of_le (by omega)]
    exact hCrlf
  rcases exists_find_of_occurs ⟨q - start, hRest⟩ with
    ⟨length, hStop⟩
  have hFirstStop := find_le_of_occursAt hStop hRest
  refine ⟨start, start + length + 2,
    sentenceSpan_eq_some_iff.mpr
      ⟨hStart, length, hStop, rfl⟩,
    hFirst, by omega⟩

/- The marks of a sentence, in the text it was found in. -/
theorem occursAt_of_sentenceSpan_drop
    {text : List UInt8}
    {k start stop : Nat}
    (hSpan :
      sentenceSpan (text.drop k) = some (start, stop)) :
    OccursAt (ascii "$") text (k + start) ∧
      OccursAt crlf text (k + stop - 2) := by
  rcases sentenceSpan_eq_some_iff.mp hSpan with
    ⟨hStart, length, hStop, rfl⟩
  have hCrlf := find_occursAt hStop
  rw [occursAt_drop, occursAt_drop] at hCrlf
  constructor
  · exact occursAt_drop.mp (find_occursAt hStart)
  · rwa [show k + (start + length + 2) - 2 =
      k + (start + length) by omega]

/- Starting later, the first sentence ends no earlier. -/
theorem sentenceSpan_of_drop
    {text : List UInt8}
    {k start stop : Nat}
    (hSpan :
      sentenceSpan (text.drop k) = some (start, stop)) :
    ∃ start' stop',
      sentenceSpan text = some (start', stop') ∧
        stop' ≤ k + stop := by
  have hBounds := sentenceSpan_bounds hSpan
  rcases occursAt_of_sentenceSpan_drop hSpan with
    ⟨hDollar, hCrlf⟩
  rcases exists_sentenceSpan hDollar hCrlf (by omega) with
    ⟨start', stop', hSpan', _, hStop'⟩
  exact ⟨start', stop', hSpan', by omega⟩

/- Starting later, no more sentences are found. -/
theorem length_sentences_drop_le
    (text : List UInt8)
    (k : Nat) :
    (sentences (text.drop k)).length ≤
      (sentences text).length := by
  induction hLength : text.length using
      Nat.strongRecOn generalizing text k with
  | _ length ih =>
      cases hSpan : sentenceSpan (text.drop k) with
      | none =>
          rw [sentences_of_span_none hSpan]
          exact Nat.zero_le _
      | some span =>
          rcases span with ⟨start, stop⟩
          rcases sentenceSpan_of_drop hSpan with
            ⟨start', stop', hSpan', hStop⟩
          have hBounds := sentenceSpan_bounds hSpan'
          have hRest :
              (text.drop k).drop stop =
                (text.drop stop').drop
                  (k + stop - stop') := by
            rw [List.drop_drop, List.drop_drop,
              Nat.add_sub_of_le hStop]
          have hLater := ih (text.drop stop').length
            (by rw [List.length_drop]; omega)
            (text.drop stop') (k + stop - stop') rfl
          rw [sentences_of_span_some hSpan,
            sentences_of_span_some hSpan', hRest]
          exact Nat.succ_le_succ hLater

theorem length_sentences_drop_antitone
    (text : List UInt8)
    {j k : Nat}
    (hLe : j ≤ k) :
    (sentences (text.drop k)).length ≤
      (sentences (text.drop j)).length := by
  have hDrop :=
    length_sentences_drop_le (text.drop j) (k - j)
  rwa [List.drop_drop, Nat.add_sub_of_le hLe] at hDrop

end Gps

------------------------------------------------------------
-- The Cursor of the Code
------------------------------------------------------------

namespace Gps

/-
  The strings that the loop of `GPS_Parse` cuts out of a
  text: the cursor moves on by the length of the sentence,
  not to its end.
-/
def handed (text : List UInt8) : List (List UInt8) :=
  match _hSpan : sentenceSpan text with
  | none => []
  | some (start, stop) =>
      (text.take stop).drop start ::
        handed (text.drop (stop - start))
termination_by text.length
decreasing_by
  have hBounds := sentenceSpan_bounds _hSpan
  rw [List.length_drop]
  omega

theorem handed_of_span_none
    {text : List UInt8}
    (hSpan : sentenceSpan text = none) :
    handed text = [] := by
  rw [handed]
  split
  · rfl
  · simp_all

theorem handed_of_span_some
    {text : List UInt8}
    {start stop : Nat}
    (hSpan : sentenceSpan text = some (start, stop)) :
    handed text =
      (text.take stop).drop start ::
        handed (text.drop (stop - start)) := by
  rw [handed]
  split
  · simp_all
  · next start' stop' hSpan' =>
      rw [hSpan] at hSpan'
      cases hSpan'
      rfl

/- The code finds every sentence, some perhaps again. -/
theorem length_sentences_le_handed
    (text : List UInt8) :
    (sentences text).length ≤ (handed text).length := by
  induction hLength : text.length using
      Nat.strongRecOn generalizing text with
  | _ length ih =>
      cases hSpan : sentenceSpan text with
      | none =>
          rw [sentences_of_span_none hSpan]
          exact Nat.zero_le _
      | some span =>
          rcases span with ⟨start, stop⟩
          have hBounds := sentenceSpan_bounds hSpan
          have hBehind := length_sentences_drop_antitone
            text (Nat.sub_le stop start)
          have hLater := ih
            (text.drop (stop - start)).length
            (by rw [List.length_drop]; omega)
            (text.drop (stop - start)) rfl
          rw [sentences_of_span_some hSpan,
            handed_of_span_some hSpan]
          exact Nat.succ_le_succ (hBehind.trans hLater)

end Gps

------------------------------------------------------------
-- When the Cursor Meets No Old '$'
------------------------------------------------------------

namespace Gps

/-
  The bytes that the cursor has fallen behind by, when it
  has passed a sentence, are the last bytes of that
  sentence; none of them is a '$'.
-/
def SkippedClear :
    Nat → List (List UInt8) → Prop
| _, [] => True
| behind, segment :: segments =>
    let behind := behind + skipped segment
    let sentence := sentenceOf segment
    byte '$' ∉ sentence.drop (sentence.length - behind) ∧
      SkippedClear behind segments

instance SkippedClear.decidable :
    (behind : Nat) → (segments : List (List UInt8)) →
      Decidable (SkippedClear behind segments)
| _, [] => isTrue trivial
| behind, segment :: segments =>
    have := decidable (behind + skipped segment) segments
    inferInstanceAs (Decidable (_ ∧ _))

/- Bytes without a '$' only shift the first sentence. -/
theorem sentenceSpan_append_left
    {before text : List UInt8}
    (hClear : byte '$' ∉ before) :
    sentenceSpan (before ++ text) =
      (sentenceSpan text).map fun span =>
        (before.length + span.1, before.length + span.2) := by
  have hStart : find (ascii "$") (before ++ text) =
      (find (ascii "$") text).map (before.length + ·) :=
    find_append_of_head_notMem hClear
  unfold sentenceSpan
  rw [hStart]
  cases find (ascii "$") text with
  | none => rfl
  | some start =>
      have hDrop :
          (before ++ text).drop (before.length + start) =
            text.drop start := by
        rw [← List.drop_drop, List.drop_left]
      simp only [Option.map_some, hDrop]
      cases find crlf (text.drop start) with
      | none => rfl
      | some length => simp [Nat.add_assoc]

/- What does not begin with '\n' begins before a "\r\n". -/
theorem le_crlf
    {pattern text : List UInt8}
    {p q : Nat}
    (hPattern : OccursAt pattern text p)
    (hCrlf : OccursAt crlf text q)
    (hPos : 0 < pattern.length)
    (hFirst : pattern[0]? ≠ some 10)
    (hLt : p < q + 2) :
    p ≤ q := by
  by_contra hBehind
  exact hFirst (hPattern.getElem?_eq hCrlf (b := 1) hPos
    (by decide) (by omega))

end Gps

/-
  One sentence of a text behind bytes that the cursor has
  fallen behind by. `window` is what it is behind by after
  that sentence.
-/
namespace Gps

variable {before text : List UInt8}
variable {start stop : Nat}

theorem drop_sentence_length
    (hSpan : sentenceSpan text = some (start, stop)) :
    (before ++ text).drop (stop - start) =
      (before ++ text.take stop).drop (stop - start) ++
        text.drop stop := by
  have hBounds := sentenceSpan_bounds hSpan
  have hLength :
      stop - start ≤ (before ++ text.take stop).length := by
    rw [List.length_append, List.length_take]
    omega
  rw [← List.drop_append_of_le_length hLength,
    List.append_assoc, List.take_append_drop]

theorem length_window
    (before : List UInt8)
    (hSpan : sentenceSpan text = some (start, stop)) :
    ((before ++ text.take stop).drop
        (stop - start)).length =
      before.length + start := by
  have hBounds := sentenceSpan_bounds hSpan
  rw [List.length_drop, List.length_append,
    List.length_take]
  omega

theorem dollar_mem_sentence
    (hSpan : sentenceSpan text = some (start, stop)) :
    byte '$' ∈ (text.take stop).drop start := by
  have hBounds := sentenceSpan_bounds hSpan
  rcases sentenceSpan_eq_some_iff.mp hSpan with
    ⟨hStart, _⟩
  have hByte := (find_occursAt hStart).getElem?_add
    (k := 0) (by decide)
  apply List.mem_of_getElem? (i := 0)
  rw [List.getElem?_drop,
    List.getElem?_take_of_lt (by omega)]
  exact hByte

/-
  The window is the end of the sentence, unless the cursor
  is behind by more than the sentence: then both hold the
  first byte of the sentence.
-/
theorem dollar_mem_window_iff
    (hSpan : sentenceSpan text = some (start, stop)) :
    byte '$' ∈
        (before ++ text.take stop).drop (stop - start) ↔
      byte '$' ∈ ((text.take stop).drop start).drop
        (((text.take stop).drop start).length -
          (before.length + start)) := by
  have hBounds := sentenceSpan_bounds hSpan
  have hSentence : ((text.take stop).drop start).length =
      stop - start := by
    rw [List.length_drop, List.length_take]
    omega
  rw [hSentence]
  by_cases hBehind : before.length + start ≤ stop - start
  · have hDrop :
        (before ++ text.take stop).drop (stop - start) =
          (text.take stop).drop
            (stop - start - before.length) := by
      rw [List.drop_append,
        List.drop_eq_nil_of_le (by omega), List.nil_append]
    rw [hDrop, List.drop_drop,
      show start + (stop - start - (before.length + start)) =
        stop - start - before.length by omega]
  · have hMem := dollar_mem_sentence hSpan
    rw [show stop - start - (before.length + start) = 0 by
      omega, List.drop_zero]
    refine iff_of_true ?_ hMem
    have hDrop :
        ((before ++ text.take stop).drop (stop - start)).drop
            (before.length + start - (stop - start)) =
          (text.take stop).drop start := by
      rw [List.drop_drop, Nat.add_sub_of_le (by omega),
        ← List.drop_drop, List.drop_left]
    rw [← hDrop] at hMem
    exact List.mem_of_mem_drop hMem

/- The text before the cursor ends in the "\\r\\n". -/
theorem occursAt_crlf_append_take
    (before : List UInt8)
    (hSpan : sentenceSpan text = some (start, stop)) :
    OccursAt crlf (before ++ text.take stop)
      (before.length + (stop - 2)) := by
  have hBounds := sentenceSpan_bounds hSpan
  rw [← List.drop_zero (l := text)] at hSpan
  have hAt := (occursAt_of_sentenceSpan_drop hSpan).2
  rw [Nat.zero_add, ← List.take_append_drop stop text,
    occursAt_append_iff_of_fits] at hAt
  · exact occursAt_append_right.mpr hAt
  · rw [List.length_take, crlf, List.length_cons,
      List.length_singleton]
    omega

/- A '$' in the window is found again as a sentence. -/
theorem length_sentences_lt_handed
    (hSpan : sentenceSpan text = some (start, stop))
    (hDollar : byte '$' ∈
      (before ++ text.take stop).drop (stop - start)) :
    (sentences (text.drop stop)).length <
      (handed ((before ++ text).drop
        (stop - start))).length := by
  have hBounds := sentenceSpan_bounds hSpan
  have hWindow := length_window before hSpan
  have hEnd := occursAt_crlf_append_take before hSpan
  rcases occurs_singleton_iff.mpr hDollar with ⟨p, hAt⟩
  have hFits := hAt.add_length_le (by simp)
  rw [hWindow, List.length_singleton] at hFits
  have hOrder := le_crlf (occursAt_drop.mp hAt) hEnd (by decide)
    (by decide)
    (by omega)
  have hCrlf : OccursAt crlf
      ((before ++ text.take stop).drop (stop - start))
      (before.length + start - 2) := by
    rw [occursAt_drop]
    rwa [show stop - start + (before.length + start - 2) =
      before.length + (stop - 2) by omega]
  rcases exists_sentenceSpan hAt hCrlf (by omega) with
    ⟨start', stop', hAgain, _, hStop'⟩
  have hAgain' :=
    sentenceSpan_append (text.drop stop) hAgain
  have hRest := length_sentences_drop_antitone
    ((before ++ text).drop (stop - start))
    (show stop' ≤ before.length + start by
      have hLe := (sentenceSpan_bounds hAgain).2
      omega)
  rw [drop_sentence_length hSpan] at hRest ⊢
  rw [← hWindow, List.drop_left] at hRest
  have hAll := length_sentences_le_handed
    ((before ++ text.take stop).drop (stop - start) ++
      text.drop stop)
  rw [sentences_of_span_some hAgain', List.length_cons]
    at hAll
  omega

end Gps

/-
  Behind bytes without a '$', the code hands over the
  sentences of a text exactly when it never meets an old '$'.
-/
namespace Gps

theorem handed_append_eq_sentences_iff
    {before : List UInt8}
    (hClear : byte '$' ∉ before)
    (text : List UInt8) :
    handed (before ++ text) = sentences text ↔
      SkippedClear before.length
        (sentenceSegmenter.segments text) := by
  induction text using Segmenter.cut_induction
      (S := sentenceSegmenter) generalizing before with
  | hWait text hWait =>
      have hSpan : sentenceSpan text = none := by
        simpa [sentenceSegmenter] using hWait
      have hSpan' : sentenceSpan (before ++ text) = none := by
        rw [sentenceSpan_append_left hClear, hSpan]
        rfl
      rw [handed_of_span_none hSpan',
        sentences_of_span_none hSpan,
        Segmenter.segments_of_cut_none hWait]
      simp [SkippedClear]
  | hCut text stop hCut ih =>
      rcases Option.map_eq_some_iff.mp hCut with
        ⟨⟨start, stop⟩, hSpan, rfl⟩
      have hSpan' : sentenceSpan (before ++ text) =
          some (before.length + start,
            before.length + stop) := by
        rw [sentenceSpan_append_left hClear, hSpan]
        rfl
      have hSentence :
          ((before ++ text).take (before.length + stop)).drop
              (before.length + start) =
            (text.take stop).drop start := by
        rw [List.take_length_add_append, ← List.drop_drop,
          List.drop_left]
      have hCursor :
          before.length + stop - (before.length + start) =
            stop - start := by
        omega
      rw [handed_of_span_some hSpan', hSentence, hCursor,
        sentences_of_span_some hSpan,
        Segmenter.segments_of_cut_some hCut, SkippedClear,
        sentenceOf, skipped_take hSpan,
        ← dollar_mem_window_iff hSpan, List.cons_inj_right]
      by_cases hDollar : byte '$' ∈
          (before ++ text.take stop).drop (stop - start)
      · -- the old '$' is handed over once more
        have hMore := length_sentences_lt_handed hSpan hDollar
        refine iff_of_false ?_ (fun h => h.1 hDollar)
        intro hEq
        rw [hEq] at hMore
        exact Nat.lt_irrefl _ hMore
      · have hLater := ih hDollar
        rw [length_window before hSpan] at hLater
        rw [drop_sentence_length hSpan, hLater]
        exact (and_iff_right hDollar).symm

theorem handed_eq_sentences_iff
    (text : List UInt8) :
    handed text = sentences text ↔
      SkippedClear 0 (sentenceSegmenter.segments text) :=
  handed_append_eq_sentences_iff (List.not_mem_nil) text

end Gps
