import GpsTracker.Gps.Delivery

/-
  A whole frame that arrives behind leftover bytes.

  After calls that returned, the buffer holds any bytes
  without a "VTG". The next frame is handed to `GPS_Parse`
  whole exactly when it fits, when the 1024-byte clip does
  not lose its VTG line, and when no NUL waits in front of
  it. A buffer that has no room for a frame keeps none.

  Main declarations:
    * `Gps.Frame`
    * `Gps.HandsOver`, `Gps.Receivable`
    * `Gps.update_takes_frame_iff_receivable`
-/

open CString Machine ListSearch

------------------------------------------------------------
-- Frames
------------------------------------------------------------

namespace Gps

/-
  A complete frame: sentences of which the last is a VTG
  sentence, at most 1024 bytes in all.
-/
structure Frame where
  earlier : List Sentence
  last : Sentence
  vtg : OccursAt (ascii "VTG") last.body 2
  length_le :
    (earlier.flatMap Sentence.bytes ++ last.bytes).length ≤
      nmeaFrameBufferLength

namespace Frame

def bytes (frame : Frame) : List UInt8 :=
  frame.earlier.flatMap Sentence.bytes ++ frame.last.bytes

/- The last sentence without its "\r\n". -/
def line (frame : Frame) : List UInt8 :=
  byte '$' :: frame.last.body

theorem bytes_eq
    (frame : Frame) :
    frame.bytes =
      frame.earlier.flatMap Sentence.bytes ++
        (frame.line ++ crlf) :=
  rfl

theorem head?_bytes
    (frame : Frame) :
    frame.bytes.head? = some (byte '$') := by
  unfold bytes
  cases frame.earlier with
  | nil => rfl
  | cons sentence sentences => rfl

theorem nul_notMem_bytes
    (frame : Frame) :
    0 ∉ frame.bytes := by
  intro hMem
  rcases List.mem_append.mp hMem with hEarlier | hLast
  · rcases List.mem_flatMap.mp hEarlier with
      ⟨sentence, _, hNul⟩
    exact sentence.nul_notMem_bytes hNul
  · exact frame.last.nul_notMem_bytes hLast

theorem feed_notMem_line
    (frame : Frame) :
    10 ∉ frame.line := by
  intro hMem
  rcases List.mem_cons.mp hMem with hDollar | hBody
  · exact absurd hDollar (by decide)
  · exact absurd (frame.last.isBodyByte_of_mem hBody)
      (by decide)

theorem length_line
    (frame : Frame) :
    5 < frame.line.length := by
  have hFits := frame.vtg.add_length_le (by decide)
  rw [length_vtg] at hFits
  rw [line, List.length_cons]
  omega

theorem vtg_line
    (frame : Frame) :
    OccursAt (ascii "VTG") (frame.line ++ crlf) 3 :=
  occursAt_append_of_occursAt crlf
    ((occursAt_drop (k := 1) (i := 2)).mp frame.vtg)

theorem occurs_vtg
    (frame : Frame) :
    Occurs (ascii "VTG") frame.bytes :=
  ⟨_, occursAt_append_right.mpr frame.vtg_line⟩

end Frame

end Gps

------------------------------------------------------------
-- Text That Ends in a VTG Line
------------------------------------------------------------

/-
  `line` is a line without line feeds, `before` is anything.
-/
namespace Gps

variable {before line : List UInt8}

/- A "\r\n" ends the last line or stands before it. -/
theorem crlf_before_or_last
    (hLine : 10 ∉ line)
    {stop : Nat}
    (hCrlf : OccursAt crlf (before ++ (line ++ crlf)) stop) :
    stop + 2 ≤ before.length ∨
      stop = before.length + line.length := by
  have hFits := hCrlf.add_length_le (by decide)
  simp only [List.length_append, crlf, List.length_cons,
    List.length_nil] at hFits
  by_cases hBefore : stop + 2 ≤ before.length
  · exact Or.inl hBefore
  · have hFeed := hCrlf.getElem?_add (k := 1) (by decide)
    rw [List.getElem?_append_right (by omega)] at hFeed
    apply Or.inr
    by_cases hIn : stop + 1 - before.length < line.length
    · rw [List.getElem?_append_left hIn] at hFeed
      exact absurd (List.mem_of_getElem? hFeed) hLine
    · rw [List.getElem?_append_right (by omega)] at hFeed
      by_cases hReturn :
          stop + 1 - before.length - line.length = 0
      · rw [hReturn] at hFeed
        exact absurd hFeed (by decide)
      · omega

/- The first VTG line of such a text. -/
theorem exists_vtgLineEnd
    (before : List UInt8)
    (hLine : 10 ∉ line)
    (hVtg : Occurs (ascii "VTG") (line ++ crlf)) :
    ∃ stop,
      vtgLineEnd (before ++ (line ++ crlf)) = some stop ∧
        (stop ≤ before.length ∨
          stop = (before ++ (line ++ crlf)).length) := by
  rcases hVtg with ⟨i, hAt⟩
  have hFits := hAt.add_length_le (by decide)
  rw [length_vtg,
    List.length_append, length_crlf]
    at hFits
  have hVtg : OccursAt (ascii "VTG")
      (before ++ (line ++ crlf)) (before.length + i) :=
    occursAt_append_right.mpr hAt
  rcases exists_find_of_occurs ⟨_, hVtg⟩ with
    ⟨vtg, hFirst⟩
  have hLe := find_le_of_occursAt hFirst hVtg
  have hEnd : OccursAt crlf (before ++ (line ++ crlf))
      (before.length + (line.length + 0)) :=
    occursAt_append_right.mpr
      (occursAt_append_right.mpr (List.prefix_refl _))
  have hRest : OccursAt crlf
      ((before ++ (line ++ crlf)).drop vtg)
      (before.length + line.length - vtg) := by
    rw [occursAt_drop, Nat.add_sub_of_le (by omega)]
    exact hEnd
  rcases exists_find_of_occurs ⟨_, hRest⟩ with
    ⟨length, hCrlf⟩
  have hLength : (before ++ (line ++ crlf)).length =
      before.length + line.length + 2 := by
    simp [crlf, Nat.add_assoc]
  refine ⟨vtg + length + 2,
    vtgLineEnd_eq_some_iff.mpr
      ⟨vtg, length, hFirst, hCrlf, rfl⟩, ?_⟩
  rw [hLength]
  rcases crlf_before_or_last hLine
      (occursAt_drop.mp (find_occursAt hCrlf)) with
    hBefore | hLast
  · exact Or.inl hBefore
  · exact Or.inr (by omega)

/- Such a text is taken out to its end. -/
theorem rest_vtg_line
    (before : List UInt8)
    (hLine : 10 ∉ line)
    (hVtg : Occurs (ascii "VTG") (line ++ crlf))
    (hFits : (before ++ (line ++ crlf)).length ≤
      nmeaFrameBufferLength) :
    frameSegmenter.rest (before ++ (line ++ crlf)) = [] := by
  generalize hText : before ++ (line ++ crlf) = text at hFits
  induction text using Segmenter.cut_induction
      (S := frameSegmenter) generalizing before with
  | hWait text hCut =>
      subst hText
      rcases exists_vtgLineEnd before
          hLine hVtg with ⟨stop, hEnd, _⟩
      rw [cut_frameSegmenter, frameCut, hEnd] at hCut
      cases hCut
  | hCut text n hCut ih =>
      subst hText
      rcases exists_vtgLineEnd before
          hLine hVtg with ⟨stop, hEnd, hWhere⟩
      have hStop : n = stop := by
        have hLe := frameSegmenter.cut_le hCut
        rw [cut_frameSegmenter, frameCut, hEnd] at hCut
        have hMin : min stop nmeaFrameBufferLength = n :=
          Option.some.inj hCut
        rcases hWhere with hBefore | hLast
        · rw [List.length_append] at hFits
          omega
        · omega
      subst hStop
      rw [Segmenter.rest_of_cut_some hCut]
      rcases hWhere with hBefore | hLast
      · apply ih (before.drop n)
          (List.drop_append_of_le_length hBefore).symm
        rw [List.length_drop]
        omega
      · rw [hLast, List.drop_length]
        exact Segmenter.rest_of_cut_none (by decide)

end Gps

------------------------------------------------------------
-- The End of a Frame
------------------------------------------------------------

namespace Gps

namespace Frame

/- The end of a frame is taken out if it holds a "VTG". -/
theorem rest_drop_eq_nil_iff
    (frame : Frame)
    (k : Nat) :
    frameSegmenter.rest (frame.bytes.drop k) = [] ↔
      frame.bytes.length ≤ k ∨
        Occurs (ascii "VTG") (frame.bytes.drop k) := by
  constructor
  · intro hRest
    by_cases hVtg :
        Occurs (ascii "VTG") (frame.bytes.drop k)
    · exact Or.inr hVtg
    · rw [Segmenter.rest_of_cut_none
        (cut_eq_none_of_no_vtg hVtg)] at hRest
      exact Or.inl (List.drop_eq_nil_iff.mp hRest)
  · intro hEnd
    rcases hEnd with hAll | hVtg
    · rw [List.drop_eq_nil_of_le hAll]
      exact Segmenter.rest_of_cut_none (by decide)
    · have hFits : (frame.bytes.drop k).length ≤
          nmeaFrameBufferLength := by
        have hLe := frame.length_le
        rw [List.length_drop]
        exact (Nat.sub_le _ _).trans hLe
      rw [bytes_eq] at hVtg hFits ⊢
      by_cases hEarlier :
          k ≤ (frame.earlier.flatMap Sentence.bytes).length
      · rw [List.drop_append_of_le_length hEarlier]
          at hFits ⊢
        exact rest_vtg_line _ frame.feed_notMem_line
          ⟨3, frame.vtg_line⟩ hFits
      · -- the end begins inside the last line
        rw [List.drop_append, List.drop_eq_nil_of_le
          (by omega), List.nil_append] at hVtg hFits ⊢
        have hInLine :
            k - (frame.earlier.flatMap
                Sentence.bytes).length ≤
              frame.line.length := by
          rcases hVtg with ⟨i, hAt⟩
          have hLe := hAt.add_length_le (by decide)
          rw [List.length_drop, List.length_append,
            length_vtg,
            length_crlf] at hLe
          omega
        rw [List.drop_append_of_le_length hInLine]
          at hVtg hFits ⊢
        exact rest_vtg_line []
          (fun hMem => frame.feed_notMem_line
            (List.mem_of_mem_drop hMem))
          hVtg hFits

/- Behind its first VTG line a frame is empty or has more. -/
theorem rest_drop_vtgLineEnd
    (frame : Frame) :
    ∃ stop,
      vtgLineEnd frame.bytes = some stop ∧
        0 < stop ∧ stop ≤ frame.bytes.length ∧
        frameSegmenter.rest (frame.bytes.drop stop) = [] := by
  rcases exists_vtgLineEnd
      (frame.earlier.flatMap Sentence.bytes)
      frame.feed_notMem_line ⟨3, frame.vtg_line⟩ with
    ⟨stop, hEnd, hWhere⟩
  rw [← bytes_eq] at hEnd hWhere
  have hPos : 0 < stop := by
    rcases vtgLineEnd_eq_some_iff.mp hEnd with
      ⟨_, _, _, _, rfl⟩
    exact Nat.succ_pos _
  rcases hWhere with hEarlier | hLast
  · refine ⟨stop, hEnd, hPos, ?_, ?_⟩
    · rw [bytes, List.length_append]
      omega
    · rw [rest_drop_eq_nil_iff, bytes_eq,
        List.drop_append_of_le_length hEarlier]
      exact Or.inr
        ⟨_, occursAt_append_right.mpr frame.vtg_line⟩
  · refine ⟨stop, hEnd, hPos, hLast.le, ?_⟩
    rw [rest_drop_eq_nil_iff]
    exact Or.inl hLast.ge

end Frame

end Gps

------------------------------------------------------------
-- Bytes That Are Shown to the Parser
------------------------------------------------------------

namespace Gps

/- Which bytes of a piece its string shows. -/
def shown (piece : List UInt8) : List Bool :=
  List.replicate (text piece).length true ++
    List.replicate (piece.length - (text piece).length) false

/-
  The pieces taken out are the waiting bytes and the frame,
  and every byte of the frame is shown to `GPS_Parse`.
-/
structure HandsOver
    (waiting frame : List UInt8)
    (pieces : List (List UInt8)) : Prop where
  flatten : pieces.flatten = waiting ++ frame
  all_shown : ∀ mark ∈
    (pieces.flatMap shown).drop waiting.length, mark = true

theorem length_shown
    (piece : List UInt8) :
    (shown piece).length = piece.length := by
  have hLe := (text_isPrefix piece).length_le
  simp only [shown, List.length_append, List.length_replicate]
  omega

theorem shown_of_nul_notMem
    {piece : List UInt8}
    (hNul : 0 ∉ piece) :
    shown piece = List.replicate piece.length true := by
  simp [shown, text_of_nul_notMem hNul]

/- A NUL hides what stands behind it in its piece. -/
theorem shown_append_iff
    {waiting frame : List UInt8}
    (hFrame : frame ≠ [])
    (hNul : 0 ∉ frame) :
    (∀ mark ∈ (shown (waiting ++ frame)).drop waiting.length,
      mark = true) ↔
      0 ∉ waiting := by
  constructor
  · intro hShown hMem
    rcases exists_eq_text_append hMem with ⟨rest, hSplit⟩
    have hText :
        text (waiting ++ frame) = text waiting := by
      rw [hSplit, List.append_assoc, List.cons_append,
        text_append_nul (nul_notMem_text _),
        text_append_nul (nul_notMem_text _)]
    have hLess : (text waiting).length < waiting.length := by
      have hLength := congrArg List.length hSplit
      rw [List.length_append, List.length_cons] at hLength
      omega
    have hPos := List.length_pos_of_ne_nil hFrame
    have hFalse : false ∈
        (shown (waiting ++ frame)).drop waiting.length := by
      rw [shown, hText, List.drop_append,
        List.drop_eq_nil_of_le (by
          rw [List.length_replicate]
          omega),
        List.nil_append, List.drop_replicate,
        List.mem_replicate, List.length_append,
        List.length_replicate]
      exact ⟨by omega, rfl⟩
    exact absurd (hShown false hFalse) (by decide)
  · intro hWaiting mark hMark
    have hAll : 0 ∉ waiting ++ frame := by
      intro hMem
      rcases List.mem_append.mp hMem with hMem | hMem
      · exact hWaiting hMem
      · exact hNul hMem
    rw [shown_of_nul_notMem hAll] at hMark
    exact List.eq_of_mem_replicate (List.mem_of_mem_drop hMark)

/- Pieces of a text without a NUL are shown whole. -/
theorem shown_segments
    {live : List UInt8}
    (hNul : 0 ∉ live) :
    ∀ mark ∈
      (frameSegmenter.segments live).flatMap shown,
      mark = true := by
  intro mark hMark
  rcases List.mem_flatMap.mp hMark with
    ⟨piece, hPiece, hMark⟩
  have hClear : 0 ∉ piece := by
    intro hMem
    apply hNul
    rw [← Segmenter.flatten_segments_append_rest
      (S := frameSegmenter) live]
    exact List.mem_append_left _
      (List.mem_flatten.mpr ⟨piece, hPiece, hMem⟩)
  rw [shown_of_nul_notMem hClear] at hMark
  exact List.eq_of_mem_replicate hMark

end Gps

------------------------------------------------------------
-- A Frame Behind Leftover Bytes
------------------------------------------------------------

namespace Gps

/-
  When a frame behind waiting bytes is taken out whole: both
  fit into the buffer, the first clip leaves the line of a
  VTG, and no NUL waits in the piece the frame begins in.
-/
structure Receivable
    (waiting frame : List UInt8) : Prop where
  room : waiting.length + frame.length < dataBufferMaxLength
  line : ∀ stop, vtgLineEnd frame = some stop →
    waiting.length + stop ≤ nmeaFrameBufferLength ∨
      Occurs (ascii "VTG")
        ((waiting ++ frame).drop nmeaFrameBufferLength)
  clear : 0 ∉ waiting.drop
    (waiting.length / nmeaFrameBufferLength *
      nmeaFrameBufferLength)

/- What the frame loop does to waiting bytes and a frame. -/
structure TakenWhole
    (waiting frame : List UInt8) : Prop where
  rest : frameSegmenter.rest (waiting ++ frame) = []
  handsOver : HandsOver waiting frame
    (frameSegmenter.segments (waiting ++ frame))

variable {waiting : List UInt8}

/- The marks of the frame, when the first piece holds a part. -/
theorem all_shown_first_piece_iff
    (waiting : List UInt8)
    (frame : Frame)
    {k : Nat}
    (hPos : 0 < k)
    (hLe : k ≤ frame.bytes.length) :
    (∀ mark ∈ ((shown (waiting ++ frame.bytes.take k) ++
        (frameSegmenter.segments
          (frame.bytes.drop k)).flatMap shown).drop
            waiting.length), mark = true) ↔
      0 ∉ waiting := by
  have hPart : frame.bytes.take k ≠ [] := by
    intro hNil
    have hLength := congrArg List.length hNil
    rw [List.length_take, List.length_nil] at hLength
    omega
  have hNul : 0 ∉ frame.bytes.take k := fun hMem =>
    frame.nul_notMem_bytes (List.mem_of_mem_take hMem)
  have hLater : 0 ∉ frame.bytes.drop k := fun hMem =>
    frame.nul_notMem_bytes (List.mem_of_mem_drop hMem)
  have hLength : waiting.length ≤
      (shown (waiting ++ frame.bytes.take k)).length := by
    rw [length_shown, List.length_append]
    exact Nat.le_add_right _ _
  rw [List.drop_append_of_le_length hLength,
    ← shown_append_iff hPart hNul]
  constructor
  · intro hAll mark hMark
    exact hAll mark (List.mem_append_left _ hMark)
  · intro hFirst mark hMark
    rcases List.mem_append.mp hMark with hMark | hMark
    · exact hFirst mark hMark
    · exact shown_segments hLater mark hMark

/- The first cut is made in the first VTG line, or before. -/
theorem cut_waiting_append
    (frame : Frame)
    (hVtg : ¬ Occurs (ascii "VTG") waiting)
    {stop : Nat}
    (hEnd : vtgLineEnd frame.bytes = some stop) :
    frameSegmenter.cut (waiting ++ frame.bytes) =
      some (min (waiting.length + stop)
        nmeaFrameBufferLength) := by
  rw [cut_frameSegmenter, frameCut,
    vtgLineEnd_append hVtg frame.head?_bytes, hEnd]
  rfl

/- What is behind a first piece with `k` bytes of a frame. -/
theorem split_first_piece
    {frame : List UInt8}
    {k : Nat}
    (hCut : frameSegmenter.cut (waiting ++ frame) =
      some (waiting.length + k)) :
    frameSegmenter.rest (waiting ++ frame) =
        frameSegmenter.rest (frame.drop k) ∧
      frameSegmenter.segments (waiting ++ frame) =
        (waiting ++ frame.take k) ::
          frameSegmenter.segments (frame.drop k) := by
  have hTake : (waiting ++ frame).take (waiting.length + k) =
      waiting ++ frame.take k :=
    List.take_length_add_append k
  have hDrop : (waiting ++ frame).drop (waiting.length + k) =
      frame.drop k :=
    List.drop_length_add_append k
  constructor
  · rw [Segmenter.rest_of_cut_some hCut, hDrop]
  · rw [Segmenter.segments_of_cut_some hCut, hTake, hDrop]

/- When nothing of the frame stays behind its first piece. -/
theorem rest_first_piece_iff
    (frame : Frame)
    {stop k : Nat}
    (hStop : stop ≤ frame.bytes.length)
    (hBehind :
      frameSegmenter.rest (frame.bytes.drop stop) = [])
    (hk : min (waiting.length + stop) nmeaFrameBufferLength =
      waiting.length + k) :
    frameSegmenter.rest (frame.bytes.drop k) = [] ↔
      waiting.length + stop ≤ nmeaFrameBufferLength ∨
        Occurs (ascii "VTG") ((waiting ++ frame.bytes).drop
          nmeaFrameBufferLength) := by
  by_cases hWhole :
      waiting.length + stop ≤ nmeaFrameBufferLength
  · have hkStop : k = stop := by omega
    rw [hkStop]
    exact iff_of_true hBehind (Or.inl hWhole)
  · have hClip :
        waiting.length + k = nmeaFrameBufferLength := by
      omega
    rw [frame.rest_drop_eq_nil_iff, ← hClip,
      List.drop_length_add_append]
    constructor
    · intro hLeft
      exact Or.inr (hLeft.resolve_left (by omega))
    · intro hRight
      exact Or.inr (hRight.resolve_left (by omega))

/- The frame begins in the first piece. -/
theorem takenWhole_iff_of_short
    (frame : Frame)
    (hVtg : ¬ Occurs (ascii "VTG") waiting)
    (hShort : waiting.length < nmeaFrameBufferLength) :
    TakenWhole waiting frame.bytes ↔
      (∀ stop, vtgLineEnd frame.bytes = some stop →
        waiting.length + stop ≤ nmeaFrameBufferLength ∨
          Occurs (ascii "VTG") ((waiting ++ frame.bytes).drop
            nmeaFrameBufferLength)) ∧
      0 ∉ waiting := by
  rcases frame.rest_drop_vtgLineEnd with
    ⟨stop, hEnd, hPos, hStop, hBehind⟩
  have hCut := cut_waiting_append frame hVtg hEnd
  -- the first piece holds `k` bytes of the frame
  have hReaches : waiting.length ≤
      min (waiting.length + stop) nmeaFrameBufferLength := by
    omega
  rcases Nat.exists_eq_add_of_le hReaches with ⟨k, hk⟩
  rw [hk] at hCut
  rcases split_first_piece hCut with ⟨hRest, hSegments⟩
  have hLine := rest_first_piece_iff frame hStop hBehind hk
  have hSome : 0 < k := by omega
  have hMarks := all_shown_first_piece_iff waiting frame
    hSome (by omega)
  constructor
  · intro hTaken
    refine ⟨?_, ?_⟩
    · intro stop' hEnd'
      cases hEnd.symm.trans hEnd'
      exact hLine.mp (hRest.symm.trans hTaken.rest)
    · have hAll := hTaken.handsOver.all_shown
      rw [hSegments, List.flatMap_cons] at hAll
      exact hMarks.mp hAll
  · intro hBoth
    have hNil :
        frameSegmenter.rest (waiting ++ frame.bytes) = [] :=
      hRest.trans (hLine.mpr (hBoth.1 stop hEnd))
    have hFlatten := Segmenter.flatten_segments_append_rest
      (S := frameSegmenter) (waiting ++ frame.bytes)
    rw [hNil, List.append_nil] at hFlatten
    exact
      { rest := hNil
        handsOver :=
          { flatten := hFlatten
            all_shown := by
              rw [hSegments, List.flatMap_cons]
              exact hMarks.mpr hBoth.2 } }

/- A whole clip of waiting bytes is a piece of its own. -/
theorem split_whole_clip
    (frame : Frame)
    (hVtg : ¬ Occurs (ascii "VTG") waiting)
    (hLong : nmeaFrameBufferLength ≤ waiting.length) :
    frameSegmenter.rest (waiting ++ frame.bytes) =
        frameSegmenter.rest
          (waiting.drop nmeaFrameBufferLength ++
            frame.bytes) ∧
      frameSegmenter.segments (waiting ++ frame.bytes) =
        waiting.take nmeaFrameBufferLength ::
          frameSegmenter.segments
            (waiting.drop nmeaFrameBufferLength ++
              frame.bytes) := by
  rcases frame.rest_drop_vtgLineEnd with ⟨stop, hEnd, _⟩
  have hCut := cut_waiting_append frame hVtg hEnd
  have hMin : min (waiting.length + stop)
      nmeaFrameBufferLength = nmeaFrameBufferLength :=
    min_eq_right (by omega)
  rw [hMin] at hCut
  have hDrop :
      (waiting ++ frame.bytes).drop nmeaFrameBufferLength =
        waiting.drop nmeaFrameBufferLength ++ frame.bytes :=
    List.drop_append_of_le_length hLong
  constructor
  · rw [Segmenter.rest_of_cut_some hCut, hDrop]
  · rw [Segmenter.segments_of_cut_some hCut, hDrop,
      List.take_append_of_le_length hLong]

/- Waiting bytes of a whole clip are taken out before. -/
theorem takenWhole_iff_drop
    (frame : Frame)
    (hVtg : ¬ Occurs (ascii "VTG") waiting)
    (hLong : nmeaFrameBufferLength ≤ waiting.length) :
    TakenWhole waiting frame.bytes ↔
      TakenWhole (waiting.drop nmeaFrameBufferLength)
        frame.bytes := by
  rcases split_whole_clip frame hVtg hLong with
    ⟨hRest, hSegments⟩
  have hFlatten (pieces : List (List UInt8)) :
      (waiting.take nmeaFrameBufferLength ::
          pieces).flatten = waiting ++ frame.bytes ↔
        pieces.flatten =
          waiting.drop nmeaFrameBufferLength ++
            frame.bytes := by
    have hSplit := List.take_append_drop
      nmeaFrameBufferLength waiting
    rw [List.flatten_cons]
    conv_lhs => rhs; rw [← hSplit]
    rw [List.append_assoc, List.append_cancel_left_eq]
  have hMarks (pieces : List (List UInt8)) :
      ((waiting.take nmeaFrameBufferLength ::
          pieces).flatMap shown).drop waiting.length =
        (pieces.flatMap shown).drop
          (waiting.drop nmeaFrameBufferLength).length := by
    rw [List.flatMap_cons, List.drop_append,
      List.drop_eq_nil_of_le, List.nil_append, length_shown,
      List.length_take, List.length_drop,
      min_eq_left hLong]
    rw [length_shown, List.length_take]
    exact min_le_right _ _
  constructor
  · intro hTaken
    rcases hTaken with ⟨hNil, hFlat, hAll⟩
    rw [hSegments] at hFlat hAll
    exact ⟨hRest.symm.trans hNil, (hFlatten _).mp hFlat,
      hMarks _ ▸ hAll⟩
  · intro hTaken
    rcases hTaken with ⟨hNil, hFlat, hAll⟩
    refine ⟨hRest.trans hNil, ?_, ?_⟩
    · rw [hSegments]
      exact (hFlatten _).mpr hFlat
    · rw [hSegments, hMarks]
      exact hAll

/- With room in the buffer, whole means receivable. -/
theorem takenWhole_iff_receivable
    (frame : Frame)
    (hVtg : ¬ Occurs (ascii "VTG") waiting)
    (hRoom : waiting.length + frame.bytes.length <
      dataBufferMaxLength) :
    TakenWhole waiting frame.bytes ↔
      Receivable waiting frame.bytes := by
  have hTwice :
      dataBufferMaxLength = 2 * nmeaFrameBufferLength := rfl
  by_cases hShort : waiting.length < nmeaFrameBufferLength
  · have hDrop : waiting.drop
        (waiting.length / nmeaFrameBufferLength *
          nmeaFrameBufferLength) = waiting := by
      rw [Nat.div_eq_of_lt hShort, Nat.zero_mul,
        List.drop_zero]
    rw [takenWhole_iff_of_short frame hVtg hShort]
    constructor
    · intro hBoth
      exact ⟨hRoom, hBoth.1, hDrop.symm ▸ hBoth.2⟩
    · intro hReceivable
      exact ⟨hReceivable.line, hDrop ▸ hReceivable.clear⟩
  · have hLong : nmeaFrameBufferLength ≤ waiting.length :=
      Nat.le_of_not_lt hShort
    have hDrop : waiting.drop
        (waiting.length / nmeaFrameBufferLength *
          nmeaFrameBufferLength) =
        waiting.drop nmeaFrameBufferLength := by
      have hOne : waiting.length / nmeaFrameBufferLength =
          1 := by
        apply Nat.div_eq_of_lt_le
        · omega
        · omega
      rw [hOne, Nat.one_mul]
    have hVtgLater : ¬ Occurs (ascii "VTG")
        (waiting.drop nmeaFrameBufferLength) := by
      intro hOccurs
      rcases hOccurs with ⟨i, hAt⟩
      exact hVtg ⟨_, occursAt_drop.mp hAt⟩
    have hLater :
        (waiting.drop nmeaFrameBufferLength).length <
          nmeaFrameBufferLength := by
      rw [List.length_drop]
      omega
    have hClipped : Occurs (ascii "VTG")
        ((waiting ++ frame.bytes).drop
          nmeaFrameBufferLength) := by
      rw [List.drop_append_of_le_length hLong]
      rcases frame.occurs_vtg with ⟨i, hAt⟩
      exact ⟨_, occursAt_append_right.mpr hAt⟩
    rw [takenWhole_iff_drop frame hVtg hLong,
      takenWhole_iff_of_short frame hVtgLater hLater]
    constructor
    · intro hBoth
      exact ⟨hRoom, fun _ _ => Or.inr hClipped,
        hDrop.symm ▸ hBoth.2⟩
    · intro hReceivable
      refine ⟨?_, hDrop ▸ hReceivable.clear⟩
      intro stop hEnd
      rcases frame.rest_drop_vtgLineEnd with
        ⟨stop', hEnd', _, hLe, _⟩
      cases hEnd.symm.trans hEnd'
      apply Or.inl
      rw [List.length_drop]
      omega

end Gps

------------------------------------------------------------
-- The Next Call
------------------------------------------------------------

namespace Gps

namespace Frame

theorem length_bytes_gt
    (frame : Frame) :
    7 < frame.bytes.length := by
  have hLine := frame.length_line
  rw [bytes_eq, List.length_append, List.length_append,
    length_crlf]
  omega

theorem received_bytes
    (frame : Frame)
    (live : List UInt8) :
    received live frame.bytes =
      if live.length + frame.bytes.length <
          dataBufferMaxLength then
        live ++ frame.bytes
      else
        live := by
  have hLe : frame.bytes.length ≤ nmeaFrameBufferLength :=
    frame.length_le
  have hLength : u16 frame.bytes.length =
      frame.bytes.length :=
    wrap_natCast_of_lt (hLe.trans_lt (by decide))
  rw [received, hLength, List.take_length]

end Frame

/- A call on a frame that has no room changes nothing. -/
theorem updates_of_no_room
    {s : State}
    (hIdle : s.semCmdSending = false)
    (hVtg : ¬ Occurs (ascii "VTG") s.live)
    (frame : Frame)
    (hFull : ¬ s.live.length + frame.bytes.length <
      dataBufferMaxLength)
    {malloc : Bool}
    {result : UpdateState}
    (hUpdates : Updates malloc s frame.bytes result) :
    result.parsed = [] ∧ result.gps.live = s.live := by
  rcases extracted_of_updates hIdle hUpdates with
    ⟨hExtracted, _⟩
  have hLive : (updateStart s frame.bytes).gps.live =
      s.live := by
    rw [live_updateStart, frame.received_bytes, if_neg hFull]
  have hCut := cut_eq_none_of_no_vtg hVtg
  constructor
  · rw [hExtracted.parsed, hLive,
      Segmenter.segments_of_cut_none hCut]
    rfl
  · rw [hExtracted.live, hLive,
      Segmenter.rest_of_cut_none hCut]

/-
  After any calls that returned, the next call hands a frame
  over whole and empties the buffer exactly when the frame
  is receivable behind what waits there.
-/
theorem update_takes_frame_iff_receivable
    {chunks : List (List UInt8)}
    {results : List UpdateState}
    {s : State}
    (hRun : Delivers boot chunks results s)
    (malloc : Bool)
    (frame : Frame) :
    (∃ result,
      Updates malloc s frame.bytes result ∧
        HandsOver s.live frame.bytes result.parsed ∧
        result.gps.live = []) ↔
      Receivable s.live frame.bytes := by
  have hIdle := idle_of_delivers hRun rfl
  have hVtg := no_vtg_of_delivers hRun no_vtg_boot
  by_cases hRoom : s.live.length + frame.bytes.length <
      dataBufferMaxLength
  · have hLive : (updateStart s frame.bytes).gps.live =
        s.live ++ frame.bytes := by
      rw [live_updateStart, frame.received_bytes,
        if_pos hRoom]
    rw [← takenWhole_iff_receivable frame hVtg hRoom]
    constructor
    · intro hTaken
      rcases hTaken with
        ⟨result, hUpdates, hHandsOver, hEmpty⟩
      rcases extracted_of_updates hIdle hUpdates with
        ⟨hExtracted, _⟩
      rw [hExtracted.live, hLive] at hEmpty
      rw [hExtracted.parsed, hLive] at hHandsOver
      exact ⟨hEmpty, hHandsOver⟩
    · intro hTaken
      have hRest : ¬ Occurs (ascii "VTG")
          (frameSegmenter.rest
            (updateStart s frame.bytes).gps.live) := by
        rw [hLive, hTaken.rest, ← find_eq_none_iff]
        decide
      rcases returns_updateBody hRest with
        ⟨result, hReturns, hExtracted⟩
      refine ⟨result,
        (updates_iff_returns hIdle).mpr hReturns, ?_, ?_⟩
      · rw [hExtracted.parsed, hLive]
        exact hTaken.handsOver
      · rw [hExtracted.live, hLive]
        exact hTaken.rest
  · constructor
    · intro hTaken
      rcases hTaken with
        ⟨result, hUpdates, hHandsOver, _⟩
      have hKept :=
        updates_of_no_room hIdle hVtg frame hRoom hUpdates
      have hFlatten := hHandsOver.flatten
      rw [hKept.1] at hFlatten
      have hLength := congrArg List.length hFlatten
      have hFrame := frame.length_bytes_gt
      rw [List.length_append, List.flatten_nil,
        List.length_nil] at hLength
      omega
    · intro hReceivable
      exact absurd hReceivable.room hRoom

/- "$GPVTG\r\n" -/
def vtgFrame : Frame :=
  { earlier := []
    last := ⟨ascii "GPVTG", by decide⟩
    vtg := by decide
    length_le := by decide }

/- A frame, and the beginning of a line that waits behind it. -/
theorem deliverable_waiting :
    Deliverable boot.live [ascii "$GPVTG\r\n$GPT"] := by
  rw [live_boot]
  refine ⟨by decide, ?_, trivial⟩
  rw [vtgTerminated_iff_rest,
    Segmenter.rest_of_cut_some (n := 8) (by decide),
    Segmenter.rest_of_cut_none (by decide),
    ← find_eq_none_iff]
  decide

/- A frame that arrives behind the beginning of a line. -/
theorem update_takes_frame_iff_receivable_waiting :
    ∃ results s,
      Delivers boot [ascii "$GPVTG\r\n$GPT"] results s ∧
        s.live = ascii "$GPT" ∧
        ∃ result,
          Updates false s vtgFrame.bytes result ∧
            HandsOver s.live vtgFrame.bytes result.parsed ∧
            result.gps.live = [] := by
  rcases exists_delivers rfl deliverable_waiting with
    ⟨results, s, hRun, hAccepted⟩
  have hDelivered := delivered_of_delivers hRun hAccepted
    (fun hNil => absurd hNil (List.cons_ne_nil _ _))
  have hStream : [ascii "$GPVTG\r\n$GPT"].map offered =
      [ascii "$GPVTG\r\n$GPT"] := by
    decide
  have hLive : s.live = ascii "$GPT" := by
    rw [hDelivered.live, live_boot, hStream,
      List.flatten_singleton, List.nil_append,
      Segmenter.rest_of_cut_some (n := 8) (by decide),
      Segmenter.rest_of_cut_none (by decide)]
    decide
  refine ⟨results, s, hRun, hLive, ?_⟩
  rw [update_takes_frame_iff_receivable hRun, hLive]
  refine ⟨by decide, ?_, by decide⟩
  intro stop hEnd
  rw [show vtgLineEnd vtgFrame.bytes = some 8 by decide]
    at hEnd
  cases hEnd
  exact Or.inl (by decide)

/-
  2045 bytes of noise leave no room for any frame, now and
  after every further call.
-/
theorem noise_refuses_every_frame :
    ∃ results s,
      Delivers boot [List.replicate 2045 (byte 'x')]
          results s ∧
        ∀ (frame : Frame) (malloc : Bool)
          (result : UpdateState),
          Updates malloc s frame.bytes result →
            result.parsed = [] ∧ result.gps.live = s.live := by
  have hNoise := not_occurs_vtg_noise 2045
  have hCut := cut_eq_none_of_no_vtg hNoise
  have hShort : Short [List.replicate 2045 (byte 'x')] := by
    intro chunk hMem
    rw [List.mem_singleton.mp hMem, List.length_replicate]
    decide
  have hChunks : Deliverable boot.live
      [List.replicate 2045 (byte 'x')] := by
    rw [live_boot]
    refine ⟨?_, ?_, trivial⟩
    · rw [List.nil_append, List.length_replicate]
      decide
    · rw [List.nil_append, vtgTerminated_iff_rest,
        Segmenter.rest_of_cut_none hCut]
      exact hNoise
  rcases exists_delivers rfl hChunks with
    ⟨results, s, hRun, hAccepted⟩
  have hDelivered := delivered_of_delivers hRun hAccepted
    (fun hNil => absurd hNil (List.cons_ne_nil _ _))
  have hLive : s.live = List.replicate 2045 (byte 'x') := by
    rw [hDelivered.live, live_boot, flatten_offered hShort,
      List.flatten_singleton, List.nil_append,
      Segmenter.rest_of_cut_none hCut]
  refine ⟨results, s, hRun, ?_⟩
  intro frame malloc result hUpdates
  apply updates_of_no_room (idle_of_delivers hRun rfl)
    (no_vtg_of_delivers hRun no_vtg_boot) frame _ hUpdates
  have hFrame := frame.length_bytes_gt
  rw [hLive, List.length_replicate]
  unfold dataBufferMaxLength
  omega

end Gps
