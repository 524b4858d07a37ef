import GpsTracker.Gps.Delivery

/-
  What the 1024-byte limit of a frame does to sentences.

  A frame that ends behind its VTG line ends behind a
  sentence. A frame that is clipped may end inside one; and
  a NUL byte hides the rest of its frame, since the frame is
  parsed as a string.

  Main declarations:
    * `Gps.WholeAt`, `Gps.Spared`
    * `Gps.sentence_whole_iff_spared`
-/

open CString Machine ListSearch

------------------------------------------------------------
-- Whole Sentences
------------------------------------------------------------

namespace Gps

/-
  The bytes at an offset of the frames taken out stand whole
  in the string of the frame that their first byte is in.
-/
def WholeAt
    (bytes : List UInt8) :
    Nat → List (List UInt8) → Prop
| _, [] => False
| offset, frame :: frames =>
    if offset < frame.length then
      OccursAt bytes (text frame) offset
    else
      WholeAt bytes (offset - frame.length) frames

/-
  The frame that the byte at an offset is in was not clipped
  within the next `length` bytes, and no NUL stands before
  the byte in this frame.
-/
def Spared
    (length : Nat) :
    Nat → List (List UInt8) → Prop
| _, [] => False
| offset, frame :: frames =>
    if offset < frame.length then
      (frame.length = nmeaFrameBufferLength →
        offset + length ≤ frame.length) ∧
      0 ∉ frame.take offset
    else
      Spared length (offset - frame.length) frames

/- Only a clipped frame does not end in "\r\n". -/
theorem crlf_of_frameCut
    {live : List UInt8}
    {n : Nat}
    (hCut : frameSegmenter.cut live = some n)
    (hClip : n ≠ nmeaFrameBufferLength) :
    ∃ stop, n = stop + 2 ∧ OccursAt crlf live stop := by
  rcases frameCut_eq_some_iff.mp hCut with
    ⟨vtg, length, _, hCrlf, hn⟩
  refine ⟨vtg + length, ?_,
    occursAt_drop.mp (find_occursAt hCrlf)⟩
  rcases min_choice (vtg + length + 2)
      nmeaFrameBufferLength with hMin | hMin
  · exact hn.trans hMin
  · exact absurd (hn.trans hMin) hClip

end Gps

------------------------------------------------------------
-- Frames and Sentences
------------------------------------------------------------

namespace Gps

/- A sentence in the first frame of the live bytes. -/
theorem occursAt_frame_iff
    {live : List UInt8}
    {n offset : Nat}
    (sentence : Sentence)
    (hCut : frameSegmenter.cut live = some n)
    (hAt : OccursAt sentence.bytes live offset)
    (hFrame : offset < n) :
    OccursAt sentence.bytes (text (live.take n)) offset ↔
      (n = nmeaFrameBufferLength →
        offset + sentence.bytes.length ≤ n) ∧
      0 ∉ (live.take n).take offset := by
  have hLe := frameSegmenter.cut_le hCut
  have hTake : (live.take n).length = n := by
    rw [List.length_take]
    omega
  have hInside (hFits : offset + sentence.bytes.length ≤ n) :
      OccursAt sentence.bytes (live.take n) offset := by
    rw [← List.take_append_drop n live,
      occursAt_append_iff_of_fits (by omega)] at hAt
    exact hAt
  constructor
  · intro hText
    have hFits := hText.add_length_le sentence.bytes_ne_nil
    have hString := (text_isPrefix (live.take n)).length_le
    have hEnd : offset + sentence.bytes.length ≤ n := by
      omega
    exact ⟨fun _ => hEnd,
      (occursAt_text_iff sentence.bytes_ne_nil
        sentence.nul_notMem_bytes (hInside hEnd)).mp hText⟩
  · intro hSpared
    rcases hSpared with ⟨hClip, hNul⟩
    have hEnd : offset + sentence.bytes.length ≤ n := by
      by_cases hLimit : n = nmeaFrameBufferLength
      · exact hClip hLimit
      · -- the frame ends in a "\r\n", and so behind one
        rcases crlf_of_frameCut hCut hLimit with
          ⟨stop, rfl, hCrlf⟩
        exact sentence.length_le_of_crlf hAt hCrlf hFrame
    exact (occursAt_text_iff sentence.bytes_ne_nil
      sentence.nul_notMem_bytes (hInside hEnd)).mpr hNul

/- A sentence in the frames of the live bytes. -/
theorem wholeAt_segments_iff
    (sentence : Sentence)
    {live : List UInt8}
    {offset : Nat}
    (hAt : OccursAt sentence.bytes
      (frameSegmenter.segments live).flatten offset) :
    WholeAt sentence.bytes offset
        (frameSegmenter.segments live) ↔
      Spared sentence.bytes.length offset
        (frameSegmenter.segments live) := by
  induction live using Segmenter.cut_induction
      (S := frameSegmenter) generalizing offset with
  | hWait live hCut =>
      rw [Segmenter.segments_of_cut_none hCut]
      exact Iff.rfl
  | hCut live n hCut ih =>
      have hLe := frameSegmenter.cut_le hCut
      have hTake : (live.take n).length = n := by
        rw [List.length_take]
        omega
      have hLive := occursAt_append_of_occursAt
        (frameSegmenter.rest live) hAt
      rw [Segmenter.flatten_segments_append_rest] at hLive
      rw [Segmenter.segments_of_cut_some hCut] at hAt ⊢
      rw [WholeAt, Spared, hTake]
      by_cases hFrame : offset < n
      · rw [if_pos hFrame, if_pos hFrame]
        exact occursAt_frame_iff sentence hCut hLive hFrame
      · rw [if_neg hFrame, if_neg hFrame]
        apply ih
        rw [List.flatten_cons,
          show offset = (live.take n).length + (offset - n) by
            omega,
          occursAt_append_right] at hAt
        exact hAt

/-
  A sentence of the bytes that a run has taken out is in one
  of the strings parsed exactly when its frame was not
  clipped inside it and holds no NUL before it.
-/
theorem sentence_whole_iff_spared
    {s last : State}
    {chunks : List (List UInt8)}
    {results : List UpdateState}
    (hRun : Delivers s chunks results last)
    (hAccepted : Accepted results)
    (sentence : Sentence)
    {offset : Nat}
    (hAt : OccursAt sentence.bytes
      (parsedBy results).flatten offset) :
    WholeAt sentence.bytes offset (parsedBy results) ↔
      Spared sentence.bytes.length offset
        (frameSegmenter.segments
          (s.live ++ (chunks.map offered).flatten)) := by
  have hCalls :
      chunks = [] → frameSegmenter.cut s.live = none := by
    intro hNil
    subst hNil
    cases hRun
    have hFits := hAt.add_length_le sentence.bytes_ne_nil
    have hPos := List.length_pos_of_ne_nil
      sentence.bytes_ne_nil
    simp only [parsedBy, List.flatMap_nil, List.flatten_nil,
      List.length_nil] at hFits
    omega
  have hDelivered := delivered_of_delivers hRun hAccepted
    hCalls
  rw [hDelivered.parsed] at hAt ⊢
  exact wholeAt_segments_iff sentence hAt

/- The VTG sentence that is a stream of its own. -/
theorem sentence_whole_iff_spared_vtg_line :
    ∃ results last,
      Delivers boot [ascii "$GPVTG\r\n"] results last ∧
        ∃ sentence : Sentence,
          OccursAt sentence.bytes
              (parsedBy results).flatten 0 ∧
            (WholeAt sentence.bytes 0 (parsedBy results) ↔
              Spared sentence.bytes.length 0
                (frameSegmenter.segments
                  (boot.live ++ ([ascii "$GPVTG\r\n"].map
                    offered).flatten))) := by
  rcases exists_delivers rfl deliverable_vtg_line with
    ⟨results, last, hRun, hAccepted⟩
  have hDelivered :=
    delivered_of_delivers hRun hAccepted (by simp)
  have hOffered : ([ascii "$GPVTG\r\n"].map offered).flatten =
      ascii "$GPVTG\r\n" := by
    decide
  have hAt : OccursAt (ascii "$GPVTG\r\n")
      (parsedBy results).flatten 0 := by
    rw [hDelivered.parsed, live_boot, hOffered,
      List.nil_append,
      Segmenter.segments_of_cut_some (n := 8) (by decide),
      Segmenter.segments_of_cut_none (by decide)]
    decide
  exact ⟨results, last, hRun,
    ⟨ascii "GPVTG", by decide⟩, hAt,
    sentence_whole_iff_spared hRun hAccepted
      ⟨ascii "GPVTG", by decide⟩ hAt⟩

end Gps

------------------------------------------------------------
-- A Clipped Sentence
------------------------------------------------------------

namespace Gps

/- "$GPRMC,A\r\n" -/
def rmcSentence : Sentence :=
  { body := ascii "GPRMC,A"
    clear := by decide }

/- Noise in front of a frame of two sentences. -/
def noisyFrame (noise : Nat) : List UInt8 :=
  List.replicate noise (byte 'x') ++
    (rmcSentence.bytes ++ ascii "$GPVTG\r\n")

theorem cut_noisyFrame :
    frameSegmenter.cut (noisyFrame 1020) = some 1024 := by
  have hEnd := vtgLineEnd_append (not_occurs_vtg_noise 1020)
    (show (rmcSentence.bytes ++ ascii "$GPVTG\r\n").head? =
      some (byte '$') from rfl)
  rw [show vtgLineEnd (rmcSentence.bytes ++
      ascii "$GPVTG\r\n") = some 18 by decide,
    List.length_replicate] at hEnd
  rw [cut_frameSegmenter, frameCut, noisyFrame, hEnd]
  rfl

theorem take_noisyFrame :
    (noisyFrame 1020).take 1024 =
      List.replicate 1020 (byte 'x') ++ ascii "$GPR" := by
  have hTake :
      (noisyFrame 1020).take
          ((List.replicate 1020 (byte 'x')).length + 4) =
        List.replicate 1020 (byte 'x') ++ ascii "$GPR" :=
    List.take_length_add_append 4
  rw [List.length_replicate] at hTake
  exact hTake

theorem drop_noisyFrame :
    (noisyFrame 1020).drop 1024 =
      ascii "MC,A\r\n$GPVTG\r\n" := by
  have hDrop :
      (noisyFrame 1020).drop
          ((List.replicate 1020 (byte 'x')).length + 4) =
        ascii "MC,A\r\n$GPVTG\r\n" :=
    List.drop_length_add_append 4
  rw [List.length_replicate] at hDrop
  exact hDrop

theorem segments_noisyFrame :
    frameSegmenter.segments (noisyFrame 1020) =
      [List.replicate 1020 (byte 'x') ++ ascii "$GPR",
        ascii "MC,A\r\n$GPVTG\r\n"] := by
  rw [Segmenter.segments_of_cut_some cut_noisyFrame,
    take_noisyFrame, drop_noisyFrame,
    Segmenter.segments_of_cut_some (n := 14) (by decide),
    Segmenter.segments_of_cut_none (by decide)]
  rfl

theorem rest_noisyFrame :
    frameSegmenter.rest (noisyFrame 1020) = [] := by
  rw [Segmenter.rest_of_cut_some cut_noisyFrame,
    drop_noisyFrame,
    Segmenter.rest_of_cut_some (n := 14) (by decide),
    Segmenter.rest_of_cut_none (by decide)]
  rfl

/- The clip tears the RMC sentence of the stream in two. -/
theorem clip_tears_sentence :
    ∃ results last,
      Delivers boot [noisyFrame 1020] results last ∧
        Short [noisyFrame 1020] ∧
        Accepted results ∧
        OccursAt rmcSentence.bytes
          (parsedBy results).flatten 1020 ∧
        ∀ frame ∈ parsedBy results,
          ¬ Occurs rmcSentence.bytes (text frame) := by
  have hLength : (noisyFrame 1020).length = 1038 := by
    rw [noisyFrame, List.length_append, List.length_replicate]
    rfl
  have hShort : Short [noisyFrame 1020] := by
    intro chunk hMem
    rw [List.mem_singleton.mp hMem, hLength]
    decide
  have hChunks : Deliverable boot.live [noisyFrame 1020] := by
    rw [live_boot]
    refine ⟨?_, ?_, trivial⟩
    · rw [List.nil_append, hLength]
      decide
    · rw [List.nil_append, vtgTerminated_iff_rest,
        rest_noisyFrame, ← find_eq_none_iff]
      decide
  rcases exists_delivers rfl hChunks with
    ⟨results, last, hRun, hAccepted⟩
  have hDelivered :=
    delivered_of_delivers hRun hAccepted (by simp)
  have hParsed := hDelivered.parsed
  rw [flatten_offered hShort, live_boot,
    List.flatten_singleton, List.nil_append,
    segments_noisyFrame] at hParsed
  have hNoise : 0 ∉ List.replicate 1020 (byte 'x') := by
    intro hMem
    exact absurd (List.eq_of_mem_replicate hMem) (by decide)
  have hDollar :
      byte '$' ∉ List.replicate 1020 (byte 'x') := by
    intro hMem
    exact absurd (List.eq_of_mem_replicate hMem) (by decide)
  refine ⟨results, last, hRun, hShort, hAccepted, ?_, ?_⟩
  · have hAll := Segmenter.flatten_segments_append_rest
      (S := frameSegmenter) (noisyFrame 1020)
    rw [segments_noisyFrame, ← hParsed, rest_noisyFrame,
      List.append_nil] at hAll
    have hAt : OccursAt rmcSentence.bytes (noisyFrame 1020)
        ((List.replicate 1020 (byte 'x')).length + 0) :=
      occursAt_append_right.mpr (List.prefix_append _ _)
    rw [List.length_replicate, Nat.add_zero] at hAt
    rw [hAll]
    exact hAt
  · intro frame hMem
    rw [hParsed] at hMem
    rw [← find_eq_none_iff]
    rcases List.mem_cons.mp hMem with rfl | hMem
    · rw [text_append hNoise]
      have hFind : find rmcSentence.bytes
          (List.replicate 1020 (byte 'x') ++
            text (ascii "$GPR")) =
          (find rmcSentence.bytes (text (ascii "$GPR"))).map
            (_ + ·) :=
        find_append_of_head_notMem hDollar
      rw [hFind]
      rfl
    · rw [List.mem_singleton.mp hMem]
      decide

end Gps
