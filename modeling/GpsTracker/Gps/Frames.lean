import GpsTracker.Gps.ParseCalls
import GpsTracker.Gps.Update
import GpsTracker.Lib.Segmenter
import GpsTracker.Utils.BufferQuery

/-
  The frame loop of `GPS_Update` on the queue.

  On the live bytes the loop is a segmenter: it cuts through
  the first "\r\n" behind the first "VTG", but at most 1024
  bytes at a time, until no "VTG" is left. Where a "VTG" is
  left without a "\r\n" behind it, the loop never ends.

  Main declarations:
    * `Gps.frameCut`, `Gps.frameSegmenter`
    * `Gps.parseFrame`
    * `Gps.returns_updateBody`
    * `Gps.update_returns_iff_vtgTerminated`
-/

open CString Machine ListSearch

------------------------------------------------------------
-- Frames as Segments
------------------------------------------------------------

namespace Gps

/- Where the line of the first "VTG" ends. -/
def vtgLineEnd (live : List UInt8) : Option Nat :=
  match find (ascii "VTG") live with
  | none => none
  | some vtg =>
      match find crlf (live.drop vtg) with
      | none => none
      | some length => some (vtg + length + 2)

/- How many of the live bytes form the next frame. -/
def frameCut (live : List UInt8) : Option Nat :=
  (vtgLineEnd live).map (min · nmeaFrameBufferLength)

theorem vtgLineEnd_eq_some_iff
    {live : List UInt8}
    {n : Nat} :
    vtgLineEnd live = some n ↔
      ∃ vtg length,
        find (ascii "VTG") live = some vtg ∧
          find crlf (live.drop vtg) = some length ∧
          n = vtg + length + 2 := by
  constructor
  · intro hEnd
    unfold vtgLineEnd at hEnd
    split at hEnd
    · cases hEnd
    · next vtg hVtg =>
        split at hEnd
        · cases hEnd
        · next length hCrlf =>
            cases hEnd
            exact ⟨vtg, length, hVtg, hCrlf, rfl⟩
  · intro hFinds
    rcases hFinds with ⟨vtg, length, hVtg, hCrlf, rfl⟩
    simp only [vtgLineEnd, hVtg, hCrlf]

theorem frameCut_eq_some_iff
    {live : List UInt8}
    {n : Nat} :
    frameCut live = some n ↔
      ∃ vtg length,
        find (ascii "VTG") live = some vtg ∧
          find crlf (live.drop vtg) = some length ∧
          n = min (vtg + length + 2)
            nmeaFrameBufferLength := by
  constructor
  · intro hCut
    rcases Option.map_eq_some_iff.mp hCut with
      ⟨stop, hEnd, rfl⟩
    rcases vtgLineEnd_eq_some_iff.mp hEnd with
      ⟨vtg, length, hVtg, hCrlf, rfl⟩
    exact ⟨vtg, length, hVtg, hCrlf, rfl⟩
  · intro hFinds
    rcases hFinds with ⟨vtg, length, hVtg, hCrlf, rfl⟩
    rw [frameCut, vtgLineEnd_eq_some_iff.mpr
      ⟨vtg, length, hVtg, hCrlf, rfl⟩]
    rfl

/- The whole line behind the VTG is live. -/
theorem vtgLine_le
    {live : List UInt8}
    {vtg length : Nat}
    (hVtg : find (ascii "VTG") live = some vtg)
    (hCrlf : find crlf (live.drop vtg) = some length) :
    vtg + length + 2 ≤ live.length := by
  have hVtgFits := find_add_length_le (by decide) hVtg
  have hCrlfFits := find_add_length_le (by decide) hCrlf
  simp only [List.length_drop, crlf, List.length_cons,
    List.length_nil] at hCrlfFits
  omega

/- The cut rule of the frame loop. -/
def frameSegmenter : Segmenter UInt8 :=
  { cut := frameCut
    cut_pos := by
      intro live n hCut
      rcases frameCut_eq_some_iff.mp hCut with
        ⟨vtg, length, _, _, rfl⟩
      exact lt_min (Nat.succ_pos _) (by decide)
    cut_le := by
      intro live n hCut
      rcases frameCut_eq_some_iff.mp hCut with
        ⟨vtg, length, hVtg, hCrlf, rfl⟩
      exact (min_le_left _ _).trans (vtgLine_le hVtg hCrlf)
    cut_append := by
      intro live n more hCut
      rcases frameCut_eq_some_iff.mp hCut with
        ⟨vtg, length, hVtg, hCrlf, rfl⟩
      have hFits := vtgLine_le hVtg hCrlf
      apply frameCut_eq_some_iff.mpr
      refine ⟨vtg, length,
        find_append_of_some more (by decide) hVtg, ?_, rfl⟩
      rw [List.drop_append_of_le_length (by omega)]
      exact find_append_of_some more (by decide) hCrlf }

theorem cut_frameSegmenter
    (live : List UInt8) :
    frameSegmenter.cut live = frameCut live := rfl

/- A sentence behind bytes without a "VTG" stays first. -/
theorem vtgLineEnd_append
    {before frame : List UInt8}
    (hBefore : ¬ Occurs (ascii "VTG") before)
    (hFrame : frame.head? = some (byte '$')) :
    vtgLineEnd (before ++ frame) =
      (vtgLineEnd frame).map (before.length + ·) := by
  have hVtg := find_append_of_boundary
    (show byte '$' ∉ ascii "VTG" by decide) hFrame hBefore
  unfold vtgLineEnd
  rw [hVtg]
  cases find (ascii "VTG") frame with
  | none => rfl
  | some vtg =>
      have hDrop :
          (before ++ frame).drop (before.length + vtg) =
            frame.drop vtg := by
        rw [← List.drop_drop, List.drop_left]
      simp only [Option.map_some, hDrop]
      cases find crlf (frame.drop vtg) with
      | none => rfl
      | some length => simp [Nat.add_assoc]

end Gps

------------------------------------------------------------
-- The Copy of a Frame
------------------------------------------------------------

namespace Gps

theorem nul_mem_tmp
    {bytes : List UInt8}
    (hFits : bytes.length ≤ nmeaFrameBufferLength) :
    0 ∈ tmp bytes := by
  apply List.mem_append_right
  rw [List.mem_replicate]
  exact ⟨by omega, rfl⟩

@[simp] theorem text_tmp
    (bytes : List UInt8) :
    text (tmp bytes) = text bytes := by
  have hZeros : ∀ n, text (List.replicate n 0) = [] := by
    intro n
    cases n <;> rfl
  unfold tmp
  by_cases hNul : 0 ∈ bytes
  · rcases exists_eq_text_append hNul with ⟨rest, hBytes⟩
    rw [hBytes, List.append_assoc, List.cons_append,
      text_append_nul (nul_notMem_text _),
      text_append_nul (nul_notMem_text _)]
  · rw [text_of_nul_notMem hNul]
    cases hPad : nmeaFrameBufferLength + 1 - bytes.length with
    | zero =>
        rw [List.replicate_zero, List.append_nil,
          text_of_nul_notMem hNul]
    | succ n =>
        rw [List.replicate_succ, text_append_nul hNul]

/- `GPS_Parse` of the bytes of one frame. -/
def parseFrame
    (p : Parser)
    (bytes : List UInt8) : Parser :=
  let p := parseLines p (handed (text bytes))
  { p with flag := p.flag + 1 }

theorem parse_tmp
    {bytes : List UInt8}
    (hFits : bytes.length ≤ nmeaFrameBufferLength)
    (p : Parser) :
    ∃ result,
      parse (tmp bytes) p = some result ∧
        result.parser = parseFrame p bytes := by
  rcases parse_spec (nul_mem_tmp hFits) p with
    ⟨result, hParse, _, _, hParser⟩
  rw [text_tmp] at hParser
  exact ⟨result, hParse, hParser⟩

end Gps

------------------------------------------------------------
-- One Iteration
------------------------------------------------------------

namespace Gps

/- The live bytes of the ring buffer. -/
def State.live (s : State) : List UInt8 :=
  s.gpsNmeaBuffer.contents

theorem State.contents_eq_live
    (s : State) :
    s.gpsNmeaBuffer.contents = s.live := rfl

/- The state after an iteration that took a frame out. -/
def UpdateState.pass
    (s : UpdateState)
    (bytes : List UInt8)
    (buffer : Buffer dataBufferMaxLength) : UpdateState :=
  s.finishFrame bytes buffer
    (parseFrame s.gps.parser bytes)

theorem length_vtg : (ascii "VTG").length = 3 := rfl

theorem restartFree_vtg : RestartFree (ascii "VTG") := by
  decide

theorem restartFree_crlf : RestartFree crlf := by
  decide

theorem query_startPosition
    (b : Buffer dataBufferMaxLength)
    {data : List UInt8}
    (hFree : RestartFree data) :
    b.query data b.startPosition =
      (find data b.contents).map b.position := by
  have hQuery := b.query_position hFree (Nat.zero_le _)
  rw [Buffer.startPosition_eq, hQuery, List.drop_zero]
  simp only [Nat.zero_add]

theorem copyLength_position
    (b : Buffer dataBufferMaxLength)
    {j : Nat}
    (hj : j < b.contents.length) :
    copyLength b (b.position j) =
      min (j + 2) nmeaFrameBufferLength := by
  rw [copyLength, b.size2_position hj]

theorem findFrame_of_no_vtg
    {b : Buffer dataBufferMaxLength}
    (hVtg : find (ascii "VTG") b.contents = none) :
    findFrame b = .nothing := by
  have hFirst := query_startPosition b restartFree_vtg
  rw [hVtg, Option.map_none] at hFirst
  simp only [findFrame, hFirst]

theorem findFrame_of_open_line
    {b : Buffer dataBufferMaxLength}
    {vtg : Nat}
    (hVtg : find (ascii "VTG") b.contents = some vtg)
    (hCrlf : find crlf (b.contents.drop vtg) = none) :
    findFrame b = .openLine := by
  have hFits := find_add_length_le (by decide) hVtg
  have hFirst := query_startPosition b restartFree_vtg
  have hSecond := b.query_position restartFree_crlf
    (show vtg ≤ _ by omega)
  rw [hVtg, Option.map_some] at hFirst
  rw [hCrlf, Option.map_none] at hSecond
  simp only [findFrame, hFirst, hSecond]

theorem findFrame_of_cut
    {b : Buffer dataBufferMaxLength}
    {n : Nat}
    (hCut : frameSegmenter.cut b.contents = some n) :
    ∃ buffer,
      findFrame b = .frame (b.contents.take n) buffer ∧
        buffer.contents = b.contents.drop n := by
  rcases frameCut_eq_some_iff.mp hCut with
    ⟨vtg, length, hVtg, hCrlf, rfl⟩
  have hFits := vtgLine_le hVtg hCrlf
  have hFirst := query_startPosition b restartFree_vtg
  have hSecond := b.query_position restartFree_crlf
    (show vtg ≤ _ by omega)
  have hLength := copyLength_position b
    (show vtg + length < _ by omega)
  rw [hVtg, Option.map_some] at hFirst
  rw [hCrlf, Option.map_some] at hSecond
  have hHeld : min (vtg + length + 2) nmeaFrameBufferLength ≤
      b.contents.length :=
    (min_le_left _ _).trans hFits
  rcases Buffer.contents_gets hHeld with
    ⟨buffer, hGets, hRest⟩
  refine ⟨buffer, ?_, hRest⟩
  simp only [findFrame, hFirst, hSecond, hLength, hGets]

/- Without a frame to cut the loop waits or goes round. -/
theorem findFrame_of_cut_none
    {b : Buffer dataBufferMaxLength}
    (hCut : frameSegmenter.cut b.contents = none) :
    findFrame b = .nothing ∨ findFrame b = .openLine := by
  cases hVtg : find (ascii "VTG") b.contents with
  | none => exact .inl (findFrame_of_no_vtg hVtg)
  | some vtg =>
      cases hCrlf : find crlf (b.contents.drop vtg) with
      | none => exact .inr (findFrame_of_open_line hVtg hCrlf)
      | some length =>
          rw [cut_frameSegmenter, frameCut_eq_some_iff.mpr
            ⟨vtg, length, hVtg, hCrlf, rfl⟩] at hCut
          cases hCut

variable {s : UpdateState}

theorem updateBody_of_no_vtg
    (hVtg : find (ascii "VTG") s.gps.live = none) :
    updateBody s = .done s := by
  simp only [updateBody, findFrame_of_no_vtg hVtg]

/- The missing branch: nothing changes and nothing breaks. -/
theorem updateBody_of_open_line
    {vtg : Nat}
    (hVtg : find (ascii "VTG") s.gps.live = some vtg)
    (hCrlf : find crlf (s.gps.live.drop vtg) = none) :
    updateBody s = .next s := by
  simp only [updateBody, findFrame_of_open_line hVtg hCrlf]

theorem updateBody_of_cut
    {n : Nat}
    (hCut : frameSegmenter.cut s.gps.live = some n) :
    ∃ buffer,
      updateBody s =
          .next (s.pass (s.gps.live.take n) buffer) ∧
        buffer.contents = s.gps.live.drop n := by
  rcases findFrame_of_cut hCut with ⟨buffer, hFound, hRest⟩
  rcases frameCut_eq_some_iff.mp hCut with
    ⟨vtg, length, _, _, hn⟩
  have hCopy : (s.gps.live.take n).length ≤
      nmeaFrameBufferLength := by
    rw [hn]
    exact (List.length_take_le _ _).trans (min_le_right _ _)
  rcases parse_tmp hCopy s.gps.parser with
    ⟨result, hParse, hParser⟩
  rw [← State.contents_eq_live] at hParse hParser ⊢
  refine ⟨buffer, ?_, hRest⟩
  simp only [updateBody, hFound, hParse, hParser,
    UpdateState.pass]

end Gps

------------------------------------------------------------
-- The Loop
------------------------------------------------------------

namespace Gps

/-
  What the frame loop has done when it has left: it took the
  segments of the live bytes out and parsed them in order.
-/
structure Extracted
    (s result : UpdateState) : Prop where
  live : result.gps.live = frameSegmenter.rest s.gps.live
  parsed : result.parsed =
    s.parsed ++ frameSegmenter.segments s.gps.live
  parser : result.gps.parser =
    (frameSegmenter.segments s.gps.live).foldl parseFrame
      s.gps.parser
  semCmdSending :
    result.gps.semCmdSending = s.gps.semCmdSending
  gpsAckMsg : result.gps.gpsAckMsg = s.gps.gpsAckMsg
  isSaveLog : result.gps.isSaveLog = s.gps.isSaveLog
  ret : result.ret = s.ret
  released : result.released = s.released

/- The loop leaves once no "VTG" is left. -/
theorem returns_updateBody
    {s : UpdateState}
    (hRest : ¬ Occurs (ascii "VTG")
      (frameSegmenter.rest s.gps.live)) :
    ∃ result,
      Loop.Returns updateBody s result ∧
        Extracted s result := by
  generalize hLive : s.gps.live = live at hRest
  induction live using Segmenter.cut_induction
      (S := frameSegmenter) generalizing s with
  | hWait live hCut =>
      subst hLive
      rw [Segmenter.rest_of_cut_none hCut,
        ← find_eq_none_iff] at hRest
      refine ⟨s,
        Loop.returns_of_done (updateBody_of_no_vtg hRest), ?_⟩
      exact
        { live := (Segmenter.rest_of_cut_none hCut).symm
          parsed := by
            rw [Segmenter.segments_of_cut_none hCut,
              List.append_nil]
          parser := by
            rw [Segmenter.segments_of_cut_none hCut]
            rfl
          semCmdSending := rfl
          gpsAckMsg := rfl
          isSaveLog := rfl
          ret := rfl
          released := rfl }
  | hCut live n hCut ih =>
      subst hLive
      rcases updateBody_of_cut hCut with
        ⟨buffer, hBody, hBuffer⟩
      have hLive' :
          (s.pass (s.gps.live.take n) buffer).gps.live =
            s.gps.live.drop n :=
        hBuffer
      rw [Segmenter.rest_of_cut_some hCut] at hRest
      rcases ih hLive' hRest with
        ⟨result, hReturns, hExtracted⟩
      refine ⟨result,
        (Loop.returns_iff_of_next hBody).mpr hReturns, ?_⟩
      exact
        { live := by
            rw [hExtracted.live, hLive',
              Segmenter.rest_of_cut_some hCut]
          parsed := by
            rw [hExtracted.parsed, hLive',
              Segmenter.segments_of_cut_some hCut]
            simp [UpdateState.pass, UpdateState.finishFrame]
          parser := by
            rw [hExtracted.parser, hLive',
              Segmenter.segments_of_cut_some hCut]
            rfl
          semCmdSending := hExtracted.semCmdSending
          gpsAckMsg := hExtracted.gpsAckMsg
          isSaveLog := hExtracted.isSaveLog
          ret := hExtracted.ret
          released := hExtracted.released }

/- The loop spins on a "VTG" that no cut takes out. -/
theorem not_terminates_updateBody
    {s : UpdateState}
    (hRest : Occurs (ascii "VTG")
      (frameSegmenter.rest s.gps.live)) :
    ¬ Loop.Terminates updateBody s := by
  generalize hLive : s.gps.live = live at hRest
  induction live using Segmenter.cut_induction
      (S := frameSegmenter) generalizing s with
  | hWait live hCut =>
      subst hLive
      rw [Segmenter.rest_of_cut_none hCut] at hRest
      rcases exists_find_of_occurs hRest with ⟨vtg, hVtg⟩
      have hCrlf : find crlf (s.gps.live.drop vtg) = none := by
        cases hFind : find crlf (s.gps.live.drop vtg) with
        | none => rfl
        | some length =>
            have hSome := frameCut_eq_some_iff.mpr
              ⟨vtg, length, hVtg, hFind, rfl⟩
            rw [show frameCut s.gps.live = none from hCut]
              at hSome
            cases hSome
      have hSpin : ∀ state, state = s →
          ∃ state', updateBody state = .next state' ∧
            state' = s := by
        intro state hState
        subst hState
        exact ⟨state, updateBody_of_open_line hVtg hCrlf, rfl⟩
      exact Loop.not_terminates_of_invariant hSpin rfl
  | hCut live n hCut ih =>
      subst hLive
      rcases updateBody_of_cut hCut with
        ⟨buffer, hBody, hBuffer⟩
      have hLive' :
          (s.pass (s.gps.live.take n) buffer).gps.live =
            s.gps.live.drop n :=
        hBuffer
      rw [Segmenter.rest_of_cut_some hCut] at hRest
      rw [Loop.terminates_iff_of_next hBody]
      exact ih hLive' hRest

end Gps

------------------------------------------------------------
-- When the Loop Ends
------------------------------------------------------------

namespace Gps

/- Behind every "VTG" the live bytes hold a "\r\n". -/
def VtgTerminated (live : List UInt8) : Prop :=
  ∀ vtg, OccursAt (ascii "VTG") live vtg →
    ∃ stop, vtg ≤ stop ∧ OccursAt crlf live stop

/- A cut takes no "VTG" out without its "\r\n". -/
theorem vtgTerminated_drop_iff
    {live : List UInt8}
    {n : Nat}
    (hCut : frameSegmenter.cut live = some n) :
    VtgTerminated (live.drop n) ↔ VtgTerminated live := by
  rcases frameCut_eq_some_iff.mp hCut with
    ⟨first, length, hFirst, hEnd, hn⟩
  have hCrlf := occursAt_drop.mp (find_occursAt hEnd)
  constructor
  · intro hRest vtg hVtg
    by_cases hTaken : vtg < n
    · have hLe := min_le_left (first + length + 2)
        nmeaFrameBufferLength
      have hOrder := le_crlf hVtg hCrlf (by decide)
        (by decide) (by omega)
      exact ⟨first + length, hOrder, hCrlf⟩
    · have hLater :
          OccursAt (ascii "VTG") (live.drop n) (vtg - n) := by
        rw [occursAt_drop, Nat.add_sub_of_le (by omega)]
        exact hVtg
      rcases hRest (vtg - n) hLater with
        ⟨stop, hLe, hStop⟩
      exact ⟨n + stop, by omega, occursAt_drop.mp hStop⟩
  · intro hAll vtg hVtg
    rcases hAll (n + vtg) (occursAt_drop.mp hVtg) with
      ⟨stop, hLe, hStop⟩
    refine ⟨stop - n, by omega, ?_⟩
    rw [occursAt_drop, Nat.add_sub_of_le (by omega)]
    exact hStop

theorem vtgTerminated_iff_rest
    (live : List UInt8) :
    VtgTerminated live ↔
      ¬ Occurs (ascii "VTG") (frameSegmenter.rest live) := by
  induction live using Segmenter.cut_induction
      (S := frameSegmenter) with
  | hWait live hCut =>
      rw [Segmenter.rest_of_cut_none hCut]
      constructor
      · intro hAll hOccurs
        rcases exists_find_of_occurs hOccurs with
          ⟨vtg, hVtg⟩
        rcases hAll vtg (find_occursAt hVtg) with
          ⟨stop, hLe, hStop⟩
        have hRest :
            OccursAt crlf (live.drop vtg) (stop - vtg) := by
          rw [occursAt_drop, Nat.add_sub_of_le hLe]
          exact hStop
        rcases exists_find_of_occurs ⟨_, hRest⟩ with
          ⟨length, hCrlf⟩
        have hSome := frameCut_eq_some_iff.mpr
          ⟨vtg, length, hVtg, hCrlf, rfl⟩
        rw [show frameCut live = none from hCut] at hSome
        cases hSome
      · intro hNone vtg hVtg
        exact absurd ⟨vtg, hVtg⟩ hNone
  | hCut live n hCut ih =>
      rw [Segmenter.rest_of_cut_some hCut, ← ih,
        vtgTerminated_drop_iff hCut]

end Gps

------------------------------------------------------------
-- The Call
------------------------------------------------------------

namespace Gps

/-
  The live bytes after `Buffer_Puts`, which refuses a chunk
  that does not fit and takes its length modulo 65536.
-/
def received (live data : List UInt8) : List UInt8 :=
  if live.length + u16 data.length < dataBufferMaxLength then
    live ++ data.take (u16 data.length)
  else
    live

theorem u16_length_of_short
    {chunk : List UInt8}
    (hShort : chunk.length < dataBufferMaxLength) :
    u16 chunk.length = chunk.length :=
  wrap_natCast_of_lt (hShort.trans (by decide))

theorem live_updateStart
    (s : State)
    (data : List UInt8) :
    (updateStart s data).gps.live = received s.live data :=
  s.gpsNmeaBuffer.contents_puts data (u16 data.length)

/- A chunk that has room is put behind what was there. -/
theorem live_updateStart_of_fits
    {s : State}
    {chunk : List UInt8}
    (hFits : (s.live ++ chunk).length < dataBufferMaxLength) :
    (updateStart s chunk).gps.live = s.live ++ chunk := by
  rw [List.length_append] at hFits
  have hShort : chunk.length < dataBufferMaxLength := by omega
  rw [live_updateStart, received, u16_length_of_short hShort,
    if_pos hFits, List.take_length]

theorem ret_updateStart_of_fits
    {s : State}
    {chunk : List UInt8}
    (hFits : (s.live ++ chunk).length < dataBufferMaxLength) :
    (updateStart s chunk).ret = true := by
  rw [List.length_append] at hFits
  have hShort : chunk.length < dataBufferMaxLength := by omega
  apply (s.gpsNmeaBuffer.puts_accepted_iff chunk
    (u16 chunk.length)).mpr
  rw [u16_length_of_short hShort]
  exact hFits

theorem updates_iff_returns
    {s : State}
    (hIdle : s.semCmdSending = false)
    {malloc : Bool}
    {data : List UInt8}
    {result : UpdateState} :
    Updates malloc s data result ↔
      Loop.Returns updateBody (updateStart s data)
        result := by
  simp [Updates, update, hIdle, Loop.Returns]

/- What a call that returns has done. -/
theorem extracted_of_updates
    {s : State}
    (hIdle : s.semCmdSending = false)
    {malloc : Bool}
    {data : List UInt8}
    {result : UpdateState}
    (hUpdates : Updates malloc s data result) :
    Extracted (updateStart s data) result ∧
      ¬ Occurs (ascii "VTG") result.gps.live := by
  rw [updates_iff_returns hIdle] at hUpdates
  by_cases hRest : Occurs (ascii "VTG")
      (frameSegmenter.rest (updateStart s data).gps.live)
  · exact absurd ⟨result, hUpdates⟩
      (not_terminates_updateBody hRest)
  · rcases returns_updateBody hRest with
      ⟨result', hReturns, hExtracted⟩
    cases Loop.returns_unique hUpdates hReturns
    refine ⟨hExtracted, ?_⟩
    rw [hExtracted.live]
    exact hRest

/-
  With no command in flight, `GPS_Update` returns exactly
  when every "VTG" among the live bytes has its "\r\n".
-/
theorem update_returns_iff_vtgTerminated
    {s : State}
    (hIdle : s.semCmdSending = false)
    (malloc : Bool)
    (data : List UInt8) :
    (∃ result, Updates malloc s data result) ↔
      VtgTerminated (received s.live data) := by
  rw [vtgTerminated_iff_rest, ← live_updateStart]
  constructor
  · intro hUpdates hRest
    rcases hUpdates with ⟨result, hUpdates⟩
    rw [updates_iff_returns hIdle] at hUpdates
    exact not_terminates_updateBody hRest
      ⟨result, hUpdates⟩
  · intro hRest
    rcases returns_updateBody hRest with
      ⟨result, hReturns, _⟩
    exact ⟨result,
      (updates_iff_returns hIdle).mpr hReturns⟩

theorem live_boot : boot.live = [] :=
  Buffer.contents_init (by decide) (by decide)

/- A whole VTG line as the first chunk. -/
theorem update_returns_vtg_line :
    ∃ result,
      Updates false boot (ascii "$GPVTG\r\n") result := by
  rw [update_returns_iff_vtgTerminated rfl, live_boot,
    vtgTerminated_iff_rest,
    show received [] (ascii "$GPVTG\r\n") =
      ascii "$GPVTG\r\n" by decide,
    Segmenter.rest_of_cut_some (n := 8) (by decide),
    Segmenter.rest_of_cut_none (by decide),
    ← find_eq_none_iff]
  decide

/- A chunk that ends inside the VTG line is never left. -/
theorem update_diverges_inside_vtg_line :
    ¬ ∃ result,
      Updates false boot (ascii "$GPVTG") result := by
  intro hUpdates
  rcases hUpdates with ⟨result, hUpdates⟩
  rw [updates_iff_returns rfl] at hUpdates
  refine not_terminates_updateBody ?_ ⟨result, hUpdates⟩
  rw [live_updateStart, live_boot,
    show received [] (ascii "$GPVTG") = ascii "$GPVTG" by
      decide,
    Segmenter.rest_of_cut_none (by decide)]
  exact ⟨3, by decide⟩

end Gps
