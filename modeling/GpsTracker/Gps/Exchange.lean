import GpsTracker.Gps.AckFresh
import GpsTracker.Gps.Replies

/-
  A request and its reply, from call to return.

  The bytes of the module arrive in chunks that are cut
  anywhere, with sentences before the reply and more bytes
  behind it. `GPS_Update` waits as long as the reply is not
  whole and then hands over just the reply; the request
  succeeds exactly when the reply confirms it.

  `OS_Malloc` succeeds here, and no time-out comes first.

  Main declarations:
    * `Gps.Awaited`, `Gps.awaitAck`
    * `Gps.NormalRequest.exchange`
    * `Gps.Surrounds`, `Gps.exchange_reply`
-/

open CString Machine ListSearch

------------------------------------------------------------
-- The Wait for an Ack
------------------------------------------------------------

namespace Gps

/-
  What chunks that arrive come to: no ack yet, an ack that
  is handed over, or a copy from a null pointer.
-/
inductive Awaited where
  | waiting (s : State)
  | acked (ack : List UInt8) (s : State)
  | crashed

/- What a call of `GPS_Update` has brought. -/
def UpdateState.awaited (result : UpdateState) : Awaited :=
  match result.gps.gpsAckMsg with
  | none => .waiting result.gps
  | some ack =>
      if result.released then
        .acked ack result.gps
      else
        .waiting result.gps

/- A call of `GPS_Update` with a command in flight. -/
def awaitCall (s : State) (chunk : List UInt8) : Awaited :=
  match updateCommand true (updateStart s chunk) with
  | none => .crashed
  | some result => result.awaited

/- What comes next if there is no ack yet. -/
def Awaited.andThen
    (awaited : Awaited)
    (next : State → Awaited) : Awaited :=
  match awaited with
  | .waiting s => next s
  | .acked ack s => .acked ack s
  | .crashed => .crashed

/- The calls until one of them hands an ack over. -/
def awaitAck : List (List UInt8) → State → Awaited
| [], s => .waiting s
| chunk :: chunks, s =>
    (awaitCall s chunk).andThen (awaitAck chunks)

/- The state behind `GPS_CMDSend`. -/
def State.sending (s : State) (cleared : Bool) : State :=
  { s with
    semCmdSending := true
    gpsNmeaBuffer :=
      if cleared then
        s.gpsNmeaBuffer.clear
      else
        s.gpsNmeaBuffer }

/-
  The requests whose ack `GPS_SendWaiteNormalAck` decides
  on: all but that of `GPS_GetVersion`.
-/
abbrev NormalRequest :=
  { request : Request // request.cmd ≠ .getVersion }

/-
  A function of the library from its call to its return,
  while these chunks arrive. There is no result before an
  ack is handed over. `behind` is the memory that follows
  the block of the ack.
-/
def NormalRequest.exchange
    (request : NormalRequest)
    (temp : List UInt8)
    (s : State)
    (chunks : List (List UInt8))
    (behind : List UInt8) : Option Bool := do
  let sent ← request.val.send temp
  match awaitAck chunks (s.sending sent.cleared) with
  | .acked ack _ =>
      sendWaiteNormalAck request.val.cmd sent.str
        (ack ++ behind)
  | _ => none

/- An NMEA command clears the ring buffer first. -/
def Request.clears : Request → Bool
  | .nmea _ => true
  | .binary _ => false

theorem awaited_of_handedOver
    {result : UpdateState}
    {ack : List UInt8}
    (hHanded : HandedOver ack result) :
    result.awaited = .acked ack result.gps := by
  unfold UpdateState.awaited
  rw [hHanded.2]
  exact if_pos hHanded.1

theorem awaited_of_not_released
    {result : UpdateState}
    (hReleased : result.released = false) :
    result.awaited = .waiting result.gps := by
  unfold UpdateState.awaited
  split
  · rfl
  · rw [hReleased, if_neg Bool.false_ne_true]

theorem awaitAck_append
    {s s' : State}
    {chunks : List (List UInt8)}
    (hWaits : awaitAck chunks s = .waiting s')
    (more : List (List UInt8)) :
    awaitAck (chunks ++ more) s = awaitAck more s' := by
  induction chunks generalizing s with
  | nil =>
      cases hWaits
      rfl
  | cons chunk chunks ih =>
      rw [awaitAck] at hWaits
      rw [List.cons_append, awaitAck]
      cases hCall : awaitCall s chunk with
      | waiting next =>
          rw [hCall] at hWaits
          exact ih hWaits
      | acked ack next =>
          rw [hCall] at hWaits
          cases hWaits
      | crashed =>
          rw [hCall] at hWaits
          cases hWaits

end Gps

------------------------------------------------------------
-- One Call
------------------------------------------------------------

namespace Gps

variable {b : Buffer dataBufferMaxLength}
variable {start : List UInt8 → Option Nat}
variable {k : Nat}

/- Without a "\r\n" nothing is copied. -/
theorem copyAck_eq_none
    (hHeld : k ≤ b.contents.length)
    (hNone : find crlf (b.contents.drop k) = none) :
    copyAck start (b.position k) b = none := by
  unfold copyAck
  rw [b.query_position restartFree_crlf hHeld, hNone]
  rfl

/- With one, the bytes up to it are taken out. -/
theorem copyAck_eq_some
    (hHeld : k ≤ b.contents.length)
    {length : Nat}
    (hEnd : find crlf (b.contents.drop k) = some length) :
    ∃ buffer : Buffer dataBufferMaxLength,
      copyAck start (b.position k) b =
          some
            { bytes := ackCopy b.contents (k + length)
              index0 := start (ackCopy b.contents (k + length))
              buffer := buffer } ∧
        buffer.contents = b.contents.drop
          (min (k + length + 2) nmeaFrameBufferLength) := by
  have hFits := find_add_length_le (by decide) hEnd
  rw [List.length_drop, length_crlf] at hFits
  have hHeldCopy : min (k + length + 2) nmeaFrameBufferLength ≤
      b.contents.length :=
    (min_le_left _ _).trans (by omega)
  rcases Buffer.contents_gets hHeldCopy with
    ⟨buffer, hGets, hRest⟩
  refine ⟨buffer, ?_, hRest⟩
  unfold copyAck
  rw [b.query_position restartFree_crlf hHeld, hEnd]
  simp only [Option.map_some]
  rw [copyLength_position b (by omega), hGets]
  rfl

/- The searches for the two headers, on the queue. -/
theorem findAck_eq
    (b : Buffer dataBufferMaxLength) :
    findAck b =
      match find cmdHeader b.contents with
      | some start =>
          copyAck (fun copy => find cmdHeader (text copy))
            (b.position start) b
      | none =>
          match find cmdBinaryHeader b.contents with
          | some start =>
              copyAck (find cmdBinaryHeader)
                (b.position start) b
          | none => none := by
  have hNmea := query_startPosition b restartFree_cmdHeader
  have hBinary :=
    query_startPosition b restartFree_cmdBinaryHeader
  unfold findAck
  simp only [hNmea, hBinary]
  cases find cmdHeader b.contents with
  | some start =>
      simp only [Option.map_some, strstr_tmp]
  | none =>
      cases find cmdBinaryHeader b.contents with
      | some start =>
          simp only [Option.map_none, Option.map_some,
            funext binaryStart_eq_find]
      | none => rfl

end Gps

------------------------------------------------------------
-- An Ack among Other Bytes
------------------------------------------------------------

namespace Gps

/-
  What the bytes around an ack are like. No header begins
  before the ack, and all up to its end is copied. A NUL in
  front would hide an NMEA ack, and an NMEA header anywhere
  a binary one.
-/
structure Surrounds
    (noise ack after : List UInt8) : Prop where
  quiet : holdsAckStart noise = false
  copied : noise.length + ack.length ≤ nmeaFrameBufferLength
  noNul : cmdHeader <+: ack → 0 ∉ noise
  noHeader : cmdBinaryHeader <+: ack →
    ¬ Occurs cmdHeader (noise ++ ack ++ after)

/- The one "\r\n" of an ack ends it. -/
structure Ended (ack : List UInt8) : Prop where
  headed : Headed ack
  length : 7 ≤ ack.length
  ends : find crlf ack = some (ack.length - 2)

variable {noise ack after : List UInt8}

theorem not_occursAt_of_quiet
    (hQuiet : holdsAckStart noise = false)
    {header : List UInt8}
    (hHeader : header ∈ [cmdHeader, cmdBinaryHeader])
    (more : List UInt8)
    {i : Nat}
    (hi : i < noise.length) :
    ¬ OccursAt header (noise ++ more) i := by
  intro hOccurs
  have hStart := holdsAckStart_take hHeader hOccurs hi
    (by rw [List.length_append]; omega)
  rw [List.take_left, hQuiet] at hStart
  cases hStart

/- The ack stands at the first header of its kind. -/
theorem find_header_of_quiet
    (hQuiet : holdsAckStart noise = false)
    {header : List UInt8}
    (hHeader : header ∈ [cmdHeader, cmdBinaryHeader])
    (hAck : header <+: ack) :
    find header (noise ++ ack) = some noise.length := by
  refine find_eq_some_iff.mpr ⟨?_, ?_, ?_⟩
  · unfold OccursAt
    rw [List.drop_left]
    exact hAck
  · rw [List.length_append]
    omega
  · exact fun i hi =>
      not_occursAt_of_quiet hQuiet hHeader ack hi

/- Of an ack that is not whole nothing is copied. -/
theorem find_crlf_of_part
    (hQuiet : holdsAckStart noise = false)
    (hEnded : Ended ack)
    {live : List UInt8}
    (hPart : live <+: noise ++ ack)
    (hShort : live.length < noise.length + ack.length)
    {header : List UInt8}
    (hHeader : header ∈ [cmdHeader, cmdBinaryHeader])
    {start : Nat}
    (hStart : find header live = some start) :
    find crlf (live.drop start) = none := by
  rw [find_eq_none_iff]
  rintro ⟨i, hCrlf⟩
  rw [occursAt_drop] at hCrlf
  have hFits := hCrlf.add_length_le (by decide)
  rw [length_crlf] at hFits
  rcases hPart with ⟨more, hMore⟩
  have hWhole := occursAt_append_of_occursAt more
    (find_occursAt hStart)
  rw [hMore] at hWhole
  have hBehind : noise.length ≤ start := by
    by_contra hLess
    exact not_occursAt_of_quiet hQuiet hHeader ack
      (by omega) hWhole
  have hEnd := occursAt_append_of_occursAt more hCrlf
  rw [hMore, show start + i =
    noise.length + (start + i - noise.length) by omega,
    occursAt_append_right] at hEnd
  have hFirst := find_le_of_occursAt hEnded.ends hEnd
  have hLength := hEnded.length
  omega

/- No header among the bytes has a "\r\n" behind it. -/
def Unended (live : List UInt8) : Prop :=
  ∀ header ∈ [cmdHeader, cmdBinaryHeader],
    ((find header live).bind fun start =>
      find crlf (live.drop start)) = none

theorem Unended.of_append
    {live more : List UInt8}
    (hUnended : Unended (live ++ more)) :
    Unended live := by
  intro header hHeader
  have hNonempty : header ≠ [] := by
    rcases List.mem_pair.mp hHeader with rfl | rfl <;> decide
  have hMore := hUnended header hHeader
  cases hStart : find header live with
  | none => rfl
  | some start =>
      rw [find_append_of_some more hNonempty hStart] at hMore
      have hHeld := (find_eq_some_iff.mp hStart).2.1
      rw [Option.bind_some, List.drop_append_of_le_length hHeld,
        find_eq_none_iff] at hMore
      rw [Option.bind_some, find_eq_none_iff]
      rintro ⟨i, hCrlf⟩
      exact hMore ⟨i, occursAt_append_of_occursAt more hCrlf⟩

theorem unended_of_part
    (hQuiet : holdsAckStart noise = false)
    (hEnded : Ended ack)
    {live : List UInt8}
    (hPart : live <+: noise ++ ack)
    (hShort : live.length < noise.length + ack.length) :
    Unended live := by
  intro header hHeader
  cases hStart : find header live with
  | none => rfl
  | some start =>
      exact find_crlf_of_part hQuiet hEnded hPart hShort
        hHeader hStart

/- A call that brings no whole ack only stores the bytes. -/
theorem updateCommand_of_unended
    {malloc : Bool}
    {s : UpdateState}
    (hUnended : Unended s.gps.live) :
    updateCommand malloc s = some s := by
  have hNone : findAck s.gps.gpsNmeaBuffer = none := by
    have hNotCopied {header : List UInt8} {start : Nat}
        (hHeader : header ∈ [cmdHeader, cmdBinaryHeader])
        (hStart : find header s.gps.gpsNmeaBuffer.contents =
          some start)
        (locate : List UInt8 → Option Nat) :
        copyAck locate (s.gps.gpsNmeaBuffer.position start)
          s.gps.gpsNmeaBuffer = none := by
      apply copyAck_eq_none (find_eq_some_iff.mp hStart).2.1
      have hEnd := hUnended header hHeader
      rw [← State.contents_eq_live, hStart] at hEnd
      exact hEnd
    rw [findAck_eq]
    split
    · next start hStart => exact hNotCopied (by simp) hStart _
    · split
      · next start hStart => exact hNotCopied (by simp) hStart _
      · rfl
  rw [updateCommand_eq_findAck, hNone]

end Gps

namespace Gps

variable {noise ack after : List UInt8}

/- The copy of a whole ack, behind its header. -/
theorem copyAck_of_whole
    (hSurrounds : Surrounds noise ack after)
    (hEnded : Ended ack)
    {b : Buffer dataBufferMaxLength}
    (hLive : b.contents = noise ++ ack ++ after)
    (start : List UInt8 → Option Nat) :
    ∃ buffer : Buffer dataBufferMaxLength,
      copyAck start (b.position noise.length) b =
          some
            { bytes := noise ++ ack
              index0 := start (noise ++ ack)
              buffer := buffer } ∧
        buffer.contents = after := by
  have hLength := hEnded.length
  have hCopied := hSurrounds.copied
  have hHeld : noise.length ≤ b.contents.length := by
    rw [hLive, List.append_assoc, List.length_append]
    exact Nat.le_add_right _ _
  have hEnd : find crlf (b.contents.drop noise.length) =
      some (ack.length - 2) := by
    rw [hLive, List.append_assoc, List.drop_left]
    exact find_append_of_some after (by decide) hEnded.ends
  have hStop : noise.length + (ack.length - 2) + 2 =
      (noise ++ ack).length := by
    rw [List.length_append]
    omega
  have hMin : min (noise ++ ack).length nmeaFrameBufferLength =
      (noise ++ ack).length :=
    min_eq_left (by rw [List.length_append]; exact hCopied)
  have hCopy : ackCopy b.contents
      (noise.length + (ack.length - 2)) = noise ++ ack := by
    unfold ackCopy
    rw [hStop, hMin, hLive, List.take_left]
  rcases @copyAck_eq_some b start _ hHeld _ hEnd with
    ⟨buffer, hTaken, hRest⟩
  rw [hCopy] at hTaken
  rw [hStop, hMin, hLive, List.drop_left] at hRest
  exact ⟨buffer, hTaken, hRest⟩

/- The second search finds the header of an NMEA ack. -/
theorem find_cmdHeader_text
    (hQuiet : holdsAckStart noise = false)
    (hNul : 0 ∉ noise)
    (hNmea : cmdHeader <+: ack) :
    find cmdHeader (text (noise ++ ack)) =
      some noise.length := by
  have hHeaderNul : 0 ∉ cmdHeader := by decide
  rcases hNmea with ⟨rest, rfl⟩
  rw [text_append hNul, text_append hHeaderNul]
  exact find_header_of_quiet hQuiet (by simp)
    (List.prefix_append _ _)

/- A whole ack is found, and what is behind it stays. -/
theorem findAck_of_whole
    (hSurrounds : Surrounds noise ack after)
    (hEnded : Ended ack)
    {b : Buffer dataBufferMaxLength}
    (hLive : b.contents = noise ++ ack ++ after) :
    ∃ buffer : Buffer dataBufferMaxLength,
      findAck b =
          some
            { bytes := noise ++ ack
              index0 := some noise.length
              buffer := buffer } ∧
        buffer.contents = after := by
  have hQuiet := hSurrounds.quiet
  rw [findAck_eq]
  rcases hEnded.headed with hNmea | hBinary
  · have hStart : find cmdHeader b.contents =
        some noise.length := by
      rw [hLive, List.append_assoc]
      exact find_header_of_quiet hQuiet (by simp)
        (hNmea.trans (List.prefix_append _ _))
    rcases copyAck_of_whole hSurrounds hEnded hLive
        (fun copy => find cmdHeader (text copy)) with
      ⟨buffer, hTaken, hRest⟩
    simp only [hStart]
    rw [hTaken, find_cmdHeader_text hQuiet
      (hSurrounds.noNul hNmea) hNmea]
    exact ⟨buffer, rfl, hRest⟩
  · have hNone : find cmdHeader b.contents = none := by
      rw [hLive]
      exact find_eq_none_iff.mpr (hSurrounds.noHeader hBinary)
    have hStart : find cmdBinaryHeader b.contents =
        some noise.length := by
      rw [hLive, List.append_assoc]
      exact find_header_of_quiet hQuiet (by simp)
        (hBinary.trans (List.prefix_append _ _))
    rcases copyAck_of_whole hSurrounds hEnded hLive
        (find cmdBinaryHeader) with ⟨buffer, hTaken, hRest⟩
    simp only [hNone, hStart]
    rw [hTaken, find_header_of_quiet hQuiet (by simp) hBinary]
    exact ⟨buffer, rfl, hRest⟩

/- The call that brings the last byte hands the ack over. -/
theorem updateCommand_of_whole
    (hSurrounds : Surrounds noise ack after)
    (hEnded : Ended ack)
    {s : UpdateState}
    (hLive : s.gps.live = noise ++ ack ++ after) :
    ∃ result, updateCommand true s = some result ∧
      HandedOver ack result ∧ result.gps.live = after := by
  rcases findAck_of_whole hSurrounds hEnded hLive with
    ⟨buffer, hFound, hRest⟩
  rw [updateCommand_eq_findAck, hFound]
  refine ⟨_, rfl, ⟨rfl, ?_⟩, hRest⟩
  simp only [List.drop_left]

end Gps

------------------------------------------------------------
-- All Calls
------------------------------------------------------------

namespace Gps

variable {noise ack after : List UInt8}

theorem awaitCall_of_unended
    {s : State}
    {chunk : List UInt8}
    (hFits : (s.live ++ chunk).length < dataBufferMaxLength)
    (hUnended : Unended (s.live ++ chunk)) :
    ∃ s', awaitCall s chunk = .waiting s' ∧
      s'.live = s.live ++ chunk := by
  have hLive := live_updateStart_of_fits hFits
  rw [← hLive] at hUnended
  refine ⟨(updateStart s chunk).gps, ?_, hLive⟩
  unfold awaitCall
  rw [updateCommand_of_unended hUnended]
  exact awaited_of_not_released rfl

/- As long as no ack is whole, the bytes are kept. -/
theorem awaitAck_of_unended
    {s : State}
    {chunks : List (List UInt8)}
    (hFits : (s.live ++ chunks.flatten).length <
      dataBufferMaxLength)
    (hUnended : Unended (s.live ++ chunks.flatten)) :
    ∃ s', awaitAck chunks s = .waiting s' ∧
      s'.live = s.live ++ chunks.flatten := by
  induction chunks generalizing s with
  | nil => exact ⟨s, rfl, (List.append_nil _).symm⟩
  | cons chunk chunks ih =>
      rw [List.flatten_cons, ← List.append_assoc]
        at hFits hUnended
      have hFirst : (s.live ++ chunk).length <
          dataBufferMaxLength := by
        rw [List.length_append] at hFits
        omega
      rcases awaitCall_of_unended hFirst hUnended.of_append with
        ⟨next, hCall, hLive⟩
      rw [← hLive] at hFits hUnended
      rcases ih hFits hUnended with ⟨s', hRest, hLive'⟩
      refine ⟨s', ?_, ?_⟩
      · rw [awaitAck, hCall]
        exact hRest
      · rw [hLive', hLive, List.flatten_cons,
          List.append_assoc]

/- The chunk with the last byte of the ack ends the wait. -/
theorem awaitAck_of_whole
    (hSurrounds : Surrounds noise ack after)
    (hEnded : Ended ack)
    {s : State}
    {chunks : List (List UInt8)}
    {last : List UInt8}
    (hStream : s.live ++ (chunks ++ [last]).flatten =
      noise ++ ack ++ after)
    (hRoom : (noise ++ ack ++ after).length <
      dataBufferMaxLength)
    (hShort : (s.live ++ chunks.flatten).length <
      noise.length + ack.length) :
    ∃ s', awaitAck (chunks ++ [last]) s = .acked ack s' ∧
      s'.live = after := by
  rw [List.flatten_append, List.flatten_singleton,
    ← List.append_assoc] at hStream
  have hPart : s.live ++ chunks.flatten <+: noise ++ ack := by
    apply List.prefix_of_prefix_length_le
      (List.prefix_append _ last)
      (hStream ▸ List.prefix_append _ after)
    rw [@List.length_append _ noise]
    omega
  have hFits : (s.live ++ chunks.flatten).length <
      dataBufferMaxLength := by
    have hCopied := hSurrounds.copied
    unfold nmeaFrameBufferLength at hCopied
    unfold dataBufferMaxLength
    omega
  rcases awaitAck_of_unended hFits
      (unended_of_part hSurrounds.quiet hEnded hPart hShort) with
    ⟨next, hWaits, hLive⟩
  rw [← hLive] at hStream
  have hLast := live_updateStart_of_fits
    (show (next.live ++ last).length < dataBufferMaxLength by
      rw [hStream]
      exact hRoom)
  rw [hStream] at hLast
  rcases updateCommand_of_whole hSurrounds hEnded hLast with
    ⟨result, hCall, hHanded, hAfter⟩
  have hLastCall : awaitCall next last =
      .acked ack result.gps := by
    unfold awaitCall
    rw [hCall]
    exact awaited_of_handedOver hHanded
  refine ⟨result.gps, ?_, hAfter⟩
  rw [awaitAck_append hWaits, awaitAck, hLastCall]
  rfl

end Gps

------------------------------------------------------------
-- Replies
------------------------------------------------------------

namespace Gps

/- A binary ack holds no "\r\n" before its end. -/
theorem find_crlf_ackMessage
    {kind : Cmd}
    (hKind : kind = .ack ∨ kind = .ackGpd)
    (field : Field)
    {result : Nat}
    (hResult : result ≤ 4) :
    find crlf (closed
        (ackMessage kind field.number.toNat result)) =
      some 10 := by
  have hField : ¬ (UInt8.ofNat field.number.toNat = 13 ∧
      UInt8.ofNat (field.number.toNat / 256) = 10) := by
    rintro ⟨hLow, hHigh⟩
    apply field.hBytes
    have hLess := field.number.toNat_lt
    have hLowNat := congrArg UInt8.toNat hLow
    have hHighNat := congrArg UInt8.toNat hHigh
    rw [UInt8.toNat_ofNat'] at hLowNat hHighNat
    rw [← UInt16.toNat_inj]
    show field.number.toNat = 2573
    simp only [UInt8.reduceToNat] at hLowNat hHighNat
    omega
  have hNotCrlf : UInt8.ofNat result ≠ 13 ∧
      UInt8.ofNat result ≠ 10 := by
    have hAll : ∀ result : Fin 5,
        UInt8.ofNat result.val ≠ 13 ∧
          UInt8.ofNat result.val ≠ 10 := by
      decide
    exact hAll ⟨result, by omega⟩
  have hBytes (kindByte low high b parity : UInt8)
      (hKindByte : kindByte ≠ 13)
      (hLowHigh : ¬ (low = 13 ∧ high = 10))
      (hb : b ≠ 13 ∧ b ≠ 10) :
      find crlf [0xaa, 0xf0, 12, 0, kindByte, 0, low, high,
        b, parity, 13, 10] = some 10 := by
    have hTail : find crlf [b, parity, 13, 10] = some 2 := by
      simp [find, crlf, hb.1.symm]
    have hHigh : find crlf [high, b, parity, 13, 10] =
        some 3 := by
      rw [find, hTail, if_neg (by
        simpa [crlf] using fun _ => hb.2.symm)]
      rfl
    have hLow : find crlf [low, high, b, parity, 13, 10] =
        some 4 := by
      rw [find, hHigh, if_neg (by
        simpa [crlf, eq_comm] using hLowHigh)]
      rfl
    have hNone : 13 ∉ [0xaa, 0xf0, 12, 0, kindByte, 0] := by
      simp [hKindByte.symm]
    rw [show crlf = 13 :: [10] from rfl] at hLow ⊢
    exact (@find_append_of_head_notMem _ _ 13 [10]
      [0xaa, 0xf0, 12, 0, kindByte, 0] _ hNone).trans
        (congrArg _ hLow)
  rcases hKind with rfl | rfl
  · exact hBytes 1 _ _ _ _ (by decide) hField hNotCrlf
  · exact hBytes 3 _ _ _ _ (by decide) hField hNotCrlf

theorem ended_completed
    {args : List (List UInt8)}
    (hArgs : ∀ arg ∈ args, Minmea.IsText arg)
    (cmd : Cmd) :
    Ended (completed (nmeaTail cmd args)) := by
  have hCr : 13 ∉ nmeaTail cmd args := fun hMem =>
    (cmdChar_of_isBody
      (isBody_nmeaTail hArgs cmd 13 hMem)).2 rfl
  have hLength := length_completed (nmeaTail cmd args)
  have hTail :=
    List.length_pos_iff.mpr (nmeaTail_ne_nil cmd args)
  have hEnd := find_crlf_completed hCr
  refine ⟨Or.inl ⟨_, rfl⟩, ?_, ?_⟩
  · omega
  · rw [hEnd, hLength]
    rfl

theorem Reply.ended
    (reply : Reply) :
    Ended reply.bytes := by
  have hHeaded := reply.headed []
  rw [List.append_nil] at hHeaded
  cases reply with
  | nmea cmd result =>
      exact ended_completed (isText_ack cmd result) .ack
  | binary cmd result =>
      exact ⟨hHeaded, Nat.le_add_right 7 5,
        find_crlf_ackMessage (Or.inl rfl) cmd result.code_le⟩
  | pack index received =>
      exact ⟨hHeaded, Nat.le_add_right 7 5,
        find_crlf_ackMessage (Or.inr rfl) index
          (received.toNat_le.trans (by decide))⟩

theorem live_sending
    (s : State)
    (cleared : Bool) :
    (s.sending cleared).live =
      if cleared then [] else s.live := by
  cases cleared with
  | true => exact s.gpsNmeaBuffer.contents_clear
  | false => rfl

theorem Request.send_eq
    (request : Request)
    {temp : List UInt8}
    (hTemp : temp.length = cmdBufferLength) :
    ∃ rest, request.send temp =
      some
        { str := request.sent ++ rest
          sent := request.sent
          cleared := request.clears } := by
  cases request with
  | nmea request =>
      rcases request.send_eq hTemp with ⟨rest, hSend, _⟩
      exact ⟨_, hSend⟩
  | binary request =>
      rcases request.send_eq hTemp with ⟨rest, hSend, _⟩
      exact ⟨_, hSend⟩

end Gps
