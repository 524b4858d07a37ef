import GpsTracker.Gps.Frames

/-
  The ack that `GPS_Update` hands over with a command in
  flight.

  The code looks for the header in the ring, for the first
  "\r\n" behind it, and for the header again in the copy of
  everything up to there. It finds the first ack of the live
  bytes exactly when the copy holds it whole, when nothing
  hides its header from the second search, and, for a binary
  ack, when no other header and no "\r\n" mislead the first.

  Main declarations:
    * `Gps.AckAt`, `Gps.FirstAck`
    * `Gps.Takes`, `Gps.updates_handedOver_iff`
    * `Gps.Extractable`
    * `Gps.update_hands_over_iff_extractable`
-/

open CString Machine ListSearch

------------------------------------------------------------
-- Acks
------------------------------------------------------------

namespace Gps

/- The length field of a binary message. -/
def lengthField (message : List UInt8) : Nat :=
  (message.getD 2 0).toNat + 256 * (message.getD 3 0).toNat

/-
  A complete ack at a position, with its length: an NMEA ack
  ends with the first "\r\n", a binary ack has the length
  that its own field says, and ends in "\r\n" too.
-/
inductive AckAt
    (live : List UInt8)
    (start : Nat) : Nat → Prop where
  | nmea
      {length : Nat}
      (hHeader : OccursAt cmdHeader live start)
      (hEnd : find crlf (live.drop start) = some length) :
      AckAt live start (length + 2)
  | binary
      {length : Nat}
      (hHeader : OccursAt cmdBinaryHeader live start)
      (hField : lengthField (live.drop start) = length)
      (hLength : 6 ≤ length)
      (hFits : start + length ≤ live.length)
      (hEnd : OccursAt crlf live (start + length - 2)) :
      AckAt live start length

/- The complete ack that no complete ack begins before. -/
structure FirstAck
    (live : List UInt8)
    (start length : Nat) : Prop where
  ack : AckAt live start length
  first : ∀ start' length', AckAt live start' length' →
    start ≤ start'

/- The bytes of the ack. -/
def ackBytes
    (live : List UInt8)
    (start length : Nat) : List UInt8 :=
  (live.drop start).take length

end Gps

------------------------------------------------------------
-- What Is Handed Over
------------------------------------------------------------

namespace Gps

/- The live bytes that are copied for a "\r\n" position. -/
def ackCopy
    (live : List UInt8)
    (stop : Nat) : List UInt8 :=
  live.take (min (stop + 2) nmeaFrameBufferLength)

/-
  What the two searches of the code make of the live bytes:
  the copy ends at the first "\r\n" behind the first header,
  and the ack is the copy from the header found in it on.
-/
structure Takes
    (live header : List UInt8)
    (search : List UInt8 → Option Nat)
    (ack : List UInt8)
    (start length index0 : Nat) : Prop where
  start_eq : find header live = some start
  length_eq : find crlf (live.drop start) = some length
  index0_eq :
    search (ackCopy live (start + length)) = some index0
  ack_eq :
    (ackCopy live (start + length)).drop index0 = ack

/- The NMEA header is searched for in a string. -/
def TakesNmea (live ack : List UInt8) : Prop :=
  ∃ start length index0,
    Takes live cmdHeader
      (fun copy => find cmdHeader (text copy))
      ack start length index0

/- The binary header is searched for in memory. -/
def TakesBinary (live ack : List UInt8) : Prop :=
  ∃ start length index0,
    Takes live cmdBinaryHeader (find cmdBinaryHeader)
      ack start length index0

/- The call hands an ack over. -/
def HandedOver
    (ack : List UInt8)
    (result : UpdateState) : Prop :=
  result.released = true ∧
    result.gps.gpsAckMsg = some ack

theorem binaryStart_eq_find
    (bytes : List UInt8) :
    binaryStart bytes = find cmdBinaryHeader bytes := by
  induction bytes with
  | nil => rfl
  | cons first bytes ih =>
      cases bytes with
      | nil => simp [binaryStart, find, cmdBinaryHeader]
      | cons second bytes =>
          rw [binaryStart, find, ih]
          by_cases hHeader : first = 0xaa ∧ second = 0xf0
          · rcases hHeader with ⟨rfl, rfl⟩
            simp [cmdBinaryHeader]
          · have hNot : ¬ cmdBinaryHeader <+:
                first :: second :: bytes := by
              simpa [cmdBinaryHeader, eq_comm] using hHeader
            rw [if_neg hHeader, if_neg hNot]

theorem strstr_tmp
    (copy : List UInt8) :
    strstr (tmp copy) 0 cmdHeader =
      find cmdHeader (text copy) := by
  rw [strstr, List.drop_zero, text_tmp]
  simp

theorem length_cmdHeader : cmdHeader.length = 5 := rfl

theorem length_cmdBinaryHeader :
    cmdBinaryHeader.length = 2 := rfl

theorem restartFree_cmdHeader : RestartFree cmdHeader := by
  decide

theorem restartFree_cmdBinaryHeader :
    RestartFree cmdBinaryHeader := by
  decide

variable {s : UpdateState}

theorem handOver_iff
    {stop : Nat}
    (hStop : stop + 2 ≤ s.gps.live.length)
    (search : List UInt8 → Option Nat)
    (ack : List UInt8) :
    (∃ result,
      handOver true search
          (s.gps.gpsNmeaBuffer.position stop) s =
        some result ∧ HandedOver ack result) ↔
      ∃ index0,
        search (ackCopy s.gps.live stop) = some index0 ∧
          (ackCopy s.gps.live stop).drop index0 = ack := by
  unfold State.live at hStop ⊢
  have hLength := copyLength_position s.gps.gpsNmeaBuffer
    (show stop < _ by omega)
  have hHeld : min (stop + 2) nmeaFrameBufferLength ≤
      s.gps.gpsNmeaBuffer.contents.length :=
    (min_le_left _ _).trans hStop
  rcases Buffer.contents_gets hHeld with
    ⟨buffer, hGets, _⟩
  unfold handOver
  simp only [hLength, hGets]
  rw [show s.gps.gpsNmeaBuffer.contents.take
      (min (stop + 2) nmeaFrameBufferLength) =
    ackCopy s.gps.gpsNmeaBuffer.contents stop from rfl]
  cases search (ackCopy s.gps.gpsNmeaBuffer.contents stop) with
  | none => simp
  | some index0 => simp [HandedOver]

theorem not_handedOver
    {ack : List UInt8}
    (hReleased : s.released = false) :
    ¬ HandedOver ack s := by
  intro hHanded
  rw [HandedOver, hReleased] at hHanded
  exact absurd hHanded.1 (by decide)

/- One branch, behind a header that was found. -/
theorem takeAck_iff
    (hReleased : s.released = false)
    {header : List UInt8}
    {start : Nat}
    (hStart : find header s.gps.live = some start)
    (search : List UInt8 → Option Nat)
    (ack : List UInt8) :
    (∃ result,
      takeAck true search
          (s.gps.gpsNmeaBuffer.position start) s =
        some result ∧ HandedOver ack result) ↔
      ∃ start length index0,
        Takes s.gps.live header search ack
          start length index0 := by
  have hHeld : start ≤ s.gps.gpsNmeaBuffer.contents.length :=
    (find_eq_some_iff.mp hStart).2.1
  have hQuery := s.gps.gpsNmeaBuffer.query_position
    restartFree_crlf hHeld
  rw [State.contents_eq_live]
    at hQuery
  unfold takeAck
  rw [hQuery]
  cases hLength : find crlf (s.gps.live.drop start) with
  | none =>
      constructor
      · intro hSome
        rcases hSome with ⟨result, hResult, hHanded⟩
        cases hResult
        exact absurd hHanded (not_handedOver hReleased)
      · intro hTakes
        rcases hTakes with ⟨start', length, index0, hTakes⟩
        cases hStart.symm.trans hTakes.start_eq
        cases hLength.symm.trans hTakes.length_eq
  | some length =>
      have hFits := find_add_length_le (by decide) hLength
      rw [List.length_drop, length_crlf]
        at hFits
      simp only [Option.map_some]
      rw [handOver_iff (by omega)]
      constructor
      · intro hCopy
        rcases hCopy with ⟨index0, hIndex0, hAck⟩
        exact ⟨start, length, index0,
          hStart, hLength, hIndex0, hAck⟩
      · intro hTakes
        rcases hTakes with ⟨start', length', index0, hTakes⟩
        cases hStart.symm.trans hTakes.start_eq
        cases hLength.symm.trans hTakes.length_eq
        exact ⟨index0, hTakes.index0_eq, hTakes.ack_eq⟩

theorem updateCommand_iff
    (hReleased : s.released = false)
    (ack : List UInt8) :
    (∃ result,
      updateCommand true s = some result ∧
        HandedOver ack result) ↔
      TakesNmea s.gps.live ack ∨
        ¬ Occurs cmdHeader s.gps.live ∧
          TakesBinary s.gps.live ack := by
  have hNmea := query_startPosition s.gps.gpsNmeaBuffer
    restartFree_cmdHeader
  have hBinary := query_startPosition s.gps.gpsNmeaBuffer
    restartFree_cmdBinaryHeader
  rw [State.contents_eq_live]
    at hNmea hBinary
  unfold updateCommand
  simp only [hNmea, hBinary]
  cases hStart : find cmdHeader s.gps.live with
  | some start =>
      have hOccurs : Occurs cmdHeader s.gps.live :=
        ⟨start, find_occursAt hStart⟩
      simp only [Option.map_some, strstr_tmp]
      rw [takeAck_iff hReleased hStart]
      simp [TakesNmea, hOccurs]
  | none =>
      have hNone := find_eq_none_iff.mp hStart
      have hNot : ¬ TakesNmea s.gps.live ack := by
        intro hTakes
        rcases hTakes with ⟨start, length, index0, hTakes⟩
        cases hStart.symm.trans hTakes.start_eq
      cases hFirst : find cmdBinaryHeader s.gps.live with
      | some start =>
          simp only [Option.map_none, Option.map_some,
            funext binaryStart_eq_find]
          rw [takeAck_iff hReleased hFirst]
          simp [TakesBinary, hNone, hNot]
      | none =>
          have hNotBinary : ¬ TakesBinary s.gps.live ack := by
            intro hTakes
            rcases hTakes with
              ⟨start, length, index0, hTakes⟩
            cases hFirst.symm.trans hTakes.start_eq
          simp [hNot, hNotBinary, not_handedOver hReleased]

/- What a call hands over, seen on the queue. -/
theorem updates_handedOver_iff
    {s : State}
    (hInFlight : s.semCmdSending = true)
    (data ack : List UInt8) :
    (∃ result,
      Updates true s data result ∧ HandedOver ack result) ↔
      TakesNmea (received s.live data) ack ∨
        ¬ Occurs cmdHeader (received s.live data) ∧
          TakesBinary (received s.live data) ack := by
  have hReleased : (updateStart s data).released = false :=
    rfl
  rw [← live_updateStart, ← updateCommand_iff hReleased]
  simp [Updates, update, hInFlight]

end Gps

------------------------------------------------------------
-- NMEA Acks
------------------------------------------------------------

namespace Gps

variable {live : List UInt8}

theorem ackCopy_isPrefix
    (live : List UInt8)
    (stop : Nat) :
    ackCopy live stop <+: live :=
  List.take_prefix _ _

/- A copy that is not clipped ends behind its "\r\n". -/
theorem ackCopy_eq_take
    {stop : Nat}
    (hClip : stop + 2 ≤ nmeaFrameBufferLength) :
    ackCopy live stop = live.take (stop + 2) := by
  rw [ackCopy, min_eq_left hClip]

/- A "\r\n" does not stand inside an NMEA header. -/
theorem nmea_header_le
    {start length : Nat}
    (hHeader : OccursAt cmdHeader live start)
    (hCrlf : OccursAt crlf live (start + length)) :
    5 ≤ length := by
  by_contra hInside
  have hLess : length < cmdHeader.length := by
    rw [length_cmdHeader]
    omega
  have hByte := hHeader.getElem?_eq hCrlf (b := 0) hLess
    (by decide) rfl
  have hHeaderByte := List.mem_of_getElem? hByte
  exact absurd hHeaderByte (by decide)

/- The first complete ack has the first NMEA header. -/
theorem find_cmdHeader_of_first
    {start length : Nat}
    (hFirst : FirstAck live start (length + 2))
    (hHeader : OccursAt cmdHeader live start)
    (hEnd : find crlf (live.drop start) = some length) :
    find cmdHeader live = some start := by
  rcases exists_find_of_occurs ⟨start, hHeader⟩ with
    ⟨i, hi⟩
  have hLe := find_le_of_occursAt hi hHeader
  have hCrlf :
      OccursAt crlf (live.drop i) (start + length - i) := by
    rw [occursAt_drop, Nat.add_sub_of_le (by omega)]
    exact occursAt_drop.mp (find_occursAt hEnd)
  rcases exists_find_of_occurs ⟨_, hCrlf⟩ with
    ⟨length', hEnd'⟩
  have hGe := hFirst.first i (length' + 2)
    (.nmea (find_occursAt hi) hEnd')
  rw [hi, Nat.le_antisymm hLe hGe]

theorem text_ackCopy_isPrefix
    (live : List UInt8)
    (stop : Nat) :
    text (ackCopy live stop) <+: live :=
  (text_isPrefix _).trans (ackCopy_isPrefix live stop)

/- What is handed over as a whole was copied and found. -/
theorem copied_of_takesNmea
    {start length : Nat}
    (hStart : find cmdHeader live = some start)
    (hEnd : find crlf (live.drop start) = some length)
    (hFits : start + length + 2 ≤ live.length)
    (hTakes :
      TakesNmea live (ackBytes live start (length + 2))) :
    start + (length + 2) ≤ nmeaFrameBufferLength ∧
      0 ∉ live.take start := by
  rcases hTakes with ⟨start', length', index0, hTakes⟩
  cases hStart.symm.trans hTakes.start_eq
  cases hEnd.symm.trans hTakes.length_eq
  have hIndex0 : find cmdHeader
      (text (ackCopy live (start + length))) =
        some index0 :=
    hTakes.index0_eq
  have hFound := (find_eq_some_iff_of_isPrefix (by decide)
    (text_ackCopy_isPrefix live (start + length))).mp hIndex0
  cases hStart.symm.trans hFound.1
  have hClip : start + (length + 2) ≤
      nmeaFrameBufferLength := by
    have hLength := congrArg List.length hTakes.ack_eq
    rw [ackBytes, ackCopy, List.length_drop,
      List.length_take, List.length_take,
      List.length_drop] at hLength
    omega
  refine ⟨hClip, ?_⟩
  have hInText := find_occursAt hIndex0
  rcases text_isPrefix (ackCopy live (start + length)) with
    ⟨hidden, hCopy⟩
  have hInCopy := occursAt_append_of_occursAt hidden hInText
  rw [hCopy] at hInCopy
  have hClear := (occursAt_text_iff (by decide) (by decide)
    hInCopy).mp hInText
  rwa [ackCopy, List.take_take, min_eq_left (by omega)]
    at hClear

/- What was copied and found is handed over as a whole. -/
theorem takesNmea_of_copied
    {start length : Nat}
    (hStart : find cmdHeader live = some start)
    (hEnd : find crlf (live.drop start) = some length)
    (hFive : 5 ≤ length)
    (hFits : start + length + 2 ≤ live.length)
    (hClip : start + (length + 2) ≤ nmeaFrameBufferLength)
    (hNul : 0 ∉ live.take start) :
    TakesNmea live (ackBytes live start (length + 2)) := by
  have hHeader := find_occursAt hStart
  have hCopy : ackCopy live (start + length) =
      live.take (start + length + 2) :=
    ackCopy_eq_take (by omega)
  have hInCopy : OccursAt cmdHeader
      (live.take (start + length + 2)) start := by
    rw [← List.take_append_drop (start + length + 2) live,
      occursAt_append_iff_of_fits] at hHeader
    · exact hHeader
    · rw [List.length_take, length_cmdHeader]
      omega
  have hInText := (occursAt_text_iff (by decide) (by decide)
    hInCopy).mpr (by
      rwa [List.take_take, min_eq_left (by omega)])
  refine ⟨start, length, start,
    { start_eq := hStart
      length_eq := hEnd
      index0_eq := ?_
      ack_eq := ?_ }⟩
  · apply (find_eq_some_iff_of_isPrefix (by decide)
      (text_ackCopy_isPrefix live (start + length))).mpr
    refine ⟨hStart, ?_⟩
    rw [hCopy]
    exact hInText.add_length_le (by decide)
  · rw [hCopy, ackBytes, List.drop_take]
    congr 1
    omega

theorem takesNmea_iff
    {start length : Nat}
    (hFirst : FirstAck live start (length + 2))
    (hHeader : OccursAt cmdHeader live start)
    (hEnd : find crlf (live.drop start) = some length) :
    TakesNmea live (ackBytes live start (length + 2)) ↔
      start + (length + 2) ≤ nmeaFrameBufferLength ∧
        0 ∉ live.take start := by
  have hStart := find_cmdHeader_of_first hFirst hHeader hEnd
  have hCrlf := occursAt_drop.mp (find_occursAt hEnd)
  have hFits := hCrlf.add_length_le (by decide)
  rw [length_crlf] at hFits
  have hFive := nmea_header_le hHeader hCrlf
  constructor
  · exact copied_of_takesNmea hStart hEnd hFits
  · intro hBoth
    exact takesNmea_of_copied hStart hEnd hFive hFits
      hBoth.1 hBoth.2

end Gps

------------------------------------------------------------
-- Binary Acks
------------------------------------------------------------

namespace Gps

variable {live : List UInt8}

/- The two headers begin with different bytes. -/
theorem not_both_headers
    {start : Nat}
    (hNmea : OccursAt cmdHeader live start)
    (hBinary : OccursAt cmdBinaryHeader live start) :
    False := by
  have hByte := hNmea.getElem?_eq hBinary (a := 0) (b := 0)
    (by decide) (by decide) rfl
  exact absurd hByte (by decide)

/- The bytes of a binary ack are one, wherever they stand. -/
theorem ackAt_of_ackBytes_eq
    {start start' length : Nat}
    (hAck : AckAt live start length)
    (hHeader : OccursAt cmdBinaryHeader live start)
    (hFits' : start' + length ≤ live.length)
    (hSame : ackBytes live start' length =
      ackBytes live start length) :
    AckAt live start' length := by
  cases hAck with
  | nmea hNmea =>
      exact (not_both_headers hNmea hHeader).elim
  | binary _ hField hLength hFits hEnd =>
      have hAgree : ∀ k, k < length →
          live[start' + k]? = live[start + k]? := by
        intro k hk
        have hAt := congrArg (fun bytes => bytes[k]?) hSame
        simp only [ackBytes, List.getElem?_take_of_lt hk,
          List.getElem?_drop] at hAt
        exact hAt
      refine .binary ?_ ?_ hLength hFits' ?_
      · rw [occursAt_iff_getElem?] at hHeader ⊢
        intro k hk
        rw [length_cmdBinaryHeader] at hk
        rw [hAgree k (by omega)]
        exact hHeader k hk
      · rw [← hField]
        simp only [lengthField, List.getD_eq_getElem?_getD,
          List.getElem?_drop, hAgree 2 (by omega),
          hAgree 3 (by omega)]
      · rw [occursAt_iff_getElem?] at hEnd ⊢
        intro k hk
        rw [length_crlf] at hk
        have hByte := hAgree (length - 2 + k) (by omega)
        rw [← Nat.add_assoc, ← Nat.add_assoc,
          ← Nat.add_sub_assoc (by omega),
          ← Nat.add_sub_assoc (by omega)] at hByte
        rw [hByte]
        exact hEnd k hk

theorem copied_of_takesBinary
    {start length : Nat}
    (hFirst : FirstAck live start length)
    (hHeader : OccursAt cmdBinaryHeader live start)
    (hLength : 6 ≤ length)
    (hFits : start + length ≤ live.length)
    (hTakes : TakesBinary live (ackBytes live start length)) :
    start + length ≤ nmeaFrameBufferLength ∧
      (∀ i, i < start →
        ¬ OccursAt cmdBinaryHeader live i) ∧
      ∀ stop, start ≤ stop → stop + 2 < start + length →
        ¬ OccursAt crlf live stop := by
  rcases hTakes with ⟨start', length', index0, hTakes⟩
  have hCrlf := occursAt_drop.mp
    (find_occursAt hTakes.length_eq)
  have hFound := (find_eq_some_iff_of_isPrefix (by decide)
    (ackCopy_isPrefix live (start' + length'))).mp
      hTakes.index0_eq
  cases hTakes.start_eq.symm.trans hFound.1
  have hCopyFits := hFound.2
  have hCrlfFits := hCrlf.add_length_le (by decide)
  rw [length_cmdBinaryHeader, ackCopy, List.length_take]
    at hCopyFits
  rw [length_crlf] at hCrlfFits
  have hCount : start' + length =
      min (start' + length' + 2) nmeaFrameBufferLength := by
    have hCounts := congrArg List.length hTakes.ack_eq
    rw [ackBytes, ackCopy, List.length_drop,
      List.length_take, List.length_take,
      List.length_drop] at hCounts
    omega
  have hSame : ackBytes live start' length =
      ackBytes live start length := by
    rw [← hTakes.ack_eq, ackCopy, List.drop_take, ackBytes]
    congr 1
    omega
  -- the bytes handed over are a complete ack themselves
  have hAck := ackAt_of_ackBytes_eq hFirst.ack hHeader
    (by omega) hSame
  have hGe := hFirst.first start' length hAck
  have hLe := find_le_of_occursAt hTakes.start_eq hHeader
  cases Nat.le_antisymm hLe hGe
  refine ⟨by omega, ?_, ?_⟩
  · exact (find_eq_some_iff.mp hTakes.start_eq).2.2
  · intro stop hStop hInside hAt
    have hRest :
        OccursAt crlf (live.drop start) (stop - start) := by
      rw [occursAt_drop, Nat.add_sub_of_le hStop]
      exact hAt
    have hLater :=
      find_le_of_occursAt hTakes.length_eq hRest
    omega

theorem takesBinary_of_copied
    {start length : Nat}
    (hHeader : OccursAt cmdBinaryHeader live start)
    (hLength : 6 ≤ length)
    (hFits : start + length ≤ live.length)
    (hEnd : OccursAt crlf live (start + length - 2))
    (hClip : start + length ≤ nmeaFrameBufferLength)
    (hNoHeader : ∀ i, i < start →
      ¬ OccursAt cmdBinaryHeader live i)
    (hNoEnd :
      ∀ stop, start ≤ stop → stop + 2 < start + length →
        ¬ OccursAt crlf live stop) :
    TakesBinary live (ackBytes live start length) := by
  have hStart : find cmdBinaryHeader live = some start :=
    find_eq_some_iff.mpr ⟨hHeader, by omega, hNoHeader⟩
  have hCrlf :
      find crlf (live.drop start) = some (length - 2) := by
    apply (find_drop_eq_some_iff (by omega)).mpr
    rw [← Nat.add_sub_assoc (by omega)]
    refine ⟨hEnd, by omega, ?_⟩
    intro stop hStop hInside
    exact hNoEnd stop hStop (by omega)
  have hStop : start + (length - 2) + 2 = start + length := by
    omega
  have hCopy : ackCopy live (start + (length - 2)) =
      live.take (start + length) := by
    rw [ackCopy_eq_take (by omega), hStop]
  refine ⟨start, length - 2, start,
    { start_eq := hStart
      length_eq := hCrlf
      index0_eq := ?_
      ack_eq := ?_ }⟩
  · apply (find_eq_some_iff_of_isPrefix (by decide)
      (ackCopy_isPrefix live _)).mpr
    refine ⟨hStart, ?_⟩
    rw [hCopy, List.length_take, length_cmdBinaryHeader]
    omega
  · rw [hCopy, ackBytes, List.drop_take,
      Nat.add_sub_cancel_left]

theorem takesBinary_iff
    {start length : Nat}
    (hFirst : FirstAck live start length)
    (hHeader : OccursAt cmdBinaryHeader live start)
    (hLength : 6 ≤ length)
    (hFits : start + length ≤ live.length)
    (hEnd : OccursAt crlf live (start + length - 2)) :
    TakesBinary live (ackBytes live start length) ↔
      start + length ≤ nmeaFrameBufferLength ∧
        (∀ i, i < start →
          ¬ OccursAt cmdBinaryHeader live i) ∧
        ∀ stop, start ≤ stop → stop + 2 < start + length →
          ¬ OccursAt crlf live stop := by
  constructor
  · exact copied_of_takesBinary hFirst hHeader hLength hFits
  · intro hAll
    rcases hAll with ⟨hClip, hNoHeader, hNoEnd⟩
    exact takesBinary_of_copied hHeader hLength hFits hEnd
      hClip hNoHeader hNoEnd

end Gps

------------------------------------------------------------
-- The First Ack
------------------------------------------------------------

namespace Gps

variable {live : List UInt8}

/-
  When the first complete ack is handed over: its copy is
  not clipped, and its header is the one that both searches
  of the code find.
-/
structure Extractable
    (live : List UInt8)
    (start length : Nat) : Prop where
  copied : start + length ≤ nmeaFrameBufferLength
  found :
    OccursAt cmdHeader live start ∧
        0 ∉ live.take start ∨
      OccursAt cmdBinaryHeader live start ∧
        ¬ Occurs cmdHeader live ∧
        (∀ i, i < start →
          ¬ OccursAt cmdBinaryHeader live i) ∧
        ∀ stop, start ≤ stop → stop + 2 < start + length →
          ¬ OccursAt crlf live stop

/- What the NMEA branch hands over begins with a '$'. -/
theorem dollar_of_takesNmea
    {ack : List UInt8}
    (hTakes : TakesNmea live ack) :
    ack[0]? = some (byte '$') := by
  rcases hTakes with ⟨start, length, index0, hTakes⟩
  have hInText :
      OccursAt cmdHeader
        (text (ackCopy live (start + length))) index0 :=
    find_occursAt hTakes.index0_eq
  rcases text_isPrefix (ackCopy live (start + length)) with
    ⟨hidden, hCopy⟩
  have hInCopy := occursAt_append_of_occursAt hidden hInText
  rw [hCopy] at hInCopy
  have hByte := hInCopy.getElem?_add (k := 0) (by decide)
  rw [← hTakes.ack_eq, List.getElem?_drop]
  exact hByte

theorem takes_iff_extractable
    {start length : Nat}
    (hFirst : FirstAck live start length) :
    TakesNmea live (ackBytes live start length) ∨
        ¬ Occurs cmdHeader live ∧
          TakesBinary live (ackBytes live start length) ↔
      Extractable live start length := by
  cases hFirst.ack with
  | nmea hHeader hEnd =>
      have hOccurs : Occurs cmdHeader live := ⟨_, hHeader⟩
      rw [takesNmea_iff hFirst hHeader hEnd]
      constructor
      · intro hTakes
        rcases hTakes with hNmea | hBinary
        · exact ⟨hNmea.1, Or.inl ⟨hHeader, hNmea.2⟩⟩
        · exact absurd hOccurs hBinary.1
      · intro hExtractable
        rcases hExtractable.found with hNmea | hBinary
        · exact Or.inl ⟨hExtractable.copied, hNmea.2⟩
        · exact absurd hOccurs hBinary.2.1
  | binary hHeader hField hLength hFits hEnd =>
      have hNotNmea :
          ¬ TakesNmea live (ackBytes live start length) := by
        intro hTakes
        have hDollar := dollar_of_takesNmea hTakes
        have hByte :=
          hHeader.getElem?_add (k := 0) (by decide)
        rw [ackBytes, List.getElem?_take_of_lt (by omega),
          List.getElem?_drop, hByte] at hDollar
        exact absurd hDollar (by decide)
      rw [takesBinary_iff hFirst hHeader hLength hFits hEnd]
      constructor
      · intro hTakes
        rcases hTakes with hNmea | hBinary
        · exact absurd hNmea hNotNmea
        · rcases hBinary with ⟨hNone, hClip, hNoHeader, hNoEnd⟩
          exact ⟨hClip,
            Or.inr ⟨hHeader, hNone, hNoHeader, hNoEnd⟩⟩
      · intro hExtractable
        rcases hExtractable.found with hNmea | hBinary
        · exact (not_both_headers hNmea.1 hHeader).elim
        · rcases hBinary with ⟨_, hNone, hNoHeader, hNoEnd⟩
          exact Or.inr ⟨hNone,
            hExtractable.copied, hNoHeader, hNoEnd⟩

/-
  With a command in flight, `GPS_Update` hands over the
  first complete ack of the live bytes exactly when it is
  extractable.
-/
theorem update_hands_over_iff_extractable
    {s : State}
    (hInFlight : s.semCmdSending = true)
    (data : List UInt8)
    {start length : Nat}
    (hFirst :
      FirstAck (received s.live data) start length) :
    (∃ result,
      Updates true s data result ∧
        HandedOver
          (ackBytes (received s.live data) start length)
          result) ↔
      Extractable (received s.live data) start length := by
  rw [updates_handedOver_iff hInFlight,
    takes_iff_extractable hFirst]

/- A command was sent while the buffer was empty. -/
def bootInFlight : State :=
  { boot with semCmdSending := true }

theorem received_bootInFlight
    {chunk : List UInt8}
    (hShort : chunk.length < dataBufferMaxLength) :
    received bootInFlight.live chunk = chunk := by
  have hLive : bootInFlight.live = [] := live_boot
  rw [hLive, received, u16_length_of_short hShort,
    List.take_length]
  simp [hShort]

/- An ack that arrives alone. -/
theorem update_hands_over_lone_ack :
    ∃ result,
      Updates true bootInFlight
          (ascii "$PGKC001,30,3*2C\r\n") result ∧
        HandedOver (ascii "$PGKC001,30,3*2C\r\n") result := by
  have hReceived := received_bootInFlight
    (show (ascii "$PGKC001,30,3*2C\r\n").length <
      dataBufferMaxLength by decide)
  have hFirst : FirstAck (received bootInFlight.live
      (ascii "$PGKC001,30,3*2C\r\n")) 0 18 := by
    rw [hReceived]
    exact
      { ack := .nmea (by decide) (by decide)
        first := fun _ _ _ => Nat.zero_le _ }
  have hHands :=
    (update_hands_over_iff_extractable rfl _ hFirst).mpr (by
      rw [hReceived]
      exact ⟨by decide, Or.inl ⟨by decide, by decide⟩⟩)
  rw [hReceived] at hHands
  exact hHands

/- A NUL byte of noise hides the ack from `strstr`. -/
theorem nul_hides_ack :
    FirstAck (received bootInFlight.live
        (0 :: ascii "$PGKC001,30,3*2C\r\n")) 1 18 ∧
      ¬ ∃ result,
        Updates true bootInFlight
            (0 :: ascii "$PGKC001,30,3*2C\r\n") result ∧
          HandedOver (ascii "$PGKC001,30,3*2C\r\n")
            result := by
  have hReceived := received_bootInFlight
    (show (0 :: ascii "$PGKC001,30,3*2C\r\n").length <
      dataBufferMaxLength by decide)
  have hFirst : FirstAck
      (0 :: ascii "$PGKC001,30,3*2C\r\n") 1 18 :=
    { ack := .nmea (by decide) (by decide)
      first := by
        intro start' length' hAck
        by_contra hZero
        have hStart : start' = 0 := by omega
        subst hStart
        cases hAck with
        | nmea hHeader => exact absurd hHeader (by decide)
        | binary hHeader => exact absurd hHeader (by decide) }
  rw [hReceived]
  refine ⟨hFirst, ?_⟩
  rw [updates_handedOver_iff rfl, hReceived]
  intro hTakes
  have hExtractable := (takes_iff_extractable hFirst).mp hTakes
  rcases hExtractable.found with hNmea | hBinary
  · exact absurd hNmea.2 (by decide)
  · exact absurd hBinary.1 (by decide)

end Gps
