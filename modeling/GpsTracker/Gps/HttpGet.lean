import GpsTracker.Lib.Loop
import GpsTracker.Lib.Machine
import GpsTracker.Utils.Socket

/-
  `Http_Get` of `libs/gps/src/gps.c`, and the segments in
  which a response arrives.

  The receiving loop takes the first segment shorter than
  1352 bytes for the end of the response, and the end of
  the connection for an error.

  Main declarations:
    * `Gps.getBody`, `Gps.HttpGets`
    * `Gps.gather`, `Gps.httpGets_responds_iff`
    * `Gps.Gathered`
    * `Gps.httpGet_same_whole_iff`
-/

open CString Machine

------------------------------------------------------------
-- The Function
------------------------------------------------------------

namespace Gps

/- The state at the top of the receiving loop. -/
structure GetState where
  turns : Nat
  recvLen : Nat
  retBuffer : List UInt8

/-
  What `Http_Get` leaves behind: its value, the buffer and
  the length in `*bufferLen`, and how often it has closed
  the socket.
-/
structure GetResult where
  value : Int
  retBuffer : List UInt8
  bufferLen : Nat
  closes : Nat
deriving DecidableEq

/- The way out of `Http_Get` with an error. -/
def getFailed
    (retBuffer : List UInt8)
    (closes : Nat) : GetResult :=
  { value := -1
    retBuffer := retBuffer
    bufferLen := retBuffer.length
    closes := closes }

/- One turn of the receiving loop. -/
def getBody
    (network : Network)
    (s : GetState) : LoopStep GetState GetResult :=
  match network.turn s.turns with
  | .selectError => .done (getFailed s.retBuffer 1)
  | .selectTimeout => .done (getFailed s.retBuffer 1)
  | .notSet => .next { s with turns := s.turns + 1 }
  | .recvError =>
      .done (getFailed (store s.retBuffer s.recvLen []) 1)
  | .received data =>
      let retBuffer := store s.retBuffer s.recvLen data
      let recvLen := u16 (s.recvLen + data.length)
      if data.length = 0 then
        .done (getFailed retBuffer 1)
      else if data.length < 1352 then
        .done
          { value := recvLen
            retBuffer := retBuffer
            bufferLen := recvLen
            closes := 1 }
      else
        .next
          { turns := s.turns + 1
            recvLen := recvLen
            retBuffer := retBuffer }

/- The request that is written to the buffer. -/
def getRequest (domain path : List UInt8) : List UInt8 :=
  ascii "GET " ++ path ++ ascii " HTTP/1.1\r\nHost: " ++
    domain ++ ascii "\r\n\r\n"

/- `Http_Get` up to its receiving loop. -/
def getStart
    (network : Network)
    (domain path retBuffer : List UInt8) :
    LoopStep GetState GetResult :=
  if ¬ network.dns then
    .done (getFailed retBuffer 0)
  else
    let retBuffer :=
      snprintf retBuffer (getRequest domain path)
    if ¬ network.socket then
      .done (getFailed retBuffer 0)
    else if ¬ network.connect then
      .done (getFailed retBuffer 1)
    else if ¬ network.send 0 then
      .done (getFailed retBuffer 1)
    else
      .next
        { turns := 0
          recvLen := 0
          retBuffer := retBuffer }

/-
  `Http_Get` returns; the length of `retBuffer` is the one
  the caller passes in `*bufferLen`.
-/
def HttpGets
    (network : Network)
    (domain path retBuffer : List UInt8)
    (result : GetResult) : Prop :=
  match getStart network domain path retBuffer with
  | .done failed => failed = result
  | .next s => Loop.Returns (getBody network) s result

end Gps

------------------------------------------------------------
-- Receiving Segments
------------------------------------------------------------

namespace Gps

/- The loop over the segments of a response. -/
def gather
    (segments : List (List UInt8))
    (recvLen : Nat)
    (retBuffer : List UInt8) : GetResult :=
  match segments with
  | [] => getFailed (store retBuffer recvLen []) 1
  | data :: segments =>
      let retBuffer := store retBuffer recvLen data
      let recvLen := u16 (recvLen + data.length)
      if data.length = 0 then
        getFailed retBuffer 1
      else if data.length < 1352 then
        { value := recvLen
          retBuffer := retBuffer
          bufferLen := recvLen
          closes := 1 }
      else
        gather segments recvLen retBuffer

theorem returns_gather
    {network : Network}
    {segments : List (List UInt8)}
    {turns : Nat}
    (hTurns : ∀ j, network.turn (turns + j) =
      .received (segments.getD j []))
    (recvLen : Nat)
    (retBuffer : List UInt8) :
    Loop.Returns (getBody network)
      ⟨turns, recvLen, retBuffer⟩
      (gather segments recvLen retBuffer) := by
  induction segments generalizing turns recvLen retBuffer with
  | nil =>
      apply Loop.returns_of_done
      have hTurn := hTurns 0
      simp only [Nat.add_zero, List.getD_nil] at hTurn
      simp [getBody, hTurn, gather]
  | cons data segments ih =>
      have hTurn := hTurns 0
      simp only [Nat.add_zero, List.getD_cons_zero] at hTurn
      by_cases hEmpty : data.length = 0
      · apply Loop.returns_of_done
        simp only [getBody, hTurn, gather, if_pos hEmpty]
      · by_cases hShort : data.length < 1352
        · apply Loop.returns_of_done
          simp only [getBody, hTurn, gather, if_neg hEmpty,
            if_pos hShort]
        · have hNext : getBody network
              ⟨turns, recvLen, retBuffer⟩ =
              .next ⟨turns + 1, u16 (recvLen + data.length),
                store retBuffer recvLen data⟩ := by
            simp only [getBody, hTurn, if_neg hEmpty,
              if_neg hShort]
          rw [Loop.returns_iff_of_next hNext]
          simp only [gather, if_neg hEmpty, if_neg hShort]
          apply ih
          intro j
          have hLater := hTurns (j + 1)
          rw [List.getD_cons_succ] at hLater
          rw [← hLater]
          congr 1
          omega

/- The buffer when the receiving loop begins. -/
def requested (domain path retBuffer : List UInt8) :
    List UInt8 :=
  snprintf retBuffer (getRequest domain path)

theorem httpGets_responds_iff
    {segments : List (List UInt8)}
    {domain path retBuffer : List UInt8}
    {result : GetResult} :
    HttpGets (Network.responds segments) domain path retBuffer
        result ↔
      gather segments 0 (requested domain path retBuffer) =
        result := by
  have hTurns (j : Nat) :
      (Network.responds segments).turn (0 + j) =
        .received (segments.getD j []) := by
    rw [Nat.zero_add]
    rfl
  have hReturns := returns_gather hTurns 0
    (requested domain path retBuffer)
  constructor
  · intro hGets
    exact Loop.returns_unique hReturns hGets
  · rintro rfl
    exact hReturns

end Gps

------------------------------------------------------------
-- Whole Responses
------------------------------------------------------------

namespace Gps

/- The result that has the whole response, and zeros. -/
structure Whole
    (response : List UInt8)
    (retBufferLen : Nat)
    (result : GetResult) : Prop where
  value : result.value = response.length
  retBuffer : result.retBuffer =
    response ++ List.replicate (retBufferLen - response.length) 0
  bufferLen : result.bufferLen = response.length

/-
  The segments that the loop takes to the end: only the last
  one is shorter than 1352 bytes, and their length fits the
  `uint16_t` that counts it.
-/
def Gathered (segments : List (List UInt8)) : Prop :=
  (∃ full last,
    segments = full ++ [last] ∧
      (∀ data ∈ full, 1352 ≤ data.length) ∧
      last.length < 1352) ∧
    segments.flatten.length < 65536

theorem gathered_iff_of_full
    {data : List UInt8}
    {segments : List (List UInt8)}
    (hFull : 1352 ≤ data.length) :
    (∃ full last, data :: segments = full ++ [last] ∧
        (∀ data ∈ full, 1352 ≤ data.length) ∧
        last.length < 1352) ↔
      ∃ full last, segments = full ++ [last] ∧
        (∀ data ∈ full, 1352 ≤ data.length) ∧
        last.length < 1352 := by
  constructor
  · intro hParts
    rcases hParts with ⟨full, last, hSegments, hLong, hLast⟩
    cases full with
    | nil =>
        rw [List.nil_append] at hSegments
        obtain ⟨rfl, _⟩ := List.cons.inj hSegments
        omega
    | cons first full =>
        rw [List.cons_append] at hSegments
        obtain ⟨_, hTail⟩ := List.cons.inj hSegments
        exact ⟨full, last, hTail,
          fun data hMem =>
            hLong data (List.mem_cons_of_mem _ hMem),
          hLast⟩
  · intro hParts
    rcases hParts with ⟨full, last, rfl, hLong, hLast⟩
    refine ⟨data :: full, last, rfl, ?_, hLast⟩
    intro other hMem
    rcases List.mem_cons.mp hMem with rfl | hMem
    · exact hFull
    · exact hLong other hMem

theorem exists_last_iff_of_short
    {data : List UInt8}
    {segments : List (List UInt8)}
    (hShort : data.length < 1352) :
    (∃ full last, data :: segments = full ++ [last] ∧
        (∀ data ∈ full, 1352 ≤ data.length) ∧
        last.length < 1352) ↔
      segments = [] := by
  constructor
  · intro hParts
    rcases hParts with ⟨full, last, hSegments, hLong, hLast⟩
    cases full with
    | nil =>
        rw [List.nil_append] at hSegments
        exact (List.cons.inj hSegments).2
    | cons first full =>
        rw [List.cons_append] at hSegments
        obtain ⟨rfl, _⟩ := List.cons.inj hSegments
        have hFirst := hLong data List.mem_cons_self
        omega
  · rintro rfl
    exact ⟨[], data, rfl, by simp, hShort⟩

theorem pieces_cons
    {data : List UInt8}
    {segments : List (List UInt8)}
    (hPieces : [] ∉ data :: segments) :
    data.length ≠ 0 ∧ [] ∉ segments := by
  rw [List.mem_cons, not_or] at hPieces
  refine ⟨?_, hPieces.2⟩
  intro hZero
  exact hPieces.1 (List.eq_nil_of_length_eq_zero hZero).symm

theorem flatten_length_eq_zero_iff
    {segments : List (List UInt8)}
    (hPieces : [] ∉ segments) :
    segments.flatten.length = 0 ↔ segments = [] := by
  cases segments with
  | nil => simp
  | cons data segments =>
      have hData : data ≠ [] := by
        rintro rfl
        exact hPieces List.mem_cons_self
      simp [hData]

/- The value counts the whole response. -/
theorem value_gather_eq_iff
    {segments : List (List UInt8)}
    (hPieces : [] ∉ segments)
    (before : Nat)
    (retBuffer : List UInt8) :
    (gather segments (u16 before) retBuffer).value =
        ((before + segments.flatten.length : Nat) : Int) ↔
      (∃ full last, segments = full ++ [last] ∧
        (∀ data ∈ full, 1352 ≤ data.length) ∧
        last.length < 1352) ∧
      before + segments.flatten.length < 65536 := by
  induction segments generalizing before retBuffer with
  | nil =>
      simp [gather, getFailed]
  | cons data segments ih =>
      rcases pieces_cons hPieces with ⟨hData, hTail⟩
      have hCount : u16 ((u16 before : Nat) + data.length) =
          u16 ((before + data.length : Nat) : Int) := by
        unfold u16 wrap
        omega
      have hLength :
          before + (data :: segments).flatten.length =
            before + data.length +
              segments.flatten.length := by
        simp [Nat.add_assoc]
      rw [gather, if_neg hData, hCount, hLength]
      split
      · next hShort =>
          rw [exists_last_iff_of_short hShort,
            ← flatten_length_eq_zero_iff hTail]
          change ((u16 ((before + data.length : Nat) : Int) :
            Nat) : Int) = _ ↔ _
          rw [u16, wrap_natCast]
          omega
      · next hLong =>
          rw [ih hTail, gathered_iff_of_full (by omega)]

/- What is in the buffer when all segments were taken. -/
theorem retBuffer_gather
    {segments : List (List UInt8)}
    (hPieces : [] ∉ segments)
    (hLast : ∃ full last, segments = full ++ [last] ∧
      (∀ data ∈ full, 1352 ≤ data.length) ∧
      last.length < 1352)
    {got retBuffer : List UInt8}
    (hGot : retBuffer.take got.length = got)
    (hFits : got.length + segments.flatten.length ≤
      retBuffer.length)
    (hCount : got.length + segments.flatten.length < 65536) :
    let result := gather segments got.length retBuffer
    result.retBuffer =
        got ++ segments.flatten ++
          List.replicate (retBuffer.length - got.length -
            segments.flatten.length) 0 ∧
      result.bufferLen =
        got.length + segments.flatten.length := by
  induction segments generalizing got retBuffer with
  | nil =>
      rcases hLast with ⟨full, last, hNil, _⟩
      simp at hNil
  | cons data segments ih =>
      rcases pieces_cons hPieces with ⟨hData, hTail⟩
      simp only [List.flatten_cons, List.length_append]
        at hFits hCount
      have hWrap : u16 ((got.length : Int) + data.length) =
          got.length + data.length := by
        unfold u16 wrap
        omega
      simp only [gather, if_neg hData, hWrap]
      split
      · next hShort =>
          have hNil := (exists_last_iff_of_short hShort).mp hLast
          subst hNil
          simp [store, hGot]
      · next hLong =>
          have hTake : (store retBuffer got.length data).take
              (got ++ data).length = got ++ data := by
            rw [List.length_append, take_store (by omega), hGot]
          have hLength := length_store
            (show got.length + data.length ≤
              retBuffer.length by omega)
          have hLater := ih hTail
            ((gathered_iff_of_full (by omega)).mp hLast) hTake
            (by rw [List.length_append, hLength]; omega)
            (by rw [List.length_append]; omega)
          rw [List.length_append, hLength] at hLater
          refine ⟨?_, ?_⟩
          · rw [hLater.1]
            simp only [List.flatten_cons, List.append_assoc,
              List.length_append]
            congr 3
            congr 1
            omega
          · rw [hLater.2]
            simp only [List.flatten_cons, List.length_append]
            omega

theorem closes_gather
    (segments : List (List UInt8))
    (recvLen : Nat)
    (retBuffer : List UInt8) :
    (gather segments recvLen retBuffer).closes = 1 := by
  induction segments generalizing recvLen retBuffer with
  | nil => rfl
  | cons data segments ih =>
      rw [gather]
      split
      · rfl
      · split
        · rfl
        · exact ih _ _

theorem Whole.ext
    {response : List UInt8}
    {retBufferLen : Nat}
    {left right : GetResult}
    (hLeft : Whole response retBufferLen left)
    (hRight : Whole response retBufferLen right)
    (hCloses : left.closes = right.closes) :
    left = right := by
  cases left
  cases right
  simp only [GetResult.mk.injEq]
  exact ⟨hLeft.value.trans hRight.value.symm,
    hLeft.retBuffer.trans hRight.retBuffer.symm,
    hLeft.bufferLen.trans hRight.bufferLen.symm, hCloses⟩

/- One run has the whole response exactly when gathered. -/
theorem whole_gather_iff
    {segments : List (List UInt8)}
    (hPieces : [] ∉ segments)
    {retBuffer : List UInt8}
    (hFits : segments.flatten.length < retBuffer.length) :
    Whole segments.flatten retBuffer.length
        (gather segments 0 retBuffer) ↔
      Gathered segments := by
  have hValue := value_gather_eq_iff hPieces 0 retBuffer
  have hZero : u16 ((0 : Nat) : Int) = 0 := rfl
  rw [hZero, Nat.zero_add] at hValue
  constructor
  · intro hWhole
    exact hValue.mp hWhole.value
  · intro hGathered
    have hGot : retBuffer.take ([] : List UInt8).length = [] :=
      List.take_zero
    have hRest := retBuffer_gather hPieces hGathered.1 hGot
      (by simpa using hFits.le) (by simpa using hGathered.2)
    simp only [List.length_nil, List.nil_append, Nat.zero_add,
      Nat.sub_zero] at hRest
    exact
      { value := hValue.mpr hGathered
        retBuffer := hRest.1
        bufferLen := hRest.2 }

/-
  Two ways to cut one response into segments give the same
  result, with the whole response, exactly when the loop
  takes both of them to the end.
-/
theorem httpGet_same_whole_iff
    {first second : List (List UInt8)}
    (hFirst : [] ∉ first)
    (hSecond : [] ∉ second)
    (hSame : first.flatten = second.flatten)
    (domain path : List UInt8)
    {retBuffer : List UInt8}
    (hFits : first.flatten.length < retBuffer.length) :
    (∃ result,
      HttpGets (Network.responds first) domain path retBuffer
          result ∧
        HttpGets (Network.responds second) domain path
          retBuffer result ∧
        Whole first.flatten retBuffer.length result) ↔
      Gathered first ∧ Gathered second := by
  have hLength : (requested domain path retBuffer).length =
      retBuffer.length := length_snprintf (by omega) _
  have hFirstIff := whole_gather_iff hFirst (by rwa [hLength])
  have hSecondIff := whole_gather_iff hSecond
    (by rwa [hLength, ← hSame])
  rw [hLength] at hFirstIff hSecondIff
  rw [← hFirstIff, ← hSecondIff, ← hSame]
  constructor
  · intro hBoth
    rcases hBoth with ⟨result, hLeft, hRight, hWhole⟩
    rw [httpGets_responds_iff] at hLeft hRight
    rw [hLeft, hRight]
    exact ⟨hWhole, hWhole⟩
  · intro hBoth
    rcases hBoth with ⟨hLeft, hRight⟩
    refine ⟨_, httpGets_responds_iff.mpr rfl, ?_, hLeft⟩
    rw [httpGets_responds_iff]
    exact hRight.ext hLeft (by
      rw [closes_gather, closes_gather])

/- A response with a full segment, cut in two ways. -/
theorem httpGet_same_whole_two_cuts :
    ∃ full retBuffer : List UInt8,
      full.length = 1352 ∧ retBuffer.length = 5120 ∧
      ∃ result,
        HttpGets (Network.responds [full, [7, 7]]) [] []
            retBuffer result ∧
          HttpGets (Network.responds [full ++ [7], [7]]) [] []
            retBuffer result ∧
          Whole [full, [7, 7]].flatten retBuffer.length
            result := by
  have hCuts (full retBuffer : List UInt8)
      (hFull : full.length = 1352)
      (hRetBuffer : retBuffer.length = 5120) :
      ∃ result,
        HttpGets (Network.responds [full, [7, 7]]) [] []
            retBuffer result ∧
          HttpGets (Network.responds [full ++ [7], [7]]) [] []
            retBuffer result ∧
          Whole [full, [7, 7]].flatten retBuffer.length
            result := by
    have hFullNe : full ≠ [] := by
      rintro rfl
      cases hFull
    refine (httpGet_same_whole_iff
      (show [] ∉ [full, [7, 7]] by simp [hFullNe.symm])
      (show [] ∉ [full ++ [7], [7]] by simp)
      (by simp) [] [] (by simp [hFull, hRetBuffer])).mpr ?_
    refine ⟨⟨⟨[full], [7, 7], rfl, ?_, ?_⟩, ?_⟩,
      ⟨⟨[full ++ [7]], [7], rfl, ?_, ?_⟩, ?_⟩⟩
    all_goals simp [hFull]
  exact ⟨List.replicate 1352 7, List.replicate 5120 0,
    List.length_replicate, List.length_replicate,
    hCuts _ _ List.length_replicate List.length_replicate⟩

/- A short first segment is taken for the whole response. -/
theorem short_segment_truncates :
    ¬ ∃ result,
      HttpGets
          (Network.responds
            [ascii "HTTP/1.1 200 OK\r\n\r\n", ascii "GPD"])
          [] [] (List.replicate 5120 0) result ∧
        HttpGets
          (Network.responds
            [ascii "HTTP/1.1 200 OK\r\n\r\nGPD"])
          [] [] (List.replicate 5120 0) result ∧
        Whole (ascii "HTTP/1.1 200 OK\r\n\r\nGPD") 5120
          result := by
  intro hBoth
  rcases hBoth with ⟨result, hFirst, _, hWhole⟩
  rw [httpGets_responds_iff] at hFirst
  have hValue := hWhole.value
  rw [← hFirst] at hValue
  have hShort : (gather
      [ascii "HTTP/1.1 200 OK\r\n\r\n", ascii "GPD"] 0
      (requested [] [] (List.replicate 5120 0))).value = 19 :=
    rfl
  rw [hShort] at hValue
  exact absurd hValue (by decide)

end Gps
