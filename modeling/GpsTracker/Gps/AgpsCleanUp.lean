import GpsTracker.Gps.AgpsPacks

/-
  What `GPS_AGPS` leaves behind.

  The early exits free the download buffer; the exits from
  the upload do not, and the one behind a lost ack of the
  binary mode does not go back to the NMEA mode either.

  Main declarations:
    * `Gps.CleanedUp`, `Gps.unrestored`
    * `Gps.Uploaded`, `Gps.agps_cleans_up_iff`
    * `Gps.exists_agpsReturns`
-/

open CString Machine

------------------------------------------------------------
-- Cleaning Up
------------------------------------------------------------

namespace Gps

variable {env : Agps}

/-
  The module may be in binary mode, and nobody has tried to
  set the NMEA mode since.
-/
def unrestored (actions : List Action) : Bool :=
  actions.foldl
    (fun pending action =>
      match action with
      | .setBinaryMode e => pending || e.executed
      | .setNmeaMode _ => false
      | _ => pending)
    false

/-
  The download buffer was freed as often as it was
  allocated, and the NMEA mode was tried after the binary
  mode.
-/
structure CleanedUp (actions : List Action) : Prop where
  freed : actions.count .free = actions.count (.malloc true)
  restored : unrestored actions = false

/- There is no body to send. -/
def NothingToSend (env : Agps) : Prop :=
  env.downloadGpd = false ∨ env.malloc = false ∨
    env.download.value < 0 ∨
    findGpdData env.download.retBuffer = none

/- The packs that the send loop sends, the end marker too. -/
def packsSent
    (env : Agps)
    (indexBody : Nat) : Nat :=
  paddedLen (gpdLen env.download indexBody) / 512 + 2

/- Every exchange of an upload succeeds in the end. -/
def Uploaded
    (env : Agps)
    (indexBody : Nat) : Prop :=
  env.binaryMode.acked = true ∧
    Recovers env.pack (packsSent env indexBody) ∧
    env.nmeaMode.acked = true

/- What `GPS_AGPS` does before the send loop. -/
theorem agpsStart_cases
    (env : Agps) :
    (NothingToSend env ∧
        ∃ value actions,
          agpsStart env = .done (value, actions) ∧
            CleanedUp actions) ∨
      ∃ indexBody,
        ¬ NothingToSend env ∧
          findGpdData env.download.retBuffer =
            some indexBody ∧
          if env.binaryMode.acked then
            agpsStart env = .next indexBody
          else
            agpsStart env = .done (false,
              [.malloc true, .setBinaryMode env.binaryMode]) := by
  unfold agpsStart
  by_cases hDownload : env.downloadGpd = true
  · by_cases hMalloc : env.malloc = true
    · by_cases hValue : env.download.value < 0
      · left
        refine ⟨by simp [NothingToSend, hValue], false, _,
          by simp [hDownload, hMalloc, hValue]; rfl, ?_⟩
        constructor <;> rfl
      · cases hFind :
            findGpdData env.download.retBuffer with
        | none =>
            left
            refine ⟨by simp [NothingToSend, hFind], false, _,
              by simp [hDownload, hMalloc, hValue]; rfl, ?_⟩
            constructor <;> rfl
        | some indexBody =>
            right
            refine ⟨indexBody, ?_, rfl, ?_⟩
            · simp only [NothingToSend, hDownload, hMalloc,
                hFind]
              simp
              omega
            · cases hBinary : env.binaryMode.acked <;>
                simp [hDownload, hMalloc, hValue]
    · left
      refine ⟨by simp_all [NothingToSend], false,
        [.malloc false], by simp [hDownload, hMalloc], ?_⟩
      constructor <;> rfl
  · left
    refine ⟨by simp_all [NothingToSend], true,
      setTimeAndLocation, by simp [hDownload], ?_⟩
    constructor <;> rfl

/- The packs sent are no other action. -/
theorem count_sent_eq_zero
    (s : SendState)
    {action : Action}
    (hOther : ∀ message e,
      Action.sendGpdPack message e ≠ action) :
    (s.sent.map fun (message, e) =>
      Action.sendGpdPack message e).count action = 0 := by
  apply List.count_eq_zero.mpr
  intro hMem
  rcases List.mem_map.mp hMem with ⟨⟨message, e⟩, _, hEq⟩
  exact hOther message e hEq

/- What a call does from the end of the send loop on. -/
theorem cleanedUp_agpsEnd_iff
    (success : Bool)
    (s : SendState) :
    CleanedUp (agpsEnd env success s).2 ↔
      success = true ∧ env.nmeaMode.acked = true := by
  have hFree := @count_sent_eq_zero s .free (by simp)
  have hMalloc :=
    @count_sent_eq_zero s (.malloc true) (by simp)
  constructor
  · intro hClean
    have hFreed := hClean.freed
    unfold agpsEnd at hFreed
    cases success with
    | false => simp [hFree, hMalloc] at hFreed
    | true =>
        cases hAcked : env.nmeaMode.acked with
        | false => simp [hAcked, hFree, hMalloc] at hFreed
        | true => exact ⟨rfl, rfl⟩
  · intro hBoth
    rcases hBoth with ⟨rfl, hAcked⟩
    unfold agpsEnd
    rw [if_neg (by simp), if_neg (by simp [hAcked])]
    constructor
    · simp [hFree, hMalloc, setTimeAndLocation]
    · simp [unrestored, setTimeAndLocation]

/-
  `GPS_AGPS` cleans up exactly when there is no body to
  send, or every exchange of the upload succeeds in the end.
-/
theorem agps_cleans_up_iff
    {value : Bool}
    {actions : List Action}
    (hReturns : AgpsReturns env value actions) :
    CleanedUp actions ↔
      NothingToSend env ∨
        ∃ indexBody,
          findGpdData env.download.retBuffer =
              some indexBody ∧
            Uploaded env indexBody := by
  unfold AgpsReturns at hReturns
  rcases agpsStart_cases env with
    ⟨hNothing, value', actions', hStart, hClean⟩ |
      ⟨indexBody, hSomething, hFind, hStart⟩
  · rw [hStart] at hReturns
    obtain ⟨_, rfl⟩ := Prod.mk.inj hReturns
    exact iff_of_true hClean (Or.inl hNothing)
  · have hRight : (NothingToSend env ∨
        ∃ indexBody,
          findGpdData env.download.retBuffer =
              some indexBody ∧
            Uploaded env indexBody) ↔
        Uploaded env indexBody := by
      simp [hSomething, hFind]
    rw [hRight]
    cases hBinary : env.binaryMode.acked with
    | false =>
        rw [hBinary, if_neg Bool.false_ne_true] at hStart
        rw [hStart] at hReturns
        obtain ⟨_, rfl⟩ := Prod.mk.inj hReturns
        refine iff_of_false ?_ ?_
        · intro hClean
          exact absurd hClean.freed (by simp)
        · intro hUploaded
          rw [hUploaded.1] at hBinary
          cases hBinary
    | true =>
        rw [hBinary, if_pos rfl] at hStart
        rw [hStart] at hReturns
        rcases hReturns with ⟨success, s, hLoop, hEnd⟩
        have hWidth : gpdLen env.download indexBody < 65536 := by
          unfold gpdLen u16 wrap
          omega
        rcases exists_packs_eq_paddedLen hWidth with
          ⟨packs, hPacks, hPadded⟩
        have hSent : packsSent env indexBody = packs + 2 := by
          rw [packsSent, hPadded, Nat.mul_div_cancel _
            (by decide)]
        simp only [agpsLoop, hPadded] at hLoop
        have hRecovers :=
          (sendLoop_result hPacks hLoop).recovers
        have hActions : actions = (agpsEnd env success s).2 := by
          rw [hEnd]
        rw [hActions, cleanedUp_agpsEnd_iff, Uploaded, hSent,
          ← hRecovers, hBinary]
        simp

/- `GPS_AGPS` always returns. -/
theorem exists_agpsReturns
    (env : Agps) :
    ∃ value actions, AgpsReturns env value actions := by
  unfold AgpsReturns
  cases hStart : agpsStart env with
  | done result => exact ⟨result.1, result.2, rfl⟩
  | next indexBody =>
      have hWidth : gpdLen env.download indexBody < 65536 := by
        unfold gpdLen u16 wrap
        omega
      rcases exists_packs_eq_paddedLen hWidth with
        ⟨packs, hPacks, hPadded⟩
      have hEnds : Loop.Terminates (agpsLoop env indexBody)
          sendStart := by
        unfold agpsLoop
        simp only [hPadded]
        exact sendLoop_terminates hPacks
      rcases hEnds with ⟨⟨success, s⟩, hReturns⟩
      exact ⟨_, _, success, s, hReturns, rfl⟩

/-
  A file of one byte. The first pack is stored, but its ack
  is lost, and it is sent again.
-/
def lostPackAck : Agps :=
  { downloadGpd := true
    malloc := true
    download :=
      { value := 20
        retBuffer := ascii "HTTP/1.1 200 OK\r\n\r\nG"
        bufferLen := 20
        closes := 1 }
    binaryMode := ⟨true, true⟩
    pack := fun k => ⟨true, k != 0⟩
    nmeaMode := ⟨true, true⟩ }

/- A message for a pack of this file. -/
def oneByteMessage (i : Nat) : List UInt8 :=
  packMessage
    (padded (gpdData lostPackAck.download 19)
      (gpdLen lostPackAck.download 19)) i

/- The send loop has sent the first pack twice. -/
def resent : SendState :=
  { i := 2
    sendFailTimes := 0
    sent :=
      [ (oneByteMessage 0, ⟨true, false⟩),
        (oneByteMessage 0, ⟨true, true⟩),
        (oneByteMessage 1, ⟨true, true⟩),
        (endMarker, ⟨true, true⟩) ] }

theorem findGpdData_lostPackAck :
    findGpdData lostPackAck.download.retBuffer = some 19 := by
  decide +kernel

theorem paddedLen_lostPackAck :
    paddedLen (gpdLen lostPackAck.download 19) = 512 := by
  decide

theorem agpsReturns_lostPackAck :
    AgpsReturns lostPackAck true
      (agpsEnd lostPackAck true resent).2 := by
  have hStart : agpsStart lostPackAck = .next 19 := by
    unfold agpsStart
    rw [findGpdData_lostPackAck]
    rfl
  have hFirst : lostPackAck.pack 0 = ⟨true, false⟩ := rfl
  have hLater (k : Nat) :
      lostPackAck.pack (k + 1) = ⟨true, true⟩ := rfl
  unfold AgpsReturns
  rw [hStart]
  refine ⟨true, resent, ⟨4, ?_⟩, rfl⟩
  simp [agpsLoop, paddedLen_lostPackAck, Loop.run, sendBody,
    sendFailed, sendStart, resent, oneByteMessage,
    packMessage, endMarker, hFirst, hLater, u16, wrap]

/-
  An upload that resends a pack goes back to the NMEA mode
  and frees the buffer.
-/
theorem agps_cleans_up_resent_pack :
    AgpsReturns lostPackAck true
        (agpsEnd lostPackAck true resent).2 ∧
      CleanedUp (agpsEnd lostPackAck true resent).2 := by
  refine ⟨agpsReturns_lostPackAck,
    (agps_cleans_up_iff agpsReturns_lostPackAck).mpr
      (Or.inr ⟨19, findGpdData_lostPackAck, rfl, ?_, rfl⟩)⟩
  exact fun k _ => ⟨k + 1, by omega, by omega, rfl⟩

/-
  The module executes the switch to binary mode, and its ack
  is lost: the buffer is kept, and so is the binary mode.
-/
def lostAck : Agps :=
  { downloadGpd := true
    malloc := true
    download :=
      { value := 20
        retBuffer := ascii "HTTP/1.1 200 OK\r\n\r\nG"
        bufferLen := 20
        closes := 1 }
    binaryMode := ⟨true, false⟩
    pack := alwaysAcked
    nmeaMode := ⟨true, true⟩ }

theorem lost_ack_leaks :
    AgpsReturns lostAck false
        [.malloc true, .setBinaryMode ⟨true, false⟩] ∧
      ¬ CleanedUp
        [.malloc true, .setBinaryMode ⟨true, false⟩] ∧
      unrestored
        [.malloc true, .setBinaryMode ⟨true, false⟩] =
          true := by
  refine ⟨rfl, ?_, rfl⟩
  intro hClean
  exact absurd hClean.freed (by decide)

end Gps
