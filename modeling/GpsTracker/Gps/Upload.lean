import GpsTracker.Lib.Latest
import GpsTracker.Gps.AgpsCleanUp
import GpsTracker.Gps.RequestsSent

/-
  What an upload leaves in the module.

  Packs are numbered, so that one sent again after its ack
  was lost is stored where it was before. The module is
  modelled by what it stores: an exchange that it executes
  takes effect, whether or not its ack comes back.

  Main declarations:
    * `Gps.GpsModule`, `Gps.GpsModule.execute`
    * `Gps.SentInOrder`
    * `Gps.agps_stores_file_only`
    * `Gps.agps_uploads`
-/

open CString Machine Latest

------------------------------------------------------------
-- The Module
------------------------------------------------------------

namespace Gps

/- The mode of the module, and the packs it holds. -/
structure GpsModule where
  binary : Bool
  packs : Nat → Option (List UInt8)

/- The pack that a message stores under an index. -/
def storedPack
    (j : Nat)
    (sent : List UInt8 × Exchange) : Option (List UInt8) :=
  if sent.2.executed ∧ word sent.1 6 ≠ 0xffff ∧
      word sent.1 6 = j then
    some (sent.1.drop 8)
  else
    none

/-
  What an action of `GPS_AGPS` makes of the module. A pack
  is read in binary mode only.
-/
def GpsModule.execute
    (m : GpsModule) : Action → GpsModule
  | .setBinaryMode e =>
      { m with binary := m.binary || e.executed }
  | .setNmeaMode e =>
      { m with binary := m.binary && !e.executed }
  | .sendGpdPack message e =>
      if m.binary then
        { m with packs := fun j =>
            (storedPack j (message, e)).or (m.packs j) }
      else
        m
  | _ => m

/- The module behind a list of actions. -/
def GpsModule.after
    (m : GpsModule)
    (actions : List Action) : GpsModule :=
  actions.foldl GpsModule.execute m

/- Nothing is acknowledged that was not executed. -/
structure Honest (env : Agps) : Prop where
  binaryMode : env.binaryMode.acked → env.binaryMode.executed
  pack : ∀ k, (env.pack k).acked → (env.pack k).executed
  nmeaMode : env.nmeaMode.acked → env.nmeaMode.executed

/- The packs of a list of messages, in binary mode. -/
theorem after_sent
    (m : GpsModule)
    (hBinary : m.binary = true)
    (sent : List (List UInt8 × Exchange)) :
    m.after (sent.map fun (message, e) =>
        Action.sendGpdPack message e) =
      { binary := true
        packs := fun j =>
          (latest (storedPack j) sent).or (m.packs j) } := by
  induction sent using List.reverseRecOn with
  | nil =>
      rcases m with ⟨binary, packs⟩
      subst hBinary
      rfl
  | append_singleton sent message ih =>
      unfold GpsModule.after at ih ⊢
      rw [List.map_append, List.foldl_append, ih]
      simp only [List.map_cons, List.map_nil,
        List.foldl_cons, List.foldl_nil, GpsModule.execute,
        if_true, latest_append_singleton, Option.or_assoc]

end Gps

------------------------------------------------------------
-- The Messages Sent
------------------------------------------------------------

namespace Gps

variable {exchange : Nat → Exchange}
variable {gpdData : Nat → UInt8}
variable {packs : Nat}

/- The messages sent behind an iteration. -/
def sentBehind :
    LoopStep SendState (Bool × SendState) →
      List (List UInt8 × Exchange)
  | .next s => s.sent
  | .done result => result.2.sent

theorem sentBehind_sendFailed
    (s : SendState) :
    sentBehind (sendFailed s) = s.sent := by
  unfold sendFailed
  simp only
  split <;> rfl

/- One iteration sends one message. -/
theorem sentBehind_sendBody
    (s : SendState) :
    ∃ message,
      (message = endMarker ∨
        s.i ≤ packs ∧ message = packMessage gpdData s.i) ∧
      sentBehind (sendBody gpdData (packs * 512) exchange s) =
        s.sent ++ [(message, exchange s.sent.length)] := by
  by_cases hEnd : s.i * 512 > packs * 512
  · refine ⟨endMarker, Or.inl rfl, ?_⟩
    unfold sendBody
    simp only [if_pos hEnd]
    split
    · exact sentBehind_sendFailed _
    · rfl
  · refine ⟨packMessage gpdData s.i,
      Or.inr ⟨by omega, rfl⟩, ?_⟩
    unfold sendBody
    simp only [if_neg hEnd]
    split
    · exact sentBehind_sendFailed _
    · rfl

/- What holds of the messages of every run of the loop. -/
structure SentInOrder
    (exchange : Nat → Exchange)
    (gpdData : Nat → UInt8)
    (packs : Nat)
    (sent : List (List UInt8 × Exchange)) : Prop where
  message : ∀ message ∈ sent, message.1 = endMarker ∨
    ∃ i, i ≤ packs ∧ message.1 = packMessage gpdData i
  outcome : ∀ message ∈ sent, ∃ k, message.2 = exchange k

theorem sentInOrder_start :
    SentInOrder exchange gpdData packs sendStart.sent :=
  ⟨fun _ hMem => absurd hMem List.not_mem_nil,
    fun _ hMem => absurd hMem List.not_mem_nil⟩

theorem sentInOrder_sendBody
    {s : SendState}
    (hSent : SentInOrder exchange gpdData packs s.sent) :
    SentInOrder exchange gpdData packs
      (sentBehind
        (sendBody gpdData (packs * 512) exchange s)) := by
  rcases @sentBehind_sendBody exchange gpdData packs s with
    ⟨message, hMessage, hBehind⟩
  rw [hBehind]
  constructor
  · intro sent hMem
    rcases List.mem_append.mp hMem with hMem | hMem
    · exact hSent.message sent hMem
    · rw [List.mem_singleton.mp hMem]
      exact hMessage.imp_right fun hPack => ⟨s.i, hPack⟩
  · intro sent hMem
    rcases List.mem_append.mp hMem with hMem | hMem
    · exact hSent.outcome sent hMem
    · rw [List.mem_singleton.mp hMem]
      exact ⟨s.sent.length, rfl⟩

theorem sentInOrder_of_returns
    {result : Bool × SendState}
    (hReturns : Loop.Returns
      (sendBody gpdData (packs * 512) exchange) sendStart
      result) :
    SentInOrder exchange gpdData packs result.2.sent := by
  refine @Loop.Returns.of_invariant _ _ _
    (fun s => SentInOrder exchange gpdData packs s.sent)
    (fun result =>
      SentInOrder exchange gpdData packs result.2.sent)
    ?_ ?_ _ _ hReturns sentInOrder_start
  · intro s result hSent hDone
    have hBehind := sentInOrder_sendBody hSent
    rw [hDone] at hBehind
    exact hBehind
  · intro s s' hSent hNext
    have hBehind := sentInOrder_sendBody hSent
    rw [hNext] at hBehind
    exact hBehind

end Gps

------------------------------------------------------------
-- What Is Stored
------------------------------------------------------------

namespace Gps

variable {exchange : Nat → Exchange}
variable {gpdData : Nat → UInt8}
variable {packs : Nat}

theorem storedPack_endMarker
    (j : Nat)
    (e : Exchange) :
    storedPack j (endMarker, e) = none := by
  have hIndex : word endMarker 6 = 0xffff := by
    unfold endMarker
    rw [word_gpdPack (by decide)]
  unfold storedPack
  exact if_neg fun hAll => hAll.2.1 hIndex

theorem storedPack_packMessage
    (hPacks : packs < 128)
    {i : Nat}
    (hi : i ≤ packs)
    (j : Nat)
    (e : Exchange) :
    storedPack j (packMessage gpdData i, e) =
      if e.executed ∧ i = j then
        some (packAt gpdData (i * 512))
      else
        none := by
  have hIndex : word (packMessage gpdData i) 6 = i := by
    unfold packMessage
    rw [word_gpdPack (by omega)]
  have hPack : (packMessage gpdData i).drop 8 =
      packAt gpdData (i * 512) :=
    drop_gpdPack _ _
  have hNotEnd : i ≠ 0xffff := by omega
  unfold storedPack
  simp only [hIndex, hPack]
  simp [hNotEnd]

/- Under an index only its own pack is ever stored. -/
theorem latest_storedPack
    (hPacks : packs < 128)
    {sent : List (List UInt8 × Exchange)}
    (hSent : SentInOrder exchange gpdData packs sent)
    (j : Nat) :
    ∀ message ∈ sent, ∀ pack,
      storedPack j message = some pack →
        pack = packAt gpdData (j * 512) := by
  intro message hMem pack hStored
  rcases message with ⟨message, e⟩
  rcases hSent.message _ hMem with hEnd | ⟨i, hi, hPack⟩
  · have hEnd : message = endMarker := hEnd
    rw [hEnd, storedPack_endMarker] at hStored
    cases hStored
  · have hPack : message = packMessage gpdData i := hPack
    rw [hPack, storedPack_packMessage hPacks hi] at hStored
    split at hStored
    · next hBoth =>
        rw [← Option.some.inj hStored, hBoth.2]
    · cases hStored

end Gps

------------------------------------------------------------
-- A Call of the Function
------------------------------------------------------------

namespace Gps

variable {env : Agps}
variable {indexBody : Nat}

/- A pack of the file, with zeros behind its end. -/
def filePack
    (env : Agps)
    (indexBody j : Nat) : List UInt8 :=
  packAt
    (zeroPadded (gpdData env.download indexBody)
      (gpdLen env.download indexBody))
    (j * 512)

theorem gpdLen_lt
    (env : Agps)
    (indexBody : Nat) :
    gpdLen env.download indexBody < 65536 := by
  unfold gpdLen u16 wrap
  omega

/- Inside the padded length the memory is the file. -/
theorem padded_eq_zeroPadded
    (memory : Nat → UInt8)
    {len i : Nat}
    (hPart : len % 512 ≠ 0 → i < len + (512 - len % 512))
    (hWhole : len % 512 = 0 → i < len) :
    padded memory len i = zeroPadded memory len i := by
  unfold padded zeroPadded
  by_cases hRest : len % 512 = 0
  · have hInside := hWhole hRest
    rw [if_neg (not_not.mpr hRest), if_pos hInside]
  · have hInside := hPart hRest
    rw [if_pos hRest]
    by_cases hFile : i < len
    · rw [if_pos hFile, if_neg (by omega)]
    · rw [if_neg hFile, if_pos (by omega)]

theorem paddedLen_le
    {len : Nat}
    (hPart : len % 512 ≠ 0) :
    paddedLen len ≤ len + (512 - len % 512) := by
  unfold paddedLen u16 wrap
  rw [if_pos hPart]
  omega

/- A whole pack stands before an end that no pack straddles. -/
theorem pack_inside
    {i j blocks : Nat}
    (hi : i < 512)
    (hj : j * 512 < blocks * 512) :
    j * 512 + i < blocks * 512 := by
  have hBlock : j < blocks := Nat.lt_of_mul_lt_mul_right hj
  have hNext := Nat.mul_le_mul_right 512
    (Nat.succ_le_of_lt hBlock)
  clear hj
  omega

theorem packAt_padded
    {j : Nat}
    (hj : j * 512 <
      paddedLen (gpdLen env.download indexBody)) :
    packAt
        (padded (gpdData env.download indexBody)
          (gpdLen env.download indexBody))
        (j * 512) =
      filePack env indexBody j := by
  have hWidth := gpdLen_lt env indexBody
  rcases exists_packs_eq_paddedLen hWidth with
    ⟨packs, _, hPadded⟩
  unfold filePack packAt
  generalize gpdLen env.download indexBody = len
    at hj hPadded ⊢
  rw [hPadded] at hj
  apply List.map_congr_left
  intro i hi
  have hInside := pack_inside (List.mem_range.mp hi) hj
  rw [← hPadded] at hInside
  apply padded_eq_zeroPadded
  · intro hPart
    exact hInside.trans_le (paddedLen_le hPart)
  · intro hWhole
    rwa [paddedLen, if_neg (not_not.mpr hWhole)] at hInside

/- The ways through a call that comes to the send loop. -/
inductive Sends
    (env : Agps)
    (value : Bool)
    (actions : List Action) : Prop where
  | nothing
      (hNone : ∀ message e,
        .sendGpdPack message e ∉ actions)
      (hFalse : env.downloadGpd = true → value = false)
  | loop
      {indexBody : Nat}
      {success : Bool}
      {s : SendState}
      (hFind : findGpdData env.download.retBuffer =
        some indexBody)
      (hAcked : env.binaryMode.acked = true)
      (hLoop : Loop.Returns (agpsLoop env indexBody) sendStart
        (success, s))
      (hEnd : agpsEnd env success s = (value, actions))

theorem sends_of_agpsReturns
    {value : Bool}
    {actions : List Action}
    (hReturns : AgpsReturns env value actions) :
    Sends env value actions := by
  unfold AgpsReturns at hReturns
  cases hStart : agpsStart env with
  | done result =>
      rw [hStart] at hReturns
      subst hReturns
      unfold agpsStart at hStart
      split at hStart
      · next hDownload =>
          cases hStart
          exact .nothing (by simp [setTimeAndLocation])
            fun hTrue => absurd hTrue hDownload
      · split at hStart
        · cases hStart
          exact .nothing (by simp) fun _ => rfl
        · split at hStart
          · cases hStart
            exact .nothing (by simp) fun _ => rfl
          · split at hStart
            · cases hStart
              exact .nothing (by simp) fun _ => rfl
            · split at hStart
              · cases hStart
                exact .nothing (by simp) fun _ => rfl
              · cases hStart
  | next indexBody =>
      rw [hStart] at hReturns
      rcases hReturns with ⟨success, s, hLoop, hEnd⟩
      unfold agpsStart at hStart
      split at hStart
      · cases hStart
      · split at hStart
        · cases hStart
        · split at hStart
          · cases hStart
          · split at hStart
            · cases hStart
            · next hFind =>
                split at hStart
                · cases hStart
                · next hAcked =>
                    cases hStart
                    rw [not_not] at hAcked
                    exact .loop hFind hAcked hLoop hEnd

end Gps

------------------------------------------------------------
-- The Module behind a Call
------------------------------------------------------------

namespace Gps

variable {env : Agps}
variable {value success : Bool}
variable {actions : List Action}

/- In text mode no pack is read. -/
theorem after_sent_text
    (m : GpsModule)
    (hText : m.binary = false)
    (sent : List (List UInt8 × Exchange)) :
    m.after (sent.map fun (message, e) =>
        Action.sendGpdPack message e) = m := by
  induction sent with
  | nil => rfl
  | cons message sent ih =>
      have hFirst : m.execute
          (.sendGpdPack message.1 message.2) = m := by
        unfold GpsModule.execute
        exact if_neg (by rw [hText]; exact Bool.false_ne_true)
      unfold GpsModule.after at ih ⊢
      rw [List.map_cons, List.foldl_cons, hFirst]
      exact ih

/- Without a message the packs stay as they are. -/
theorem packs_after_of_no_message
    (m : GpsModule)
    (hNone : ∀ message e, .sendGpdPack message e ∉ actions) :
    (m.after actions).packs = m.packs := by
  induction actions generalizing m with
  | nil => rfl
  | cons action actions ih =>
      have hLater : ∀ message e,
          .sendGpdPack message e ∉ actions :=
        fun message e hMem =>
          hNone message e (List.mem_cons_of_mem _ hMem)
      have hFirst : (m.execute action).packs = m.packs := by
        cases action with
        | sendGpdPack message e =>
            exact absurd List.mem_cons_self (hNone message e)
        | _ => rfl
      have hRest := ih (m.execute action) hLater
      rw [hFirst] at hRest
      exact hRest

/- The actions behind the messages concern the mode only. -/
theorem after_agpsEnd
    (m : GpsModule)
    (s : SendState) :
    m.after (agpsEnd env success s).2 =
      (((m.execute (.setBinaryMode env.binaryMode)).after
        (s.sent.map fun (message, e) =>
          Action.sendGpdPack message e)).execute
            (.setNmeaMode env.nmeaMode)) := by
  unfold agpsEnd GpsModule.after
  split
  · simp only [List.foldl_append, List.foldl_cons,
      List.foldl_nil]
    rfl
  · split
    · simp only [List.foldl_append, List.foldl_cons,
        List.foldl_nil]
      rfl
    · simp only [List.foldl_append, List.foldl_cons,
        List.foldl_nil, setTimeAndLocation]
      rfl

/-
  Whatever becomes of the exchanges, and wherever the
  function gives up: inside the padded file the module holds
  what it held before, or the pack of the file.
-/
theorem agps_stores_file_only
    (hReturns : AgpsReturns env value actions)
    (m : GpsModule)
    {indexBody j : Nat}
    (hFind : findGpdData env.download.retBuffer =
      some indexBody)
    (hj : j * 512 <
      paddedLen (gpdLen env.download indexBody)) :
    (m.after actions).packs j = m.packs j ∨
      (m.after actions).packs j =
        some (filePack env indexBody j) := by
  cases sends_of_agpsReturns hReturns with
  | nothing hNone _ =>
      rw [packs_after_of_no_message m hNone]
      exact Or.inl rfl
  | @loop indexBody' success s hFind' _ hLoop hEnd =>
      rw [hFind] at hFind'
      cases hFind'
      rcases exists_packs_eq_paddedLen
          (gpdLen_lt env indexBody) with
        ⟨packs, hPacks, hPadded⟩
      have hActions : actions = (agpsEnd env success s).2 := by
        rw [hEnd]
      rw [hActions, after_agpsEnd]
      cases hBinary :
          (m.execute (.setBinaryMode env.binaryMode)).binary with
      | false =>
          rw [after_sent_text _ hBinary]
          exact Or.inl rfl
      | true =>
          rw [after_sent _ hBinary]
          simp only [agpsLoop, hPadded] at hLoop
          have hSent := sentInOrder_of_returns hLoop
          have hAgree := latest_storedPack hPacks hSent j
          cases hLatest : latest (storedPack j) s.sent with
          | none =>
              left
              simp only [GpsModule.execute, hLatest]
              rfl
          | some pack =>
              right
              rcases exists_of_latest_eq_some hLatest with
                ⟨message, hMem, hStored⟩
              have hPack := hAgree message hMem pack hStored
              rw [packAt_padded hj] at hPack
              simp only [GpsModule.execute, hLatest, hPack]
              rfl

/-
  The first pack is stored, and of the next no try is
  executed.
-/
def brokenOff : Agps :=
  { lostPackAck with
    pack := fun k =>
      if k = 0 then ⟨true, true⟩ else ⟨false, false⟩ }

/- The send loop has given up behind four tries. -/
def givenUp : SendState :=
  { i := 1
    sendFailTimes := 4
    sent :=
      [ (oneByteMessage 0, ⟨true, true⟩),
        (oneByteMessage 1, ⟨false, false⟩),
        (oneByteMessage 1, ⟨false, false⟩),
        (oneByteMessage 1, ⟨false, false⟩),
        (oneByteMessage 1, ⟨false, false⟩) ] }

theorem findGpdData_brokenOff :
    findGpdData brokenOff.download.retBuffer = some 19 :=
  findGpdData_lostPackAck

theorem agpsReturns_brokenOff :
    AgpsReturns brokenOff false
      (agpsEnd brokenOff false givenUp).2 := by
  have hStart : agpsStart brokenOff = .next 19 := by
    unfold agpsStart
    rw [findGpdData_brokenOff]
    rfl
  have hDownload :
      brokenOff.download = lostPackAck.download := rfl
  have hFirst : brokenOff.pack 0 = ⟨true, true⟩ := rfl
  have hLater (k : Nat) :
      brokenOff.pack (k + 1) = ⟨false, false⟩ := rfl
  unfold AgpsReturns
  rw [hStart]
  refine ⟨false, givenUp, ⟨5, ?_⟩, rfl⟩
  simp [agpsLoop, hDownload, paddedLen_lostPackAck, Loop.run,
    sendBody, sendFailed, sendStart, givenUp, oneByteMessage,
    packMessage, hFirst, hLater, u16, wrap]

/- The stored pack of an upload that breaks off behind it. -/
theorem agps_stores_file_only_brokenOff :
    let actions := (agpsEnd brokenOff false givenUp).2
    let m := GpsModule.after ⟨false, fun _ => none⟩ actions
    AgpsReturns brokenOff false actions ∧
      m.packs 0 = some (byte 'G' :: List.replicate 511 0) ∧
      (m.packs 0 = none ∨
        m.packs 0 = some (filePack brokenOff 19 0)) := by
  intro actions m
  refine ⟨agpsReturns_brokenOff, by decide +kernel, ?_⟩
  exact agps_stores_file_only agpsReturns_brokenOff
    ⟨false, fun _ => none⟩ findGpdData_brokenOff (by decide)

end Gps

------------------------------------------------------------
-- A Whole Upload
------------------------------------------------------------

namespace Gps

variable {env : Agps}
variable {actions : List Action}

/- Each pack of the file was executed at least once. -/
theorem exists_storedPack
    (hHonest : ∀ k, (env.pack k).acked →
      (env.pack k).executed)
    {gpdData : Nat → UInt8}
    {packs : Nat}
    (hPacks : packs < 128)
    {s : SendState}
    (hSent : SentInOrder env.pack gpdData packs s.sent)
    (hAcked : ackedMessages s.sent =
      (List.range (packs + 1)).map (packMessage gpdData) ++
        [endMarker])
    {j : Nat}
    (hj : j ≤ packs) :
    ∃ message ∈ s.sent, storedPack j message =
      some (packAt gpdData (j * 512)) := by
  have hMem : packMessage gpdData j ∈ ackedMessages s.sent := by
    rw [hAcked]
    apply List.mem_append_left
    exact List.mem_map_of_mem (List.mem_range.mpr (by omega))
  unfold ackedMessages at hMem
  rcases List.mem_map.mp hMem with ⟨message, hFilter, hPack⟩
  rcases List.mem_filter.mp hFilter with ⟨hIn, hAck⟩
  rcases hSent.outcome message hIn with ⟨k, hOutcome⟩
  rw [hOutcome] at hAck
  have hExecuted := hHonest k hAck
  refine ⟨message, hIn, ?_⟩
  rcases message with ⟨bytes, e⟩
  have hBytes : bytes = packMessage gpdData j := hPack
  have hE : e = env.pack k := hOutcome
  rw [hBytes, hE, storedPack_packMessage hPacks hj,
    if_pos ⟨hExecuted, rfl⟩]

/- A call that returns true has come to its very end. -/
theorem agpsEnd_eq_true
    {success : Bool}
    {s : SendState}
    (hEnd : agpsEnd env success s = (true, actions)) :
    success = true ∧ env.nmeaMode.acked = true := by
  unfold agpsEnd at hEnd
  split at hEnd
  · cases hEnd
  · next hSuccess =>
      split at hEnd
      · cases hEnd
      · next hAcked =>
          exact ⟨not_not.mp hSuccess, not_not.mp hAcked⟩

/-
  When a download returns true the module is in text mode
  and holds the file, padded with zeros, whatever acks were
  lost and whatever packs were sent again.
-/
theorem agps_uploads
    (hHonest : Honest env)
    (hDownload : env.downloadGpd = true)
    (hReturns : AgpsReturns env true actions)
    (m : GpsModule) :
    ∃ indexBody,
      findGpdData env.download.retBuffer = some indexBody ∧
        (m.after actions).binary = false ∧
        ∀ j,
          j * 512 <
              paddedLen (gpdLen env.download indexBody) →
            (m.after actions).packs j =
              some (filePack env indexBody j) := by
  cases sends_of_agpsReturns hReturns with
  | nothing _ hFalse => cases hFalse hDownload
  | @loop indexBody success s hFind hBinaryAcked hLoop hEnd =>
      rcases agpsEnd_eq_true hEnd with ⟨rfl, hNmeaAcked⟩
      rcases exists_packs_eq_paddedLen
          (gpdLen_lt env indexBody) with
        ⟨packs, hPacks, hPadded⟩
      have hActions : actions = (agpsEnd env true s).2 := by
        rw [hEnd]
      have hBinary : (m.execute
          (.setBinaryMode env.binaryMode)).binary = true := by
        simp [GpsModule.execute,
          hHonest.binaryMode hBinaryAcked]
      simp only [agpsLoop, hPadded] at hLoop
      have hSent := sentInOrder_of_returns hLoop
      have hAcked := (sendLoop_result hPacks hLoop).acked rfl
      refine ⟨indexBody, hFind, ?_, ?_⟩
      · rw [hActions, after_agpsEnd]
        simp [GpsModule.execute, hHonest.nmeaMode hNmeaAcked]
      · intro j hj
        have hIndex : j ≤ packs := by
          rw [hPadded] at hj
          exact (Nat.lt_of_mul_lt_mul_right hj).le
        have hLatest := latest_eq_some_of_agree
          (latest_storedPack hPacks hSent j)
          (exists_storedPack hHonest.pack hPacks hSent hAcked
            hIndex)
        rw [packAt_padded hj] at hLatest
        rw [hActions, after_agpsEnd, after_sent _ hBinary]
        simp only [GpsModule.execute, hLatest]
        rfl

theorem honest_lostPackAck : Honest lostPackAck :=
  ⟨fun _ => rfl, fun _ _ => rfl, fun _ => rfl⟩

theorem agps_uploads_lostPackAck :
    ∃ actions, AgpsReturns lostPackAck true actions ∧
      (GpsModule.after ⟨false, fun _ => none⟩ actions).packs 0 =
        some (byte 'G' :: List.replicate 511 0) := by
  refine ⟨_, agpsReturns_lostPackAck, ?_⟩
  rcases agps_uploads honest_lostPackAck rfl
      agpsReturns_lostPackAck ⟨false, fun _ => none⟩ with
    ⟨indexBody, hFind, _, hPacks⟩
  rw [findGpdData_lostPackAck] at hFind
  cases hFind
  rw [hPacks 0 (by decide)]
  decide +kernel

end Gps
