import GpsTracker.Gps.Command

/-
  What a statement of either task can do, said once, and
  what a whole call of `GPS_Update` does that the GPS task
  does not interrupt.

  Main declarations:
    * `Gps.TakenOut`, `Gps.findAck_takenOut`
    * `Gps.MainEffect`, `Gps.mainEffect_of_mainStep`
    * `Gps.SenderEffect`, `Gps.senderEffect_of_senderStep`
    * `Gps.finishes_of_updates`
-/

open CString Machine ListSearch

------------------------------------------------------------
-- What Is Taken out of the Buffer
------------------------------------------------------------

namespace Gps

theorem gets_eq_some
    {b b' : Buffer dataBufferMaxLength}
    {length : Nat}
    {bytes : List UInt8}
    (hGets : b.gets length = some (bytes, b')) :
    length ≤ b.contents.length ∧
      bytes = b.contents.take length ∧
      b'.contents = b.contents.drop length := by
  have hHeld : length ≤ b.contents.length := by
    by_contra hShort
    rw [(b.gets_eq_none_iff length).mpr (by omega)] at hGets
    cases hGets
  rcases Buffer.contents_gets hHeld with
    ⟨later, hLater, hContents⟩
  rw [hLater] at hGets
  cases hGets
  exact ⟨hHeld, rfl, hContents⟩

theorem findFrame_eq_frame
    {b b' : Buffer dataBufferMaxLength}
    {bytes : List UInt8}
    (hFound : findFrame b = .frame bytes b') :
    ∃ length, length ≤ b.contents.length ∧
      length ≤ nmeaFrameBufferLength ∧
      bytes = b.contents.take length ∧
      b'.contents = b.contents.drop length := by
  unfold findFrame at hFound
  split at hFound
  · cases hFound
  · split at hFound
    · cases hFound
    · split at hFound
      · cases hFound
      · next hGets =>
          cases hFound
          rcases gets_eq_some hGets with
            ⟨hHeld, hBytes, hContents⟩
          exact ⟨_, hHeld, min_le_right _ _, hBytes,
            hContents⟩

/-
  What `findAck` takes out: the first bytes, and the ack
  begins with a header in them.
-/
structure TakenOut
    (b : Buffer dataBufferMaxLength)
    (found : FoundAck)
    (length : Nat) : Prop where
  held : length ≤ b.contents.length
  bytes : found.bytes = b.contents.take length
  rest : found.buffer.contents = b.contents.drop length
  header : ∀ index0, found.index0 = some index0 →
    ∃ header ∈ [cmdHeader, cmdBinaryHeader],
      OccursAt header b.contents index0

theorem occursAt_of_take
    {pattern text : List UInt8}
    {length i : Nat}
    (hOccurs : OccursAt pattern (text.take length) i) :
    OccursAt pattern text i := by
  have hWhole := occursAt_append_of_occursAt
    (text.drop length) hOccurs
  rwa [List.take_append_drop] at hWhole

theorem copyAck_takenOut
    {b : Buffer dataBufferMaxLength}
    {start : List UInt8 → Option Nat}
    {index : Fin dataBufferMaxLength}
    {found : FoundAck}
    (header : List UInt8)
    (hHeader : header ∈ [cmdHeader, cmdBinaryHeader])
    (hStart : ∀ bytes i, start bytes = some i →
      OccursAt header bytes i)
    (hFound : copyAck start index b = some found) :
    ∃ length, TakenOut b found length := by
  unfold copyAck at hFound
  split at hFound
  · cases hFound
  · rcases Option.map_eq_some_iff.mp hFound with
      ⟨⟨bytes, buffer⟩, hGets, rfl⟩
    rcases gets_eq_some hGets with ⟨hHeld, hBytes, hContents⟩
    refine ⟨_, hHeld, hBytes, hContents, ?_⟩
    intro index0 hIndex0
    refine ⟨header, hHeader, ?_⟩
    have hOccurs := hStart bytes index0 hIndex0
    rw [hBytes] at hOccurs
    exact occursAt_of_take hOccurs

theorem findAck_takenOut
    {b : Buffer dataBufferMaxLength}
    {found : FoundAck}
    (hFound : findAck b = some found) :
    ∃ length, TakenOut b found length := by
  unfold findAck at hFound
  split at hFound
  · refine copyAck_takenOut cmdHeader (by simp) ?_ hFound
    intro bytes i hSearch
    rw [strstr_tmp] at hSearch
    rcases text_isPrefix bytes with ⟨more, hMore⟩
    rw [← hMore]
    exact occursAt_append_of_occursAt more
      (find_occursAt hSearch)
  · split at hFound
    · cases hFound
    · refine copyAck_takenOut cmdBinaryHeader (by simp) ?_ hFound
      intro bytes i hSearch
      rw [binaryStart_eq_find] at hSearch
      exact find_occursAt hSearch

end Gps

------------------------------------------------------------
-- What a Statement Does
------------------------------------------------------------

namespace Gps

/- The main task is inside `OnCmdAckFail`. -/
def MainTask.calledBack : MainTask → Bool
  | .setTimeOut _ => true
  | .releaseTimeOut _ => true
  | _ => false

/- The next statement releases the semaphore. -/
def MainTask.releases : MainTask → Bool
  | .releaseAck => true
  | .releaseTimeOut _ => true
  | _ => false

/- The ack that the main task has taken and not stored. -/
def MainTask.carried : MainTask → Option TakenAck
  | .testAgain ack => ack
  | .storeAck ack => ack
  | _ => none

/- The ack begins with a header in the buffer. -/
def CommandState.TakesOut
    (s : CommandState)
    (ack : TakenAck) : Prop :=
  ∃ header ∈ [cmdHeader, cmdBinaryHeader], ∃ i,
    OccursAt header s.gpsNmeaBuffer.contents i ∧
      ack.first = s.oldest + i

/-
  What a statement of the main task does. Most go on to the
  next one, with some of the oldest bytes taken out of the
  buffer or none. A release changes the count of a semaphore
  only: it creates none and deletes none.
-/
inductive MainEffect
    (malloc : Bool)
    (s : CommandState) : CommandState → Prop where
  | moved
      {main : MainTask}
      {buffer : Buffer dataBufferMaxLength}
      (k : Nat)
      (hReleases : main.releases = false)
      (hCalledBack : main.calledBack = false)
      (hHeld : k ≤ s.gpsNmeaBuffer.contents.length)
      (hContents : buffer.contents =
        s.gpsNmeaBuffer.contents.drop k)
      (hCarried : ∀ ack, main.carried = some ack →
        s.main.carried = some ack ∨ s.TakesOut ack) :
      MainEffect malloc s
        { s with main := main, gpsNmeaBuffer := buffer }
  | failed
      {ack : Option TakenAck}
      (hMain : s.main = .storeAck ack)
      (hMalloc : malloc = false) :
      MainEffect malloc s
        { s with gpsAckMsg := none, main := .waitEvent }
  | stored
      {ack : TakenAck}
      (hMain : s.main = .storeAck (some ack))
      (hMalloc : malloc = true) :
      MainEffect malloc s
        { s with
          heap := s.heap ++
            [{ command := s.command, ack := ack, frees := 0 }]
          gpsAckMsg := some s.heap.length
          main := .releaseAck }
  | released
      {semaphores : Nat → Option Nat}
      (hMain : s.main.releases = true)
      (hLive : ∀ handle, (semaphores handle).isSome =
        (s.semaphores handle).isSome) :
      MainEffect malloc s
        { s with
          semaphores := semaphores
          main := .waitEvent }
  | flagged
      {k : Nat}
      (hMain : s.main = .setTimeOut k) :
      MainEffect malloc s
        { s with
          isCmdSendTimeOut := true
          main := .releaseTimeOut k }

/- The statement goes on and leaves the buffer alone. -/
theorem MainEffect.goes
    {malloc : Bool}
    {s : CommandState}
    {main : MainTask}
    (hReleases : main.releases = false)
    (hCalledBack : main.calledBack = false)
    (hCarried : ∀ ack, main.carried = some ack →
      s.main.carried = some ack) :
    MainEffect malloc s { s with main := main } :=
  MainEffect.moved 0 hReleases hCalledBack (Nat.zero_le _) rfl
    (fun ack hAck => Or.inl (hCarried ack hAck))

theorem mainEffect_of_release
    {malloc : Bool}
    {s : CommandState}
    (hMain : s.main.releases = true) :
    MainEffect malloc s
      { s.release with main := .waitEvent } := by
  unfold CommandState.release
  split
  · exact MainEffect.released hMain (fun _ => rfl)
  · next handle _ =>
      apply MainEffect.released hMain
      intro other
      by_cases hSame : other = handle
      · subst hSame
        simp
      · simp [Function.update_of_ne hSame]

theorem mainEffect_of_mainStep
    {s s' : CommandState}
    {malloc : Bool}
    (hStep : mainStep malloc s = some s') :
    MainEffect malloc s s' := by
  unfold mainStep at hStep
  split at hStep
  · cases hStep
  · -- the test of semCmdSending
    split at hStep <;> cases hStep <;>
      exact MainEffect.goes rfl rfl (by simp [MainTask.carried])
  · next hMain =>
      split at hStep
      · cases hStep
        exact MainEffect.goes rfl rfl
          (by simp [MainTask.carried])
      · cases hStep
        exact MainEffect.goes (by rw [hMain]; rfl)
          (by rw [hMain]; rfl) (fun _ hAck => hAck)
      · next hFound =>
          cases hStep
          rcases findFrame_eq_frame hFound with
            ⟨k, hHeld, _, _, hContents⟩
          exact MainEffect.moved k (by rw [hMain]; rfl)
            (by rw [hMain]; rfl) hHeld hContents
            (fun _ hAck => Or.inl hAck)
  · split at hStep
    · cases hStep
      exact MainEffect.goes rfl rfl
        (by simp [MainTask.carried])
    · next found hFound =>
        cases hStep
        rcases findAck_takenOut hFound with ⟨length, hTaken⟩
        refine MainEffect.moved length rfl rfl hTaken.held
          hTaken.rest ?_
        intro ack hAck
        rcases Option.map_eq_some_iff.mp hAck with
          ⟨index0, hIndex0, rfl⟩
        rcases hTaken.header index0 hIndex0 with
          ⟨header, hHeader, hOccurs⟩
        exact Or.inr ⟨header, hHeader, index0, hOccurs, rfl⟩
  · next ack hMain =>
      split at hStep
      · cases hStep
        exact MainEffect.goes rfl rfl
          (by simp [MainTask.carried])
      · cases hStep
        refine MainEffect.goes rfl rfl ?_
        rw [hMain]
        exact fun _ hAck => hAck
  · next ack hMain =>
      unfold CommandState.store at hStep
      split at hStep
      · cases hStep
        exact MainEffect.failed hMain rfl
      · cases hStep
      · cases hStep
        exact MainEffect.stored hMain rfl
  · next hMain =>
      cases hStep
      exact mainEffect_of_release (by rw [hMain]; rfl)
  · next hMain =>
      cases hStep
      exact MainEffect.flagged hMain
  · next hMain =>
      cases hStep
      exact mainEffect_of_release (by rw [hMain]; rfl)

/- What a statement of the GPS task does, one by one. -/
inductive SenderEffect
    (s : CommandState) : CommandState → Prop where
  | cleared
      (hAt : s.sender = .clearTimeOut) :
      SenderEffect s
        { s with
          isCmdSendTimeOut := false
          sender := .createSemaphore }
  | created
      {next : Sender}
      (hAt : s.sender = .createSemaphore)
      (hNext : next = .clearBuffer ∨ next = .send) :
      SenderEffect s
        { s with
          semCmdSending := some s.command
          semaphores :=
            Function.update s.semaphores s.command (some 0)
          sender := next }
  | emptied
      (hAt : s.sender = .clearBuffer) :
      SenderEffect s
        { s with
          gpsNmeaBuffer := s.gpsNmeaBuffer.clear
          sender := .send }
  | sent
      (hAt : s.sender = .send) :
      SenderEffect s
        { s with sent := s.received, sender := .startTimer }
  | started
      (hAt : s.sender = .startTimer) :
      SenderEffect s
        { s with
          timers := s.timers ++ [s.command]
          sender := .wait }
  | woken
      {handle count : Nat}
      (hAt : s.sender = .wait)
      (hSem : s.semCmdSending = some handle)
      (hCount : s.semaphores handle = some (count + 1)) :
      SenderEffect s
        { s with
          semaphores :=
            Function.update s.semaphores handle (some count)
          sender := .deleteSemaphore }
  | deleted
      {handle : Nat}
      (hAt : s.sender = .deleteSemaphore)
      (hSem : s.semCmdSending = some handle) :
      SenderEffect s
        { s with
          semaphores :=
            Function.update s.semaphores handle none
          sender := .nullSemaphore }
  | nulled
      (hAt : s.sender = .nullSemaphore) :
      SenderEffect s
        { s with
          semCmdSending := none
          sender := .testTimeOut }
  | timedOut
      (hAt : s.sender = .testTimeOut)
      (hFlag : s.isCmdSendTimeOut = true) :
      SenderEffect s { s with sender := .freeAck }
  | acked
      (hAt : s.sender = .testTimeOut)
      (hFlag : s.isCmdSendTimeOut = false) :
      SenderEffect s { s with sender := .stopTimer }
  | stopped
      (hAt : s.sender = .stopTimer) :
      SenderEffect s
        { s with timers := [], sender := .readAck }
  | read
      (hAt : s.sender = .readAck)
      (hAck : s.gpsAckMsg.isSome = true) :
      SenderEffect s { s with sender := .freeAck }
  | freed
      (hAt : s.sender = .freeAck) :
      SenderEffect s
        { s with
          heap := freeBlock s.gpsAckMsg s.heap
          sender := .nullAck }
  | returned
      (hAt : s.sender = .nullAck) :
      SenderEffect s
        { s with gpsAckMsg := none, sender := .idle }

theorem senderEffect_of_senderStep
    {s s' : CommandState}
    (hStep : senderStep s = some s') :
    SenderEffect s s' := by
  unfold senderStep at hStep
  split at hStep
  · cases hStep
  · next hAt => cases hStep; exact .cleared hAt
  · next hAt =>
      cases hStep
      apply SenderEffect.created hAt
      cases s.format
      · exact Or.inl rfl
      · exact Or.inr rfl
  · next hAt => cases hStep; exact .emptied hAt
  · next hAt => cases hStep; exact .sent hAt
  · next hAt => cases hStep; exact .started hAt
  · next hAt =>
      split at hStep
      · cases hStep
      · next hSem =>
          split at hStep
          · next hCount =>
              cases hStep
              exact .woken hAt hSem hCount
          · cases hStep
  · next hAt =>
      split at hStep
      · cases hStep
      · next hSem => cases hStep; exact .deleted hAt hSem
  · next hAt => cases hStep; exact .nulled hAt
  · next hAt =>
      split at hStep
      · next hFlag => cases hStep; exact .timedOut hAt hFlag
      · next hFlag =>
          cases hStep
          exact .acked hAt (Bool.not_eq_true _ ▸ hFlag)
  · next hAt => cases hStep; exact .stopped hAt
  · next hAt =>
      split at hStep
      · next hAck => cases hStep; exact .read hAt hAck
      · cases hStep
  · next hAt => cases hStep; exact .freed hAt
  · next hAt => cases hStep; exact .returned hAt

/- A command begins when the GPS task is idle. -/
theorem eq_of_start
    {s s' : CommandState}
    {format : Format}
    (hStep : commandStep s (.start format) = some s') :
    s.sender = .idle ∧
      s' =
        { s with
          command := s.command + 1
          format := format
          sender := .clearTimeOut } := by
  simp only [commandStep] at hStep
  split at hStep
  · next hIdle => exact ⟨hIdle, (Option.some.inj hStep).symm⟩
  · cases hStep

/- Bytes are taken in the event loop. -/
theorem eq_of_received
    {s s' : CommandState}
    {data : List UInt8}
    (hStep : commandStep s (.received data) = some s') :
    s.main = .waitEvent ∧ s' = s.receive data := by
  simp only [commandStep] at hStep
  split at hStep
  · next hMain => exact ⟨hMain, (Option.some.inj hStep).symm⟩
  · cases hStep

/- So is a timer that fires. -/
theorem eq_of_fires
    {s s' : CommandState}
    {command : Nat}
    (hStep : commandStep s (.fires command) = some s') :
    s.main = .waitEvent ∧ command ∈ s.timers ∧
      s' =
        { s with
          timers := s.timers.erase command
          main := .setTimeOut command } := by
  simp only [commandStep] at hStep
  split at hStep
  · next hFires =>
      exact ⟨hFires.1, hFires.2, (Option.some.inj hStep).symm⟩
  · cases hStep

/-
  What every statement of the main task leaves alone. It
  deletes no semaphore and creates none.
-/
structure MainFrame (s s' : CommandState) : Prop where
  sender : s'.sender = s.sender
  command : s'.command = s.command
  sent : s'.sent = s.sent
  received : s'.received = s.received
  semCmdSending : s'.semCmdSending = s.semCmdSending
  timers : s'.timers = s.timers
  live : ∀ handle, (s'.semaphores handle).isSome =
    (s.semaphores handle).isSome

theorem MainEffect.frame
    {malloc : Bool}
    {s s' : CommandState}
    (hEffect : MainEffect malloc s s') :
    MainFrame s s' := by
  cases hEffect with
  | released hMain hLive =>
      exact ⟨rfl, rfl, rfl, rfl, rfl, rfl, hLive⟩
  | _ => exact ⟨rfl, rfl, rfl, rfl, rfl, rfl, fun _ => rfl⟩

end Gps

------------------------------------------------------------
-- A Call That Is Not Interrupted
------------------------------------------------------------

namespace Gps

open Transition

/- The ack that `gpsAckMsg` points to. -/
def CommandState.ack (s : CommandState) : Option TakenAck :=
  s.gpsAckMsg.bind fun i => s.heap[i]?.map Block.ack

/- The main task is back in its event loop. -/
structure CallDone
    (result : UpdateState)
    (s : CommandState) : Prop where
  main : s.main = .waitEvent
  buffer : s.gpsNmeaBuffer = result.gps.gpsNmeaBuffer
  ack : result.released = true →
    s.ack.map TakenAck.bytes = result.gps.gpsAckMsg

/- From here the main task alone can finish the call. -/
def Finishes
    (s : CommandState)
    (result : UpdateState) : Prop :=
  ∃ events last,
    (∀ event ∈ events, ∃ malloc,
      event = CommandEvent.main malloc) ∧
    run commandStep s events = some last ∧
    CallDone result last

theorem finishes_of_done
    {s : CommandState}
    {result : UpdateState}
    (hDone : CallDone result s) :
    Finishes s result :=
  ⟨[], s, by simp, rfl, hDone⟩

theorem finishes_of_mainStep
    (malloc : Bool)
    {s : CommandState}
    (s' : CommandState)
    {result : UpdateState}
    (hStep : mainStep malloc s = some s')
    (hLater : Finishes s' result) :
    Finishes s result := by
  rcases hLater with ⟨events, last, hMain, hRun, hDone⟩
  refine ⟨.main malloc :: events, last, ?_, ?_, hDone⟩
  · intro event hMem
    rcases List.mem_cons.mp hMem with hHead | hTail
    · exact ⟨malloc, hHead⟩
    · exact hMain event hTail
  · have hCommand : commandStep s (.main malloc) = some s' :=
      hStep
    rwa [run_cons_of_some hCommand]

/- A release leaves the buffer and the ack alone. -/
theorem callDone_of_release
    {s : CommandState}
    {result : UpdateState}
    (hBuffer : s.gpsNmeaBuffer = result.gps.gpsNmeaBuffer)
    (hAck : s.ack.map TakenAck.bytes = result.gps.gpsAckMsg) :
    CallDone result { s.release with main := .waitEvent } := by
  unfold CommandState.release
  split <;> exact ⟨rfl, hBuffer, fun _ => hAck⟩

/-
  An ack that was taken out is stored and announced, if
  there is a block for it.
-/
theorem finishes_storeAck
    (malloc : Bool)
    {s : CommandState}
    {taken : Option TakenAck}
    {result : UpdateState}
    (hMain : s.main = .storeAck taken)
    (hBuffer : s.gpsNmeaBuffer = result.gps.gpsNmeaBuffer)
    (hReleased : result.released = true → malloc = true)
    (hAck : malloc = true → ∃ ack, taken = some ack ∧
      result.gps.gpsAckMsg = some ack.bytes) :
    Finishes s result := by
  cases malloc with
  | false =>
      apply finishes_of_mainStep false
        { s with gpsAckMsg := none, main := .waitEvent }
      · simp [mainStep, hMain, CommandState.store]
      · apply finishes_of_done
        refine ⟨rfl, hBuffer, fun hTrue => ?_⟩
        exact absurd (hReleased hTrue) (by decide)
  | true =>
      rcases hAck rfl with ⟨ack, rfl, hBytes⟩
      let stored : CommandState :=
        { s with
          heap := s.heap ++
            [{ command := s.command, ack := ack, frees := 0 }]
          gpsAckMsg := some s.heap.length
          main := .releaseAck }
      apply finishes_of_mainStep true
        stored
      · simp [mainStep, hMain, CommandState.store, stored]
      · apply finishes_of_mainStep true
          { stored.release with main := .waitEvent }
        · simp [mainStep, stored]
        · apply finishes_of_done
          apply callDone_of_release (s := stored) hBuffer
          rw [hBytes]
          simp [CommandState.ack, stored]

/- With a command in flight. -/
theorem finishes_updateCommand
    {s : CommandState}
    {u result : UpdateState}
    {malloc : Bool}
    (hBuffer : s.gpsNmeaBuffer = u.gps.gpsNmeaBuffer)
    (hMain : s.main = .findAck)
    (hSending : s.semCmdSending.isSome = true)
    (hReleased : u.released = false)
    (hUpdate : updateCommand malloc u = some result) :
    Finishes s result := by
  rw [updateCommand_eq_findAck] at hUpdate
  cases hFound : findAck u.gps.gpsNmeaBuffer with
  | none =>
      rw [hFound] at hUpdate
      rcases Option.some.inj hUpdate with rfl
      apply finishes_of_mainStep malloc
        { s with main := .waitEvent }
      · simp [mainStep, hMain, hBuffer, hFound]
      · apply finishes_of_done
        exact ⟨rfl, hBuffer, by simp [hReleased]⟩
  | some found =>
      rw [hFound] at hUpdate
      let taken : Option TakenAck :=
        found.index0.map fun index0 =>
          { first := s.oldest + index0
            bytes := found.bytes.drop index0 }
      let copied : CommandState :=
        { s with
          gpsNmeaBuffer := found.buffer
          main := .testAgain taken }
      apply finishes_of_mainStep malloc
        copied
      · simp [mainStep, hMain, hBuffer, hFound, copied, taken]
      · apply finishes_of_mainStep malloc
          { copied with main := .storeAck taken }
        · have hNot : s.semCmdSending ≠ none :=
            Option.isSome_iff_ne_none.mp hSending
          simp [mainStep, copied, hNot]
        · simp only [UpdateState.store] at hUpdate
          split at hUpdate
          · cases hUpdate
            exact finishes_storeAck false rfl
              rfl (by simp [hReleased]) (by simp)
          · cases hUpdate
          · next index0 hIndex0 =>
              cases hUpdate
              apply finishes_storeAck true rfl
                rfl (fun _ => rfl)
              intro _
              refine ⟨{ first := s.oldest + index0
                        bytes := found.bytes.drop index0 },
                ?_, rfl⟩
              simp [taken, hIndex0]

/- With no command in flight, the frame loop. -/
theorem finishes_frameLoop
    {u result : UpdateState}
    (hReturns : Loop.Returns updateBody u result)
    {s : CommandState}
    (hBuffer : s.gpsNmeaBuffer = u.gps.gpsNmeaBuffer)
    (hMain : s.main = .findFrame)
    (hReleased : u.released = false) :
    Finishes s result := by
  refine Loop.Returns.induction
    (motive := fun u result =>
      ∀ s : CommandState,
        s.gpsNmeaBuffer = u.gps.gpsNmeaBuffer →
        s.main = .findFrame → u.released = false →
        Finishes s result)
    ?_ ?_ hReturns s hBuffer hMain hReleased
  · intro u result hBody s hBuffer hMain hReleased
    unfold updateBody at hBody
    cases hFound : findFrame u.gps.gpsNmeaBuffer with
    | nothing =>
        simp only [hFound] at hBody
        cases hBody
        apply finishes_of_mainStep true
          { s with main := .waitEvent }
        · simp [mainStep, hMain, hBuffer, hFound]
        · apply finishes_of_done
          exact ⟨rfl, hBuffer, by simp [hReleased]⟩
    | openLine => simp [hFound] at hBody
    | frame bytes buffer =>
        simp only [hFound] at hBody
        split at hBody <;> cases hBody
  · intro u u' result hBody ih s hBuffer hMain hReleased
    unfold updateBody at hBody
    cases hFound : findFrame u.gps.gpsNmeaBuffer with
    | nothing => simp [hFound] at hBody
    | openLine =>
        simp only [hFound] at hBody
        cases hBody
        exact ih s hBuffer hMain hReleased
    | frame bytes buffer =>
        simp only [hFound] at hBody
        split at hBody
        · cases hBody
          exact ih s hBuffer hMain hReleased
        · cases hBody
          apply finishes_of_mainStep true
            { s with gpsNmeaBuffer := buffer }
          · simp [mainStep, hMain, hBuffer, hFound]
          · exact ih _ rfl hMain hReleased

/-
  A call of `GPS_Update` that the GPS task does not
  interrupt does what the call by itself does.
-/
theorem finishes_of_updates
    {malloc : Bool}
    {gps : State}
    {data : List UInt8}
    {result : UpdateState}
    (hUpdates : Updates malloc gps data result)
    {s s' : CommandState}
    (hBuffer : s.gpsNmeaBuffer = gps.gpsNmeaBuffer)
    (hSending : s.semCmdSending.isSome = gps.semCmdSending)
    (hReceived : commandStep s (.received data) = some s') :
    Finishes s' result := by
  rcases hUpdates with ⟨fuel, hUpdate⟩
  rcases eq_of_received hReceived with ⟨_, rfl⟩
  have hPuts : (s.receive data).gpsNmeaBuffer =
      (updateStart gps data).gps.gpsNmeaBuffer := by
    simp only [CommandState.receive, updateStart, hBuffer]
  simp only [update, ← hSending] at hUpdate
  split at hUpdate
  · next hSome =>
      apply finishes_of_mainStep malloc
        { s.receive data with main := .findAck }
      · simp [mainStep, CommandState.receive,
          Option.isSome_iff_ne_none.mp hSome]
      · exact finishes_updateCommand hPuts rfl hSome rfl
          hUpdate
  · next hNone =>
      have hSem : s.semCmdSending = none := by
        simpa using hNone
      apply finishes_of_mainStep malloc
        { s.receive data with main := .findFrame }
      · simp [mainStep, CommandState.receive, hSem]
      · exact finishes_frameLoop ⟨fuel, hUpdate⟩ hPuts rfl
          rfl

end Gps
