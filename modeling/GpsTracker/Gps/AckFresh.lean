import GpsTracker.Gps.Semaphore

/-
  Whether the ack that completes a command was received
  behind it.

  An NMEA command clears the buffer before it is written to
  the UART; a binary command does not, and with no command
  in flight a binary ack stays in the buffer until a VTG
  line takes it out. An ack, or the beginning of one, that
  is there when the command is written completes it.

  Main declarations:
    * `Gps.holdsAckStart`
    * `Gps.SentClean`, `Gps.AckFresh`
    * `Gps.ack_fresh`
-/

open Transition CString ListSearch Machine

------------------------------------------------------------
-- Acks in a Byte Sequence
------------------------------------------------------------

namespace Gps

/- A header stands at the start, whole or cut off. -/
def startsAck (bytes : List UInt8) : Bool :=
  [cmdHeader, cmdBinaryHeader].any fun header =>
    header.isPrefixOf bytes || bytes.isPrefixOf header

/- A header begins somewhere in the bytes. -/
def holdsAckStart : List UInt8 → Bool
| [] => false
| b :: bytes => startsAck (b :: bytes) || holdsAckStart bytes

theorem startsAck_of_isPrefix
    {bytes header : List UInt8}
    (hHeader : header ∈ [cmdHeader, cmdBinaryHeader])
    (hPrefix : header <+: bytes ∨ bytes <+: header) :
    startsAck bytes = true := by
  rw [startsAck, List.any_eq_true]
  refine ⟨header, hHeader, ?_⟩
  simpa using hPrefix

theorem holdsAckStart_of_drop
    {bytes : List UInt8}
    {k : Nat}
    (hLater : holdsAckStart (bytes.drop k) = true) :
    holdsAckStart bytes = true := by
  induction k generalizing bytes with
  | zero => simpa using hLater
  | succ k ih =>
      cases bytes with
      | nil => simpa using hLater
      | cons b bytes =>
          rw [holdsAckStart, Bool.or_eq_true]
          exact Or.inr (ih (by simpa using hLater))

theorem holdsAckStart_of_startsAck
    {bytes : List UInt8}
    {i : Nat}
    (hInside : i < bytes.length)
    (hStarts : startsAck (bytes.drop i) = true) :
    holdsAckStart bytes = true := by
  apply holdsAckStart_of_drop (k := i)
  rw [List.drop_eq_getElem_cons hInside] at hStarts ⊢
  rw [holdsAckStart, hStarts, Bool.true_or]

/-
  A header that begins in the first bytes of a text leaves
  its beginning there.
-/
theorem holdsAckStart_take
    {text header : List UInt8}
    {i n : Nat}
    (hHeader : header ∈ [cmdHeader, cmdBinaryHeader])
    (hOccurs : OccursAt header text i)
    (hInside : i < n)
    (hLength : n ≤ text.length) :
    holdsAckStart (text.take n) = true := by
  apply holdsAckStart_of_startsAck (i := i)
  · rw [List.length_take]
    omega
  · apply startsAck_of_isPrefix hHeader
    have hPart : (text.take n).drop i <+: text.drop i := by
      rw [List.drop_take]
      exact List.take_prefix _ _
    exact List.prefix_or_prefix_of_prefix hOccurs hPart

end Gps

------------------------------------------------------------
-- The Condition
------------------------------------------------------------

namespace Gps

/- The command is written, and its ack not read yet. -/
def Sender.awaits : Sender → Bool
  | .startTimer => true
  | .wait => true
  | .deleteSemaphore => true
  | .nullSemaphore => true
  | .testTimeOut => true
  | .stopTimer => true
  | .readAck => true
  | _ => false

/-
  The condition on a step: when a command is written to the
  UART no ack is in the slot or on the way to it, and none
  begins in the buffer.
-/
def SentClean (s : CommandState) : CommandEvent → Prop
| .sender =>
    s.sender = .send →
      s.gpsAckMsg = none ∧ s.main.carried = none ∧
        holdsAckStart s.gpsNmeaBuffer.contents = false
| _ => True

instance (s : CommandState) (event : CommandEvent) :
    Decidable (SentClean s event) :=
  match event with
  | .sender =>
      inferInstanceAs (Decidable
        (s.sender = .send →
          s.gpsAckMsg = none ∧ s.main.carried = none ∧
            holdsAckStart s.gpsNmeaBuffer.contents = false))
  | .start _ => instDecidableTrue
  | .main _ => instDecidableTrue
  | .received _ => instDecidableTrue
  | .fires _ => instDecidableTrue

/- The bytes in the buffer from before the command. -/
def CommandState.stale (s : CommandState) : List UInt8 :=
  s.gpsNmeaBuffer.contents.take (s.sent - s.oldest)

/- The bytes received are numbered without a gap. -/
structure Numbered (s : CommandState) : Prop where
  size_le : s.gpsNmeaBuffer.size ≤ s.received
  sent_le : s.sent ≤ s.received

/-
  Wherever the ack of a command is, in the slot, on the way
  to it or still in the buffer, it begins behind the command.
-/
structure BehindCommand (s : CommandState) : Prop where
  slot : ∀ ack, s.ack = some ack → s.sent ≤ ack.first
  carried : ∀ ack, s.main.carried = some ack →
    s.sent ≤ ack.first
  stale : holdsAckStart s.stale = false

theorem numbered_boot : Numbered commandBoot :=
  { size_le := by
      rw [← Buffer.length_contents]
      simp [commandBoot, boot]
    sent_le := Nat.le_refl 0 }

end Gps

------------------------------------------------------------
-- Steps
------------------------------------------------------------

namespace Gps

/- Bytes that arrive stand behind those in the buffer. -/
theorem receive_contents
    (s : CommandState)
    (data : List UInt8) :
    ∃ more,
      (s.receive data).gpsNmeaBuffer.contents =
        s.gpsNmeaBuffer.contents ++ more ∧
      (s.receive data).received =
        s.received + more.length := by
  have hPuts := s.gpsNmeaBuffer.contents_puts data
    (u16 data.length)
  have hLength := congrArg List.length hPuts
  simp only [CommandState.receive]
  rw [Buffer.length_contents] at hLength
  split at hPuts
  · next hRoom =>
      rw [if_pos hRoom, List.length_append,
        Buffer.length_contents] at hLength
      exact ⟨data.take (u16 data.length), hPuts, by omega⟩
  · next hFull =>
      rw [if_neg hFull, Buffer.length_contents] at hLength
      exact ⟨[], by rw [hPuts, List.append_nil], by
        rw [List.length_nil]; omega⟩

/- What is taken out of the buffer is its oldest bytes. -/
theorem stale_of_drop
    {s s' : CommandState}
    {k : Nat}
    (hNumbered : Numbered s)
    (hHeld : k ≤ s.gpsNmeaBuffer.contents.length)
    (hContents : s'.gpsNmeaBuffer.contents =
      s.gpsNmeaBuffer.contents.drop k)
    (hSent : s'.sent = s.sent)
    (hReceived : s'.received = s.received) :
    s'.stale = s.stale.drop k := by
  have hSize := hNumbered.size_le
  have hLater : s'.gpsNmeaBuffer.size =
      s.gpsNmeaBuffer.size - k := by
    rw [← Buffer.length_contents, hContents,
      List.length_drop, Buffer.length_contents]
  rw [Buffer.length_contents] at hHeld
  unfold CommandState.stale CommandState.oldest
  rw [hContents, hSent, hReceived, hLater, List.drop_take]
  congr 1
  omega

theorem stale_of_receive
    {s : CommandState}
    (hNumbered : Numbered s)
    (data : List UInt8) :
    (s.receive data).stale = s.stale := by
  rcases receive_contents s data with
    ⟨more, hContents, hReceived⟩
  have hSize := hNumbered.size_le
  have hSentLe := hNumbered.sent_le
  have hLater : (s.receive data).gpsNmeaBuffer.size =
      s.gpsNmeaBuffer.size + more.length := by
    rw [← Buffer.length_contents, hContents,
      List.length_append, Buffer.length_contents]
  have hOldest : (s.receive data).oldest = s.oldest := by
    unfold CommandState.oldest
    omega
  have hSent : (s.receive data).sent = s.sent := rfl
  unfold CommandState.stale
  rw [hContents, hOldest, hSent, List.take_append_of_le_length]
  rw [Buffer.length_contents]
  unfold CommandState.oldest
  omega

theorem holdsAckStart_drop_eq_false
    {bytes : List UInt8}
    {k : Nat}
    (hNone : holdsAckStart bytes = false) :
    holdsAckStart (bytes.drop k) = false := by
  by_contra hHolds
  rw [Bool.not_eq_false] at hHolds
  rw [holdsAckStart_of_drop hHolds] at hNone
  cases hNone

/- The ack that is found begins behind the command. -/
theorem sent_le_of_takesOut
    {s : CommandState}
    {ack : TakenAck}
    (hNumbered : Numbered s)
    (hStale : holdsAckStart s.stale = false)
    (hTakes : s.TakesOut ack) :
    s.sent ≤ ack.first := by
  rcases hTakes with ⟨header, hHeader, i, hOccurs, hFirst⟩
  by_contra hBefore
  have hSize := hNumbered.size_le
  have hSent := hNumbered.sent_le
  have hLength : s.sent - s.oldest ≤
      s.gpsNmeaBuffer.contents.length := by
    rw [Buffer.length_contents]
    unfold CommandState.oldest
    omega
  have hHolds : holdsAckStart s.stale = true :=
    holdsAckStart_take hHeader hOccurs (by omega) hLength
  rw [hStale] at hHolds
  cases hHolds

theorem numbered_of_drop
    {s s' : CommandState}
    {k : Nat}
    (hNumbered : Numbered s)
    (hContents : s'.gpsNmeaBuffer.contents =
      s.gpsNmeaBuffer.contents.drop k)
    (hSent : s'.sent = s.sent)
    (hReceived : s'.received = s.received) :
    Numbered s' := by
  have hSize := hNumbered.size_le
  have hLater : s'.gpsNmeaBuffer.size =
      s.gpsNmeaBuffer.size - k := by
    rw [← Buffer.length_contents, hContents,
      List.length_drop, Buffer.length_contents]
  constructor
  · omega
  · rw [hSent, hReceived]
    exact hNumbered.sent_le

theorem numbered_mainStep
    {s s' : CommandState}
    {malloc : Bool}
    (hNumbered : Numbered s)
    (hStep : mainStep malloc s = some s') :
    Numbered s' := by
  cases mainEffect_of_mainStep hStep with
  | moved k _ _ _ hContents _ =>
      exact numbered_of_drop hNumbered hContents rfl rfl
  | _ => exact ⟨hNumbered.size_le, hNumbered.sent_le⟩

/- Some of the oldest bytes are taken out of the buffer. -/
theorem BehindCommand.taken
    {s s' : CommandState}
    {k : Nat}
    (hBehind : BehindCommand s)
    (hNumbered : Numbered s)
    (hHeld : k ≤ s.gpsNmeaBuffer.contents.length)
    (hContents : s'.gpsNmeaBuffer.contents =
      s.gpsNmeaBuffer.contents.drop k)
    (hSent : s'.sent = s.sent)
    (hReceived : s'.received = s.received)
    (hAck : s'.ack = s.ack)
    (hCarried : ∀ ack, s'.main.carried = some ack →
      s.main.carried = some ack ∨ s.TakesOut ack) :
    BehindCommand s' := by
  constructor
  · rw [hAck, hSent]
    exact hBehind.slot
  · intro ack hLater
    rw [hSent]
    rcases hCarried ack hLater with hBefore | hTakes
    · exact hBehind.carried ack hBefore
    · exact sent_le_of_takesOut hNumbered hBehind.stale hTakes
  · rw [stale_of_drop hNumbered hHeld hContents hSent
      hReceived]
    exact holdsAckStart_drop_eq_false hBehind.stale

theorem behindCommand_mainStep
    {s s' : CommandState}
    {malloc : Bool}
    (hNumbered : Numbered s)
    (hBehind : BehindCommand s)
    (hStep : mainStep malloc s = some s') :
    BehindCommand s' := by
  cases mainEffect_of_mainStep hStep with
  | moved k _ _ hHeld hContents hCarried =>
      exact hBehind.taken hNumbered hHeld hContents rfl rfl rfl
        hCarried
  | failed _ _ =>
      refine ⟨?_, fun _ hAck => (by cases hAck),
        hBehind.stale⟩
      intro ack hAck
      cases hAck
  | @stored stored hMain _ =>
      refine ⟨?_, fun _ hAck => (by cases hAck),
        hBehind.stale⟩
      intro ack hAck
      apply hBehind.carried
      rw [hMain]
      simpa [CommandState.ack, MainTask.carried] using hAck
  | released _ _ =>
      exact ⟨hBehind.slot, fun _ hAck => (by cases hAck),
        hBehind.stale⟩
  | flagged _ =>
      exact ⟨hBehind.slot, fun _ hAck => (by cases hAck),
        hBehind.stale⟩

/-
  A statement of the GPS task that leaves the buffer, the
  slot and the count of the command alone.
-/
theorem BehindCommand.same
    {s s' : CommandState}
    (hBehind : BehindCommand s)
    (hBuffer : s'.gpsNmeaBuffer = s.gpsNmeaBuffer)
    (hReceived : s'.received = s.received)
    (hSent : s'.sent = s.sent)
    (hMain : s'.main = s.main)
    (hAck : s'.ack = s.ack) :
    BehindCommand s' := by
  have hStale : s'.stale = s.stale := by
    unfold CommandState.stale CommandState.oldest
    rw [hBuffer, hReceived, hSent]
  constructor
  · rw [hAck, hSent]
    exact hBehind.slot
  · rw [hMain, hSent]
    exact hBehind.carried
  · rw [hStale]
    exact hBehind.stale

/- The command is written over a clean state. -/
theorem behindCommand_send
    {s : CommandState}
    (hNumbered : Numbered s)
    (hSlot : s.gpsAckMsg = none)
    (hCarried : s.main.carried = none)
    (hBuffer :
      holdsAckStart s.gpsNmeaBuffer.contents = false) :
    BehindCommand
      { s with sent := s.received, sender := .startTimer } := by
  refine ⟨?_, ?_, ?_⟩
  · intro ack hAck
    simp [CommandState.ack, hSlot] at hAck
  · intro ack hAck
    rw [hCarried] at hAck
    cases hAck
  · have hSize := hNumbered.size_le
    unfold CommandState.stale CommandState.oldest
    rw [List.take_of_length_le]
    · exact hBuffer
    · rw [Buffer.length_contents]
      dsimp only
      omega

/- What the statements of the GPS task leave alone. -/
structure SenderFrame (s s' : CommandState) : Prop where
  main : s'.main = s.main
  received : s'.received = s.received
  buffer : s.sender ≠ .clearBuffer →
    s'.gpsNmeaBuffer = s.gpsNmeaBuffer
  sent : s.sender ≠ .send → s'.sent = s.sent
  heap : s.sender ≠ .freeAck → s'.heap = s.heap
  slot : s.sender ≠ .nullAck → s'.gpsAckMsg = s.gpsAckMsg
  awaits : s'.sender.awaits = true →
    s.sender = .send ∨ s.sender.awaits = true

theorem senderFrame_of_senderStep
    {s s' : CommandState}
    (hStep : senderStep s = some s') :
    SenderFrame s s' := by
  cases senderEffect_of_senderStep hStep with
  | created hAt hNext =>
      rcases hNext with rfl | rfl <;>
        constructor <;> simp [Sender.awaits]
  | cleared hAt | emptied hAt | sent hAt | started hAt
  | nulled hAt | stopped hAt | freed hAt | returned hAt =>
      constructor <;> simp [hAt, Sender.awaits]
  | timedOut hAt _ | acked hAt _ | read hAt _
  | deleted hAt _ =>
      constructor <;> simp [hAt, Sender.awaits]
  | woken hAt _ _ =>
      constructor <;> simp [hAt, Sender.awaits]

theorem numbered_senderStep
    {s s' : CommandState}
    (hNumbered : Numbered s)
    (hStep : senderStep s = some s') :
    Numbered s' := by
  have hFrame := senderFrame_of_senderStep hStep
  constructor
  · rw [hFrame.received]
    by_cases hClear : s.sender = .clearBuffer
    · simp only [senderStep, hClear] at hStep
      cases hStep
      rw [← Buffer.length_contents]
      simp
    · rw [hFrame.buffer hClear]
      exact hNumbered.size_le
  · rw [hFrame.received]
    by_cases hSend : s.sender = .send
    · simp only [senderStep, hSend] at hStep
      cases hStep
      exact Nat.le_refl _
    · rw [hFrame.sent hSend]
      exact hNumbered.sent_le

theorem behindCommand_senderStep
    {s s' : CommandState}
    (hNumbered : Numbered s)
    (hBehind : s.sender.awaits = true → BehindCommand s)
    (hClean : s.sender = .send →
      s.gpsAckMsg = none ∧ s.main.carried = none ∧
        holdsAckStart s.gpsNmeaBuffer.contents = false)
    (hStep : senderStep s = some s')
    (hAwaits : s'.sender.awaits = true) :
    BehindCommand s' := by
  have hFrame := senderFrame_of_senderStep hStep
  rcases hFrame.awaits hAwaits with hSend | hBefore
  · rcases hClean hSend with ⟨hSlot, hCarried, hBuffer⟩
    simp only [senderStep, hSend] at hStep
    cases hStep
    exact behindCommand_send hNumbered hSlot hCarried hBuffer
  · have hNot : ∀ sender, sender.awaits = false →
        s.sender ≠ sender := by
      rintro sender hFalse rfl
      rw [hBefore] at hFalse
      cases hFalse
    apply (hBehind hBefore).same
    · exact hFrame.buffer (hNot _ rfl)
    · exact hFrame.received
    · exact hFrame.sent (hNot _ rfl)
    · exact hFrame.main
    · unfold CommandState.ack
      rw [hFrame.slot (hNot _ rfl), hFrame.heap (hNot _ rfl)]

theorem behindCommand_receive
    {s : CommandState}
    (hNumbered : Numbered s)
    (hBehind : BehindCommand s)
    (data : List UInt8) :
    BehindCommand (s.receive data) := by
  refine ⟨hBehind.slot, fun _ hAck => (by cases hAck), ?_⟩
  rw [stale_of_receive hNumbered]
  exact hBehind.stale

theorem numbered_receive
    {s : CommandState}
    (hNumbered : Numbered s)
    (data : List UInt8) :
    Numbered (s.receive data) := by
  rcases receive_contents s data with
    ⟨more, hContents, hReceived⟩
  have hSize := hNumbered.size_le
  have hSent := hNumbered.sent_le
  constructor
  · rw [← Buffer.length_contents, hContents, hReceived,
      List.length_append, Buffer.length_contents]
    omega
  · rw [hReceived]
    exact Nat.le_trans hSent (Nat.le_add_right _ _)

end Gps

------------------------------------------------------------
-- Whole Runs
------------------------------------------------------------

namespace Gps

/- As long as a command awaits its ack. -/
structure Fresh (s : CommandState) : Prop where
  numbered : Numbered s
  behind : s.sender.awaits = true → BehindCommand s

theorem fresh_boot : Fresh commandBoot :=
  { numbered := numbered_boot
    behind := fun hAwaits => by cases hAwaits }

theorem fresh_step
    {s s' : CommandState}
    {event : CommandEvent}
    (hFresh : Fresh s)
    (hClean : SentClean s event)
    (hStep : commandStep s event = some s') :
    Fresh s' := by
  have hNumbered := hFresh.numbered
  cases event with
  | start format =>
      rcases eq_of_start hStep with ⟨_, rfl⟩
      exact ⟨⟨hNumbered.size_le, hNumbered.sent_le⟩,
        fun hAwaits => by cases hAwaits⟩
  | sender =>
      exact ⟨numbered_senderStep hNumbered hStep,
        behindCommand_senderStep hNumbered hFresh.behind
          hClean hStep⟩
  | main malloc =>
      refine ⟨numbered_mainStep hNumbered hStep, ?_⟩
      intro hAwaits
      rw [(mainEffect_of_mainStep hStep).frame.sender]
        at hAwaits
      exact behindCommand_mainStep hNumbered
        (hFresh.behind hAwaits) hStep
  | received data =>
      rcases eq_of_received hStep with ⟨_, rfl⟩
      exact ⟨numbered_receive hNumbered data,
        fun hAwaits => behindCommand_receive hNumbered
          (hFresh.behind hAwaits) data⟩
  | fires command =>
      rcases eq_of_fires hStep with ⟨_, _, rfl⟩
      refine ⟨⟨hNumbered.size_le, hNumbered.sent_le⟩, ?_⟩
      intro hAwaits
      have hBehind := hFresh.behind hAwaits
      exact ⟨hBehind.slot, fun _ hAck => (by cases hAck),
        hBehind.stale⟩

/- The ack that is read was received behind the command. -/
def AckFresh (s : CommandState) : Prop :=
  s.sender = .readAck → ∀ ack, s.ack = some ack →
    s.sent ≤ ack.first

/-
  In a run in which every command is written over a buffer
  in which no ack begins, and with none taken out of it, a
  command is completed by bytes received behind it.
-/
theorem ack_fresh
    (events : List CommandEvent)
    (last : CommandState)
    (hRun : run commandStep commandBoot events = some last)
    (hClean : ∀ t ∈ taken commandStep commandBoot events,
      SentClean t.1 t.2) :
    AckFresh last := by
  have hFresh := run_invariant Fresh SentClean
    (fun _ _ _ hHold hMeets hStep =>
      fresh_step hHold hMeets hStep)
    hRun hClean fresh_boot
  intro hRead ack hAck
  have hBehind := hFresh.behind (by rw [hRead]; rfl)
  exact hBehind.slot ack hAck

/- The command of `ackInTime`, up to where its ack is read. -/
def ackRead : List CommandEvent :=
  ackInTime ++ [.sender, .sender]

theorem ack_fresh_ackRead :
    ∃ last, run commandStep commandBoot ackRead = some last ∧
      last.sender = .readAck ∧ last.ack.isSome = true ∧
      AckFresh last := by
  have hView : (run commandStep commandBoot ackRead).map
      (fun s => (s.sender, s.ack.isSome)) =
        some (.readAck, true) := by
    decide +kernel
  have hAll : (taken commandStep commandBoot ackRead).all
      (fun t => decide (SentClean t.1 t.2)) = true := by
    decide +kernel
  rcases Option.map_eq_some_iff.mp hView with
    ⟨last, hRun, hLast⟩
  simp only [Prod.mk.injEq] at hLast
  refine ⟨last, hRun, hLast.1, hLast.2, ?_⟩
  apply ack_fresh ackRead last hRun
  intro t hMem
  exact of_decide_eq_true (List.all_eq_true.mp hAll t hMem)

/-
  A binary ack is received with no command in flight and
  stays in the buffer. The next binary command is completed
  by it as soon as a byte arrives.
-/
def staleAck : List CommandEvent :=
  [.received [0xaa, 0xf0, 0x0c, 0x00, 0x03, 0x00, 0x00, 0x00,
      0x01, 0x0e, 0x0d, 0x0a],
    .main true, .main true,
    .start .binary, .sender, .sender, .sender, .sender,
    .received [0x24],
    .main true, .main true, .main true, .main true,
    .main true,
    .sender, .sender, .sender, .sender, .sender]

theorem stale_ack_completes :
    ¬ ∀ events last,
      run commandStep commandBoot events = some last →
      AckFresh last := by
  intro hAll
  have hView : (run commandStep commandBoot staleAck).map
      (fun s => (s.sender, s.ack.map TakenAck.first, s.sent)) =
        some (.readAck, some 0, 12) := by
    decide +kernel
  rcases Option.map_eq_some_iff.mp hView with
    ⟨last, hRun, hLast⟩
  simp only [Prod.mk.injEq] at hLast
  rcases hLast with ⟨hRead, hAck, hSent⟩
  rcases Option.map_eq_some_iff.mp hAck with ⟨ack, hAck, hFirst⟩
  have hFresh := hAll staleAck last hRun hRead ack hAck
  omega

end Gps
