import Mathlib.Logic.Function.Basic
import GpsTracker.Gps.Ack
import GpsTracker.Lib.Transition

/-
  A command and its ack: `GPS_SendCMDWaitAck` and its callers
  in the GPS task, beside `GPS_Update` and `OnCmdAckFail` in
  the main task, statement by statement.

  A search of the ring and the `Buffer_Gets` behind it are
  one step: when `Buffer_Clear` comes between them the copy
  fails, as it does when the buffer is cleared before them.

  Some fields are there to be spoken about only. `received`
  counts the bytes that `Buffer_Puts` has accepted, so that
  each has a number; `sent` is that count when the command
  was written to the UART. A semaphore is named by the
  number of the command it was created for.

  Main declarations:
    * `Gps.Sender`, `Gps.MainTask`, `Gps.CommandState`
    * `Gps.findAck`, `Gps.updateCommand_eq_findAck`
    * `Gps.senderStep`, `Gps.mainStep`, `Gps.commandStep`
-/

open CString Machine ListSearch

------------------------------------------------------------
-- State
------------------------------------------------------------

namespace Gps

/- `GPS_Format_t` -/
inductive Format where
  | nmea
  | binary
deriving DecidableEq

/-
  The next statement of the GPS task. The last two are those
  of `GPS_SendWaiteNormalAck` and `GPS_GetVersion`, on every
  path of theirs.
-/
inductive Sender where
  | idle
  | clearTimeOut
  | createSemaphore
  | clearBuffer
  | send
  | startTimer
  | wait
  | deleteSemaphore
  | nullSemaphore
  | testTimeOut
  | stopTimer
  | readAck
  | freeAck
  | nullAck
deriving DecidableEq

/- The bytes of an ack, with the number of the first. -/
structure TakenAck where
  first : Nat
  bytes : List UInt8
deriving DecidableEq

/-
  The next statement of the main task: in its event loop, in
  `GPS_Update`, or in an `OnCmdAckFail` that was started for
  a command. An ack whose header is not found in the copy is
  a null pointer.
-/
inductive MainTask where
  | waitEvent
  | testSending
  | findFrame
  | findAck
  | testAgain (ack : Option TakenAck)
  | storeAck (ack : Option TakenAck)
  | releaseAck
  | setTimeOut (command : Nat)
  | releaseTimeOut (command : Nat)
deriving DecidableEq

/- A block of the heap that holds an ack. -/
structure Block where
  command : Nat
  ack : TakenAck
  frees : Nat
deriving DecidableEq

/-
  What the two tasks share, and where they stand. `command`
  counts the commands begun, `timers` holds the commands
  whose callback timer runs, and `gpsAckMsg` is the number
  of the block it points to.
-/
structure CommandState where
  sender : Sender
  main : MainTask
  command : Nat
  format : Format
  gpsNmeaBuffer : Buffer dataBufferMaxLength
  received : Nat
  sent : Nat
  isCmdSendTimeOut : Bool
  semCmdSending : Option Nat
  semaphores : Nat → Option Nat
  timers : List Nat
  gpsAckMsg : Option Nat
  heap : List Block

/- No command has been sent yet. -/
def commandBoot : CommandState :=
  { sender := .idle
    main := .waitEvent
    command := 0
    format := .nmea
    gpsNmeaBuffer := boot.gpsNmeaBuffer
    received := 0
    sent := 0
    isCmdSendTimeOut := false
    semCmdSending := none
    semaphores := fun _ => none
    timers := []
    gpsAckMsg := none
    heap := [] }

/- The number of the oldest byte in the buffer. -/
def CommandState.oldest (s : CommandState) : Nat :=
  s.received - s.gpsNmeaBuffer.size

end Gps

------------------------------------------------------------
-- The Ack in the Buffer
------------------------------------------------------------

namespace Gps

/-
  What is copied out of the buffer for an ack: the bytes,
  where the second search finds the header in them, and the
  buffer behind the copy.
-/
structure FoundAck where
  bytes : List UInt8
  index0 : Option Nat
  buffer : Buffer dataBufferMaxLength

/- The copy, behind a header at a ring index. -/
def copyAck
    (start : List UInt8 → Option Nat)
    (index : Fin dataBufferMaxLength)
    (buffer : Buffer dataBufferMaxLength) :
    Option FoundAck :=
  match buffer.query crlf index with
  | none => none
  | some index2 =>
      (buffer.gets (copyLength buffer index2)).map
        fun copy => ⟨copy.1, start copy.1, copy.2⟩

/- The searches of `GPS_Update` with a command in flight. -/
def findAck
    (buffer : Buffer dataBufferMaxLength) :
    Option FoundAck :=
  match buffer.query cmdHeader buffer.startPosition with
  | some index =>
      copyAck
        (fun bytes => strstr (tmp bytes) 0 cmdHeader)
        index buffer
  | none =>
      match buffer.query cmdBinaryHeader
          buffer.startPosition with
      | none => none
      | some index => copyAck binaryStart index buffer

/- `gpsAckMsg` behind the call of `OS_Malloc`. -/
def UpdateState.store
    (malloc : Bool)
    (s : UpdateState)
    (found : FoundAck) : Option UpdateState :=
  let gps := { s.gps with gpsNmeaBuffer := found.buffer }
  match malloc, found.index0 with
  | false, _ =>
      some { s with gps := { gps with gpsAckMsg := none } }
  | true, none => none
  | true, some index0 =>
      some
        { s with
          gps :=
            { gps with
              gpsAckMsg := some (found.bytes.drop index0) }
          released := true }

theorem takeAck_eq_copyAck
    (malloc : Bool)
    (start : List UInt8 → Option Nat)
    (index : Fin dataBufferMaxLength)
    (s : UpdateState) :
    takeAck malloc start index s =
      match copyAck start index s.gps.gpsNmeaBuffer with
      | none => some s
      | some found => s.store malloc found := by
  unfold takeAck copyAck
  cases s.gps.gpsNmeaBuffer.query crlf index with
  | none => rfl
  | some index2 =>
      simp only [handOver]
      cases s.gps.gpsNmeaBuffer.gets
          (copyLength s.gps.gpsNmeaBuffer index2) with
      | none => rfl
      | some copy =>
          cases malloc <;> cases hStart : start copy.1 <;>
            simp [UpdateState.store, hStart]

/-
  The branch with a command in flight is these searches and
  the hand-over behind them.
-/
theorem updateCommand_eq_findAck
    (malloc : Bool)
    (s : UpdateState) :
    updateCommand malloc s =
      match findAck s.gps.gpsNmeaBuffer with
      | none => some s
      | some found => s.store malloc found := by
  unfold updateCommand findAck
  cases hNmea : s.gps.gpsNmeaBuffer.query cmdHeader
      s.gps.gpsNmeaBuffer.startPosition with
  | some index =>
      simp only [hNmea, takeAck_eq_copyAck]
  | none =>
      simp only [hNmea]
      cases hBinary : s.gps.gpsNmeaBuffer.query
          cmdBinaryHeader
          s.gps.gpsNmeaBuffer.startPosition with
      | none => rfl
      | some index => simp only [takeAck_eq_copyAck]

end Gps

------------------------------------------------------------
-- Statements
------------------------------------------------------------

namespace Gps

/-
  `OS_ReleaseSemaphore(semCmdSending)`. On NULL, or on a
  semaphore that was deleted, it has no effect here.
-/
def CommandState.release (s : CommandState) : CommandState :=
  match s.semCmdSending with
  | none => s
  | some handle =>
      { s with
        semaphores := Function.update s.semaphores handle
          ((s.semaphores handle).map (· + 1)) }

/- `OS_Free` of a block, or of NULL. -/
def freeBlock
    (block : Option Nat)
    (heap : List Block) : List Block :=
  match block with
  | none => heap
  | some i =>
      heap.modify i fun b => { b with frees := b.frees + 1 }

/-
  A statement of the GPS task. It has no step while it waits
  for the semaphore, and none when it reads the ack through
  a null pointer.
-/
def senderStep (s : CommandState) : Option CommandState :=
  match s.sender with
  | .idle => none
  | .clearTimeOut =>
      some
        { s with
          isCmdSendTimeOut := false
          sender := .createSemaphore }
  | .createSemaphore =>
      some
        { s with
          semCmdSending := some s.command
          semaphores :=
            Function.update s.semaphores s.command (some 0)
          sender :=
            match s.format with
            | .nmea => .clearBuffer
            | .binary => .send }
  | .clearBuffer =>
      some
        { s with
          gpsNmeaBuffer := s.gpsNmeaBuffer.clear
          sender := .send }
  | .send =>
      some { s with sent := s.received, sender := .startTimer }
  | .startTimer =>
      some
        { s with
          timers := s.timers ++ [s.command]
          sender := .wait }
  | .wait =>
      match s.semCmdSending with
      | none => none
      | some handle =>
          match s.semaphores handle with
          | some (count + 1) =>
              some
                { s with
                  semaphores :=
                    Function.update s.semaphores handle
                      (some count)
                  sender := .deleteSemaphore }
          | _ => none
  | .deleteSemaphore =>
      match s.semCmdSending with
      | none => none
      | some handle =>
          some
            { s with
              semaphores :=
                Function.update s.semaphores handle none
              sender := .nullSemaphore }
  | .nullSemaphore =>
      some
        { s with
          semCmdSending := none
          sender := .testTimeOut }
  | .testTimeOut =>
      if s.isCmdSendTimeOut then
        some { s with sender := .freeAck }
      else
        some { s with sender := .stopTimer }
  | .stopTimer =>
      some { s with timers := [], sender := .readAck }
  | .readAck =>
      if s.gpsAckMsg.isSome then
        some { s with sender := .freeAck }
      else
        none
  | .freeAck =>
      some
        { s with
          heap := freeBlock s.gpsAckMsg s.heap
          sender := .nullAck }
  | .nullAck =>
      some { s with gpsAckMsg := none, sender := .idle }

/-
  `gpsAckMsg = OS_Malloc(len)` and the `memcpy` behind it.
  A copy from a null pointer has no step.
-/
def CommandState.store
    (malloc : Bool)
    (ack : Option TakenAck)
    (s : CommandState) : Option CommandState :=
  match malloc, ack with
  | false, _ =>
      some { s with gpsAckMsg := none, main := .waitEvent }
  | true, none => none
  | true, some ack =>
      some
        { s with
          heap := s.heap ++
            [{ command := s.command, ack := ack, frees := 0 }]
          gpsAckMsg := some s.heap.length
          main := .releaseAck }

/- A statement of the main task, once it has an event. -/
def mainStep
    (malloc : Bool)
    (s : CommandState) : Option CommandState :=
  match s.main with
  | .waitEvent => none
  | .testSending =>
      if s.semCmdSending.isNone then
        some { s with main := .findFrame }
      else
        some { s with main := .findAck }
  | .findFrame =>
      match findFrame s.gpsNmeaBuffer with
      | .nothing => some { s with main := .waitEvent }
      | .openLine => some s
      | .frame _ buffer =>
          some { s with gpsNmeaBuffer := buffer }
  | .findAck =>
      match findAck s.gpsNmeaBuffer with
      | none => some { s with main := .waitEvent }
      | some found =>
          some
            { s with
              gpsNmeaBuffer := found.buffer
              main := .testAgain
                (found.index0.map fun index0 =>
                  { first := s.oldest + index0
                    bytes := found.bytes.drop index0 }) }
  | .testAgain ack =>
      if s.semCmdSending.isNone then
        some { s with main := .waitEvent }
      else
        some { s with main := .storeAck ack }
  | .storeAck ack => s.store malloc ack
  | .releaseAck => some { s.release with main := .waitEvent }
  | .setTimeOut command =>
      some
        { s with
          isCmdSendTimeOut := true
          main := .releaseTimeOut command }
  | .releaseTimeOut _ =>
      some { s.release with main := .waitEvent }

/- `Buffer_Puts`, with which `GPS_Update` begins. -/
def CommandState.receive
    (data : List UInt8)
    (s : CommandState) : CommandState :=
  let buffer :=
    (s.gpsNmeaBuffer.puts data (u16 data.length)).2
  { s with
    gpsNmeaBuffer := buffer
    received :=
      s.received + (buffer.size - s.gpsNmeaBuffer.size)
    main := .testSending }

/-
  What happens next: a command is begun, one of the tasks
  executes a statement, bytes arrive, or a timer fires. The
  main task takes events in its event loop only.
-/
inductive CommandEvent where
  | start (format : Format)
  | sender
  | main (malloc : Bool)
  | received (data : List UInt8)
  | fires (command : Nat)

/- One step of the two tasks. -/
def commandStep
    (s : CommandState) :
    CommandEvent → Option CommandState
| .start format =>
    if s.sender = .idle then
      some
        { s with
          command := s.command + 1
          format := format
          sender := .clearTimeOut }
    else
      none
| .sender => senderStep s
| .main malloc => mainStep malloc s
| .received data =>
    if s.main = .waitEvent then some (s.receive data) else none
| .fires command =>
    if s.main = .waitEvent ∧ command ∈ s.timers then
      some
        { s with
          timers := s.timers.erase command
          main := .setTimeOut command }
    else
      none

end Gps
