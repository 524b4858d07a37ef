import GpsTracker.Gps.ParseNmea
import GpsTracker.Utils.Buffer

/-
  `GPS_Update` of `libs/gps/src/gps.c`.

  Received bytes are put into the ring buffer. With no
  command in flight, frames up to a VTG line are taken out
  and parsed; with a command in flight, the first ack is
  taken out and handed to the waiting task.

  Debug output is left out; it has no effect on the state.

  Main declarations:
    * `Gps.State`, `Gps.boot`
    * `Gps.updateBody`, `Gps.updateCommand`
    * `Gps.update`, `Gps.Updates`
-/

open CString Machine ListSearch

------------------------------------------------------------
-- State
------------------------------------------------------------

namespace Gps

/- `GPS_NMEA_FRAME_BUFFER_LENGTH` -/
def nmeaFrameBufferLength : Nat := 1024

/- `GPS_DATA_BUFFER_MAX_LENGTH` -/
def dataBufferMaxLength : Nat := 2048

/- `GPS_CMD_HEADER` -/
def cmdHeader : List UInt8 := ascii "$PGKC"

/- `GPS_CMD_BINARY_HEADER` -/
def cmdBinaryHeader : List UInt8 := [0xaa, 0xf0]

/-
  The static variables that `GPS_Update` works on. A handle
  or a pointer that is only compared with NULL is a `Bool`;
  `gpsAckMsg` is the block it points to.
-/
structure State where
  gpsNmeaBuffer : Buffer dataBufferMaxLength
  semCmdSending : Bool
  gpsAckMsg : Option (List UInt8)
  isSaveLog : Bool
  parser : Parser

/- The state at program start, after `GPS_Init`. -/
def boot : State :=
  { gpsNmeaBuffer :=
      Buffer.init dataBufferMaxLength (by decide) (by decide)
    semCmdSending := false
    gpsAckMsg := none
    isSaveLog := false
    parser := Parser.init }

/-
  The state inside a call of `GPS_Update`, and what the call
  has done so far: the result of `Buffer_Puts`, the bytes
  copied out for `GPS_Parse`, the strings written to the
  log, both oldest first, and whether the semaphore of the
  command was released.
-/
structure UpdateState where
  gps : State
  ret : Bool
  parsed : List (List UInt8)
  logged : List (List UInt8)
  released : Bool

/- `Buffer_Puts` takes the length as a `uint16_t`. -/
def updateStart
    (s : State)
    (data : List UInt8) : UpdateState :=
  let (ret, buffer) :=
    s.gpsNmeaBuffer.puts data (u16 data.length)
  { gps := { s with gpsNmeaBuffer := buffer }
    ret := ret
    parsed := []
    logged := []
    released := false }

/- `tmp` after the copy: zeroed memory behind the bytes. -/
def tmp (bytes : List UInt8) : List UInt8 :=
  bytes ++
    List.replicate
      (nmeaFrameBufferLength + 1 - bytes.length) 0

/-
  How many bytes are taken out of the buffer for a line
  whose "\r\n" begins at a ring index.
-/
def copyLength
    (b : Buffer dataBufferMaxLength)
    (index : Fin dataBufferMaxLength) : Nat :=
  min (b.size2 index + 1) nmeaFrameBufferLength

------------------------------------------------------------
-- No Command in Flight
------------------------------------------------------------

/-
  What an iteration of the frame loop finds: nothing to take
  out, so that it leaves; a "VTG" without a "\r\n" behind
  it, which has no branch in the code; or a frame, that is
  copied out of the buffer.
-/
inductive Found where
  | nothing
  | openLine
  | frame
      (bytes : List UInt8)
      (buffer : Buffer dataBufferMaxLength)

/- The searches of an iteration of the frame loop. -/
def findFrame (buffer : Buffer dataBufferMaxLength) : Found :=
  match buffer.query (ascii "VTG") buffer.startPosition with
  | none => .nothing
  | some index =>
      match buffer.query crlf index with
      | none => .openLine
      | some index =>
          match buffer.gets (copyLength buffer index) with
          | none => .nothing
          | some (bytes, buffer) => .frame bytes buffer

/- The state behind `GPS_Parse` of a frame taken out. -/
def UpdateState.finishFrame
    (s : UpdateState)
    (bytes : List UInt8)
    (buffer : Buffer dataBufferMaxLength)
    (parser : Parser) : UpdateState :=
  { s with
    gps :=
      { s.gps with
        gpsNmeaBuffer := buffer
        parser := parser }
    parsed := s.parsed ++ [bytes]
    logged :=
      if s.gps.isSaveLog then
        s.logged ++ [text (tmp bytes)]
      else
        s.logged }

/-
  One iteration of the frame loop. After a line that is not
  ended the loop goes round again.
-/
def updateBody
    (s : UpdateState) :
    LoopStep UpdateState UpdateState :=
  match findFrame s.gps.gpsNmeaBuffer with
  | .nothing => .done s
  | .openLine => .next s
  | .frame bytes buffer =>
      match parse (tmp bytes) s.gps.parser with
      | none => .next s
      | some result =>
          .next (s.finishFrame bytes buffer result.parser)

------------------------------------------------------------
-- Command in Flight
------------------------------------------------------------

/- The search loop for the binary header in the copy. -/
def binaryStart : List UInt8 → Option Nat
| first :: second :: bytes =>
    if first = 0xaa ∧ second = 0xf0 then
      some 0
    else
      (binaryStart (second :: bytes)).map (· + 1)
| _ => none

/-
  Take an ack out of the buffer and hand it over. `start`
  locates the ack in the copy and `malloc` tells whether
  `OS_Malloc` succeeds. There is no result when it does and
  the ack is not found in the copy: the code then copies
  from a null pointer.
-/
def handOver
    (malloc : Bool)
    (start : List UInt8 → Option Nat)
    (index : Fin dataBufferMaxLength)
    (s : UpdateState) : Option UpdateState :=
  let buffer := s.gps.gpsNmeaBuffer
  match buffer.gets (copyLength buffer index) with
  | none => some s
  | some (bytes, buffer) =>
      let gps := { s.gps with gpsNmeaBuffer := buffer }
      match malloc, start bytes with
      | false, _ =>
          some { s with gps := { gps with gpsAckMsg := none } }
      | true, none => none
      | true, some index0 =>
          some
            { s with
              gps :=
                { gps with
                  gpsAckMsg := some (bytes.drop index0) }
              released := true }

/- Look for the end of the ack behind a header. -/
def takeAck
    (malloc : Bool)
    (start : List UInt8 → Option Nat)
    (index : Fin dataBufferMaxLength)
    (s : UpdateState) : Option UpdateState :=
  match s.gps.gpsNmeaBuffer.query crlf index with
  | none => some s
  | some index2 => handOver malloc start index2 s

/-
  The branch of `GPS_Update` with a command in flight. The
  header of an NMEA ack is searched for in the copy with
  `strstr`, that of a binary ack in the bytes copied.
-/
def updateCommand
    (malloc : Bool)
    (s : UpdateState) : Option UpdateState :=
  let buffer := s.gps.gpsNmeaBuffer
  match buffer.query cmdHeader buffer.startPosition with
  | some index =>
      takeAck malloc
        (fun bytes => strstr (tmp bytes) 0 cmdHeader) index s
  | none =>
      match buffer.query cmdBinaryHeader
          buffer.startPosition with
      | none => some s
      | some index => takeAck malloc binaryStart index s

------------------------------------------------------------
-- The Whole Call
------------------------------------------------------------

/- `GPS_Update`, up to a number of iterations. -/
def update
    (fuel : Nat)
    (malloc : Bool)
    (s : State)
    (data : List UInt8) : Option UpdateState :=
  if s.semCmdSending then
    updateCommand malloc (updateStart s data)
  else
    Loop.run updateBody fuel (updateStart s data)

/- `GPS_Update` returns in this state. -/
def Updates
    (malloc : Bool)
    (s : State)
    (data : List UInt8)
    (result : UpdateState) : Prop :=
  ∃ fuel, update fuel malloc s data = some result

end Gps
