import GpsTracker.Gps.AckCheck
import GpsTracker.Gps.HttpGet

/-
  `GPS_AGPS` of `libs/gps/src/gps.c`.

  A file is downloaded and sent to the module in packs of
  512 bytes, with the module in binary mode. A command
  exchange is given by its outcome; what the function does
  is recorded as a list of actions.

  Main declarations:
    * `Gps.gpdPack`, `Gps.sendBody`
    * `Gps.Agps`, `Gps.AgpsReturns`
-/

open CString Machine

------------------------------------------------------------
-- Packs
------------------------------------------------------------

namespace Gps

/- A 16-bit little-endian field, as two bytes. -/
def littleEndian (n : Nat) : List UInt8 :=
  [UInt8.ofNat n, UInt8.ofNat (n / 256)]

/-
  The message of `GPS_SendGPDPack`, up to its parity; `none`
  is a null pointer.
-/
def gpdPack
    (index : Nat)
    (pack : Option (List UInt8)) : List UInt8 :=
  let len := if index = 0xffff then 0x000b else 523
  cmdBinaryHeader ++ littleEndian len ++
    littleEndian Cmd.gpdPack.code ++ littleEndian index ++
    pack.getD []

/- The 512 bytes of a memory from an offset on. -/
def packAt
    (memory : Nat → UInt8)
    (offset : Nat) : List UInt8 :=
  (List.range 512).map fun i => memory (offset + i)

/- `gpdLen` after the padding. -/
def paddedLen (gpdLen : Nat) : Nat :=
  if gpdLen % 512 ≠ 0 then
    u16 (gpdLen + (512 - gpdLen % 512 : Nat))
  else
    gpdLen

/- The memory at `gpdData` after the padding. -/
def padded
    (gpdData : Nat → UInt8)
    (gpdLen : Nat) : Nat → UInt8 :=
  if gpdLen % 512 ≠ 0 then
    fun i =>
      if gpdLen ≤ i ∧ i < gpdLen + (512 - gpdLen % 512) then
        0
      else
        gpdData i
  else
    gpdData

end Gps

------------------------------------------------------------
-- The Send Loop
------------------------------------------------------------

namespace Gps

/-
  The outcome of a command exchange: whether the module has
  executed the command, and whether the function returned
  true. A lost ack is an execution without success.
-/
structure Exchange where
  executed : Bool
  acked : Bool
deriving DecidableEq

/- The state of the send loop, with the messages sent so far. -/
structure SendState where
  i : Nat
  sendFailTimes : Nat
  sent : List (List UInt8 × Exchange)
deriving DecidableEq

/- A message that is not acknowledged. -/
def sendFailed
    (s : SendState) : LoopStep SendState (Bool × SendState) :=
  let s :=
    { s with sendFailTimes := wrap 8 (s.sendFailTimes + 1) }
  if s.sendFailTimes > 3 then
    .done (false, s)
  else
    .next s

/-
  One iteration of the send loop; call number `k` of
  `GPS_SendGPDPack` has the outcome `exchange k`. The loop
  is left with true by the break, with false at the maximum
  of retries.
-/
def sendBody
    (gpdData : Nat → UInt8)
    (gpdLen : Nat)
    (exchange : Nat → Exchange)
    (s : SendState) :
    LoopStep SendState (Bool × SendState) :=
  let e := exchange s.sent.length
  if s.i * 512 > gpdLen then
    let s := { s with sent := s.sent ++ [(gpdPack 0xffff none, e)] }
    if ¬ e.acked then
      sendFailed s
    else
      .done (true, s)
  else
    let pack := gpdPack s.i (some (packAt gpdData (s.i * 512)))
    let s := { s with sent := s.sent ++ [(pack, e)] }
    if ¬ e.acked then
      sendFailed s
    else
      .next { s with sendFailTimes := 0, i := u16 (s.i + 1) }

/- The state when the send loop begins. -/
def sendStart : SendState :=
  { i := 0
    sendFailTimes := 0
    sent := [] }

end Gps

------------------------------------------------------------
-- The Whole Function
------------------------------------------------------------

namespace Gps

/- What `GPS_AGPS` does that matters outside. -/
inductive Action where
  | malloc (success : Bool)
  | free
  | setBinaryMode (exchange : Exchange)
  | sendGpdPack (message : List UInt8) (exchange : Exchange)
  | setNmeaMode (exchange : Exchange)
  | setRtcTime
  | setLocationTime
deriving DecidableEq

/-
  The outcomes of the calls of `GPS_AGPS`: of `OS_Malloc`,
  of `Http_Get`, and of the command exchanges.
-/
structure Agps where
  downloadGpd : Bool
  malloc : Bool
  download : GetResult
  binaryMode : Exchange
  pack : Nat → Exchange
  nmeaMode : Exchange

/- Where the body of the response begins. -/
def findGpdData (buffer : List UInt8) : Option Nat := do
  let indexResult ← strstr buffer 0 (ascii "200 OK")
  let indexBody ← strstr buffer indexResult (crlf ++ crlf)
  some (indexBody + 4)

/- `gpdLen`, in a `uint16_t`. -/
def gpdLen
    (download : GetResult)
    (indexBody : Nat) : Nat :=
  u16 (download.value - indexBody)

/- The memory at `gpdData`. -/
def gpdData
    (download : GetResult)
    (indexBody : Nat) : Nat → UInt8 :=
  fun i => download.retBuffer.getD (indexBody + i) 0

/- The commands at the end of `GPS_AGPS`. -/
def setTimeAndLocation : List Action :=
  [.setRtcTime, .setLocationTime]

/-
  `GPS_AGPS` up to the send loop: it returns with what was
  done, or goes on with the position of the body.
-/
def agpsStart
    (env : Agps) : LoopStep Nat (Bool × List Action) :=
  if ¬ env.downloadGpd then
    .done (true, setTimeAndLocation)
  else if ¬ env.malloc then
    .done (false, [.malloc false])
  else if env.download.value < 0 then
    .done (false, [.malloc true, .free])
  else
    match findGpdData env.download.retBuffer with
    | none => .done (false, [.malloc true, .free])
    | some indexBody =>
        if ¬ env.binaryMode.acked then
          .done
            (false,
              [.malloc true, .setBinaryMode env.binaryMode])
        else
          .next indexBody

/- `GPS_AGPS` from the end of the send loop on. -/
def agpsEnd
    (env : Agps)
    (success : Bool)
    (s : SendState) : Bool × List Action :=
  let actions :=
    [.malloc true, .setBinaryMode env.binaryMode] ++
      s.sent.map (fun (message, e) => .sendGpdPack message e) ++
      [.setNmeaMode env.nmeaMode]
  if ¬ success then
    (false, actions)
  else if ¬ env.nmeaMode.acked then
    (false, actions)
  else
    (true, actions ++ setTimeAndLocation ++ [.free])

/- The send loop of a call, from where the body begins. -/
def agpsLoop
    (env : Agps)
    (indexBody : Nat) :
    SendState → LoopStep SendState (Bool × SendState) :=
  let len := gpdLen env.download indexBody
  sendBody (padded (gpdData env.download indexBody) len)
    (paddedLen len) env.pack

/- `GPS_AGPS` returns a value, after these actions. -/
def AgpsReturns
    (env : Agps)
    (value : Bool)
    (actions : List Action) : Prop :=
  match agpsStart env with
  | .done result => result = (value, actions)
  | .next indexBody =>
      ∃ success s,
        Loop.Returns (agpsLoop env indexBody) sendStart
            (success, s) ∧
          agpsEnd env success s = (value, actions)

end Gps
