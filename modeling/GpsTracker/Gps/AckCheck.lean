import GpsTracker.Gps.Update

/-
  The commands of `libs/gps/src/gps.c`, and the decision
  whether an ack means success.

  `gpsAckMsg` is the memory from the ack on; what stands
  behind the ack is read where the code reads on. `char` is
  signed.

  Main declarations:
    * `Gps.Cmd`, `Gps.CmdAck`
    * `Gps.checkParity`, `Gps.checkParityBinary`
    * `Gps.getAckCmd`, `Gps.ackCheck`
    * `Gps.waitedAck`, `Gps.sendWaiteNormalAck`
-/

open CString Machine

------------------------------------------------------------
-- Commands
------------------------------------------------------------

namespace Gps

/- `GPS_CMD_t` -/
inductive Cmd where
  | fail
  | ack
  | ackGpd
  | reboot
  | eraseInfoInFlash
  | standbyMode
  | nmeaOutputInterval
  | lpMode
  | nmeaOutputQzss
  | qzss
  | searchMode
  | format
  | sbas
  | nmeaOutputFreq
  | setRtcTime
  | getVersion
  | ackVersion
  | gpdPack
  | setLocationTime
  | fixMode
  | max
deriving DecidableEq

def Cmd.code : Cmd → Nat
  | .fail => 0
  | .ack => 1
  | .ackGpd => 3
  | .reboot => 30
  | .eraseInfoInFlash => 40
  | .standbyMode => 51
  | .nmeaOutputInterval => 101
  | .lpMode => 105
  | .nmeaOutputQzss => 113
  | .qzss => 114
  | .searchMode => 115
  | .format => 149
  | .sbas => 239
  | .nmeaOutputFreq => 242
  | .setRtcTime => 278
  | .getVersion => 462
  | .ackVersion => 463
  | .gpdPack => 614
  | .setLocationTime => 639
  | .fixMode => 786
  | .max => 787

/- The commands that `GPS_IsCMDValid` compares with. -/
def validCmds : List Cmd :=
  [.ack, .ackGpd, .reboot, .eraseInfoInFlash, .standbyMode,
    .nmeaOutputInterval, .lpMode, .nmeaOutputQzss, .qzss,
    .searchMode, .format, .sbas, .nmeaOutputFreq,
    .setRtcTime, .getVersion, .ackVersion, .gpdPack,
    .setLocationTime, .fixMode]

/- `GPS_IsCMDValid` -/
def isCmdValid (cmd : Nat) : Bool :=
  validCmds.any fun c => cmd = c.code

/- The cast of a number to `GPS_CMD_t`, for a valid one. -/
def Cmd.ofCode (cmd : Nat) : Cmd :=
  (validCmds.find? fun c => cmd = c.code).getD .fail

/- `GPS_CMD_Ack_t` -/
inductive CmdAck where
  | fail
  | notSupport
  | execFail
  | execSuccess
  | max
deriving DecidableEq

def CmdAck.code : CmdAck → Nat
  | .fail => 0
  | .notSupport => 1
  | .execFail => 2
  | .execSuccess => 3
  | .max => 4

/- The results that `GPS_IsCMDACKValid` compares with. -/
def validAcks : List CmdAck :=
  [.fail, .notSupport, .execFail, .execSuccess]

/- `GPS_IsCMDACKValid` -/
def isCmdAckValid (ack : Nat) : Bool :=
  validAcks.any fun a => ack = a.code

/- The cast of a number to `GPS_CMD_Ack_t`. -/
def CmdAck.ofCode (ack : Nat) : CmdAck :=
  (validAcks.find? fun a => ack = a.code).getD .fail

end Gps

------------------------------------------------------------
-- Parity
------------------------------------------------------------

namespace Gps

/- `Hex_Str` -/
def hexDigits : List UInt8 := ascii "0123456789ABCDEF"

/- `Hex_Str[i]`, for an index inside the array. -/
def hexStr (i : Int) : Option UInt8 :=
  if 0 ≤ i then hexDigits[i.toNat]? else none

/-
  The loop of `GPS_CheckParity`, from index 2 on, with the
  memory behind the '*' that ends it.
-/
def parityLoop :
    List UInt8 → UInt8 → Option (UInt8 × List UInt8)
| [], _ => none
| b :: str, result =>
    if b = byte '*' then
      some (result, str)
    else
      parityLoop str (result ^^^ b)

/-
  `GPS_CheckParity`; a null pointer is `none`. There is no
  result when the loop or the index into `Hex_Str` leaves
  the memory.
-/
def checkParity : Option (List UInt8) → Option Bool
| none => some false
| some str =>
    match strstr str 0 (ascii "*") with
    | none => some false
    | some _ => do
        let (result, str) ←
          parityLoop (str.drop 2) (str.getD 1 0)
        let high ← hexStr (i8 result / 16)
        let low ← hexStr (result.toNat % 16 : Nat)
        some (high == str.getD 0 0 && low == str.getD 1 0)

/- A 16-bit little-endian field. -/
def word
    (data : List UInt8)
    (i : Nat) : Nat :=
  (data.getD i 0).toNat + 256 * (data.getD (i + 1) 0).toNat

/- `GPS_CheckParityBinary` -/
def checkParityBinary (data : List UInt8) : Bool :=
  let len := u16 (word data 2 - 3)
  let result :=
    (List.range' 3 (len - 3)).foldl
      (fun result i => result ^^^ data.getD i 0)
      (data.getD 2 0)
  result == data.getD len 0

end Gps

------------------------------------------------------------
-- The Fields of an Ack
------------------------------------------------------------

namespace Gps

/- A binary header stands at the start. -/
def isBinary (data : List UInt8) : Bool :=
  data.getD 0 0 == 0xaa && data.getD 1 0 == 0xf0

/- A character as a digit, whatever it is. -/
def digit (b : UInt8) : Int :=
  i8 b - 48

/- `GPS_GetAckCmd` -/
def getAckCmd (str : List UInt8) : Cmd :=
  match strstr str 0 cmdHeader with
  | none => .fail
  | some index =>
      let ackCmd0 :=
        u16 (digit (str.getD (index + 5) 0) * 100 +
          digit (str.getD (index + 6) 0) * 10 +
          digit (str.getD (index + 7) 0))
      if isCmdValid ackCmd0 then
        Cmd.ofCode ackCmd0
      else
        .fail

/- `GPS_GetAckCmdBinary` -/
def getAckCmdBinary (data : List UInt8) : Cmd :=
  if isBinary data then
    if isCmdValid (word data 4) then
      Cmd.ofCode (word data 4)
    else
      .fail
  else
    .fail

/- The digit loop of `GPS_AckCheck`, in a `uint16_t`. -/
def accumulate : List UInt8 → Nat → Nat
| [], ackCmd => ackCmd
| b :: field, ackCmd =>
    accumulate field (u16 (ackCmd * 10 + digit b))

/-
  The acknowledged command and the result that
  `GPS_AckCheck` reads. The search strings are not found in
  the `none` cases.
-/
def ackFields (ackStr : List UInt8) : Option (Nat × UInt8) :=
  if isBinary ackStr then
    some (word ackStr 6, ackStr.getD 8 0)
  else do
    let index ← strstr ackStr 0 cmdHeader
    let index ←
      strstr ackStr (index + cmdHeader.length) (ascii ",")
    let index2 ← strstr ackStr (index + 1) (ascii ",")
    let field :=
      (ackStr.drop (index + 1)).take (index2 - (index + 1))
    some (accumulate field 0, ackStr.getD (index2 + 1) 0 - 48)

/- `GPS_AckCheck` -/
def ackCheck
    (ackStr : List UInt8)
    (cmdSend : Cmd) : CmdAck :=
  match ackFields ackStr with
  | none => .fail
  | some (ackCmd, result) =>
      if ¬ isCmdValid ackCmd then
        .fail
      else if ackCmd ≠ cmdSend.code then
        .fail
      else if ¬ isCmdAckValid result.toNat then
        .fail
      else
        CmdAck.ofCode result.toNat

end Gps

------------------------------------------------------------
-- Waiting for an Ack
------------------------------------------------------------

namespace Gps

/-
  The end of `GPS_SendCMDWaitAck`, behind a wake-up that is
  no time-out: the command of the ack, and what is stored in
  `*ackStr`.
-/
def waitedAck
    (gpsAckMsg : List UInt8) :
    Option (Cmd × Option (List UInt8)) :=
  if isBinary gpsAckMsg then
    if ¬ checkParityBinary gpsAckMsg then
      some (.fail, none)
    else
      some (getAckCmdBinary gpsAckMsg, some gpsAckMsg)
  else
    let ack :=
      (strstr gpsAckMsg 0 cmdHeader).map gpsAckMsg.drop
    match checkParity ack, ack with
    | some true, some ack => some (getAckCmd ack, some ack)
    | some _, _ => some (.fail, none)
    | none, _ => none

/- The comparison of a pack ack with the command bytes. -/
def packAcked (cmdStr ackStr : List UInt8) : Bool :=
  cmdStr.getD 6 0 == ackStr.getD 6 0 &&
    cmdStr.getD 7 0 == ackStr.getD 7 0 &&
    ackStr.getD 8 0 == 1

/-
  `GPS_SendWaiteNormalAck`, behind a wake-up that is no
  time-out.
-/
def sendWaiteNormalAck
    (cmdSend : Cmd)
    (cmdStr gpsAckMsg : List UInt8) : Option Bool :=
  (waitedAck gpsAckMsg).map fun (ackCmd, ackStr) =>
    match ackCmd, ackStr with
    | .ackGpd, some ackStr => packAcked cmdStr ackStr
    | .ack, some ackStr =>
        ackCheck ackStr cmdSend == .execSuccess
    | _, _ => false

end Gps
