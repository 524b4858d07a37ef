import GpsTracker.Gps.Agps
import GpsTracker.Gps.CmdSend
import GpsTracker.Gps.AckSound
import GpsTracker.Minmea.Written

/-
  The requests of `libs/gps/src/gps.c`.

  Each function of the library forms a command in a buffer
  on the stack and passes it to `GPS_SendWaiteNormalAck`, or
  to `GPS_SendCMDWaitAck`. The numbers in a command are
  never negative.

  Main declarations:
    * `Gps.Call`, `Gps.nmeaCall`, `Gps.binaryCall`
    * `Gps.Request`, `Gps.Request.call`, `Gps.Request.send`
    * `Gps.NmeaRequest.eq_of_args`
-/

open CString Machine

------------------------------------------------------------
-- Parameters
------------------------------------------------------------

namespace Gps

/- `GPS_Reboot_Mode_t` -/
inductive RebootMode where
  | hot
  | warm
  | cold
deriving DecidableEq

def RebootMode.code : RebootMode → Nat
  | .hot => 1
  | .warm => 2
  | .cold => 3

/- `GPS_STANDBY_Mode_t` -/
inductive StandbyMode where
  | stop
  | sleep
deriving DecidableEq

def StandbyMode.code : StandbyMode → Nat
  | .stop => 0
  | .sleep => 1

/- `GPS_LP_Mode_t` -/
inductive LpMode where
  | normal
  | lp
  | supperLp
deriving DecidableEq

def LpMode.code : LpMode → Nat
  | .normal => 0
  | .lp => 8
  | .supperLp => 9

/- `GPS_Fix_Mode_t` -/
inductive FixMode where
  | normal
  | lowSpeed
  | highSpeed
  | elevation
deriving DecidableEq

def FixMode.code : FixMode → Nat
  | .normal => 0
  | .lowSpeed => 1
  | .highSpeed => 2
  | .elevation => 3

/- `GPS_NMEA_Output_Freq_t` -/
structure NmeaOutputFreq where
  gll : UInt8
  rmc : UInt8
  vtg : UInt8
  gga : UInt8
  gsa : UInt8
  gsv : UInt8
  grs : UInt8
  gst : UInt8
deriving DecidableEq

/- `RTC_Time_t`, without the time zone, which is not sent. -/
structure RtcTime where
  year : UInt16
  month : UInt8
  day : UInt8
  hour : UInt8
  minute : UInt8
  second : UInt8
deriving DecidableEq

/-
  A number as `gcvt` writes it to a `char[11]`. A longer
  text, such as "-0.00012345", overflows the array before
  anything is formed; it is left out.
-/
structure GcvtText where
  text : List UInt8
  plain : Minmea.IsText text
  fits : text.length ≤ 10

end Gps

------------------------------------------------------------
-- Forming a Command
------------------------------------------------------------

namespace Gps

/- `GPS_BUFFER_MAX_LENGTH` -/
def bufferMaxLength : Nat := 530

/-
  What is passed on: the command, the memory of its string,
  and the format.
-/
structure Call where
  cmdSend : Cmd
  temp : List UInt8
  format : Format
deriving DecidableEq

/- A number in "%03d". -/
def threeDigits (n : Nat) : List UInt8 :=
  List.replicate (3 - (Decimal.numeral n).length) (byte '0') ++
    Decimal.numeral n

/- The string "%s%03d" with a comma before each argument. -/
def nmeaText
    (cmdSend : Cmd)
    (args : List (List UInt8)) : List UInt8 :=
  cmdHeader ++ threeDigits cmdSend.code ++
    Minmea.separated args

/- A command that `snprintf` writes over the buffer. -/
def nmeaCall
    (temp : List UInt8)
    (cmdSend : Cmd)
    (args : List (List UInt8)) : Call :=
  { cmdSend := cmdSend
    temp :=
      snprintf (temp.take bufferMaxLength)
          (nmeaText cmdSend args) ++
        temp.drop bufferMaxLength
    format := .nmea }

/- A command that is stored byte by byte. -/
def binaryCall
    (temp : List UInt8)
    (cmdSend : Cmd)
    (message : List UInt8) : Call :=
  { cmdSend := cmdSend
    temp := message ++ temp.drop message.length
    format := .binary }

/- A number in "%d", where it is not negative. -/
def number (n : Nat) : List UInt8 :=
  Decimal.numeral n

/- A `bool` in "%d". -/
def flag (b : Bool) : List UInt8 :=
  number b.toNat

variable (temp : List UInt8)

/- `GPS_Reboot` -/
def reboot (mode : RebootMode) : Call :=
  nmeaCall temp .reboot [number mode.code, number 1]

/- `GPS_ClearInfoInFlash` -/
def clearInfoInFlash : Call :=
  nmeaCall temp .eraseInfoInFlash []

/- `GPS_SetStandbyMode` -/
def setStandbyMode (mode : StandbyMode) : Call :=
  nmeaCall temp .standbyMode [number mode.code]

/- `GPS_SetOutputInterval` -/
def setOutputInterval (intervalMs : UInt16) : Call :=
  nmeaCall temp .nmeaOutputInterval [number intervalMs.toNat]

/- `GPS_SetLpMode` -/
def setLpMode (mode : LpMode) : Call :=
  nmeaCall temp .lpMode [number mode.code]

/- `GPS_SetQzssOutput` -/
def setQzssOutput (openOutput : Bool) : Call :=
  nmeaCall temp .nmeaOutputQzss [flag openOutput]

/- `GPS_SetQzssEnable` -/
def setQzssEnable (enable : Bool) : Call :=
  nmeaCall temp .qzss [flag enable]

/- `GPS_SetSearchMode` -/
def setSearchMode (gps glonass beidou galieo : Bool) : Call :=
  nmeaCall temp .searchMode
    [flag gps, flag glonass, flag beidou, flag galieo]

/- `GPS_SetSBASEnable` -/
def setSbasEnable (enable : Bool) : Call :=
  nmeaCall temp .sbas [flag enable]

/- The frequencies, and a 0 for each sentence without one. -/
def freqArgs (config : NmeaOutputFreq) : List (List UInt8) :=
  [ number config.gll.toNat, number config.rmc.toNat,
    number config.vtg.toNat, number config.gga.toNat,
    number config.gsa.toNat, number config.gsv.toNat,
    number config.grs.toNat, number config.gst.toNat,
    number 0, number 0, number 0, number 0, number 0,
    number 0, number 0, number 0, number 0, number 0 ]

/- `GPS_SetNmeaOutputFreq` -/
def setNmeaOutputFreq (config : NmeaOutputFreq) : Call :=
  nmeaCall temp .nmeaOutputFreq (freqArgs config)

/- The arguments for a date and a time. -/
def timeArgs (t : RtcTime) : List (List UInt8) :=
  [ number t.year.toNat, number t.month.toNat,
    number t.day.toNat, number t.hour.toNat,
    number t.minute.toNat, number t.second.toNat ]

/- `GPS_SetRtcTime` -/
def setRtcTime (t : RtcTime) : Call :=
  nmeaCall temp .setRtcTime (timeArgs t)

/- The command of `GPS_GetVersion`. -/
def askVersion : Call :=
  nmeaCall temp .getVersion []

/- `GPS_SetLocationTime`, behind the calls of `gcvt`. -/
def setLocationTime
    (latitude longitude altitude : GcvtText)
    (t : RtcTime) : Call :=
  nmeaCall temp .setLocationTime
    (latitude.text :: longitude.text :: altitude.text ::
      timeArgs t)

/- `GPS_SetFixMode` -/
def setFixMode (mode : FixMode) : Call :=
  nmeaCall temp .fixMode [number mode.code]

/- `GPS_SetBinaryMode` -/
def setBinaryMode : Call :=
  nmeaCall temp .format [number 1, number 9600]

/- `GPS_SetNMEAMode`, with the baud rate 9600. -/
def setNmeaMode : Call :=
  binaryCall temp .format
    (cmdBinaryHeader ++ littleEndian 14 ++
      littleEndian Cmd.format.code ++
      [0, 0x80, 0x25, 0, 0])

/- `GPS_SendGPDPack` -/
def sendGpdPack
    (index : Nat)
    (pack : Option (List UInt8)) : Call :=
  binaryCall temp .gpdPack (gpdPack index pack)

end Gps

------------------------------------------------------------
-- Requests
------------------------------------------------------------

namespace Gps

/- The requests that are sent as text. -/
inductive NmeaRequest where
  | reboot (mode : RebootMode)
  | clearInfoInFlash
  | standbyMode (mode : StandbyMode)
  | outputInterval (intervalMs : UInt16)
  | lpMode (mode : LpMode)
  | qzssOutput (openOutput : Bool)
  | qzssEnable (enable : Bool)
  | searchMode (gps glonass beidou galieo : Bool)
  | sbasEnable (enable : Bool)
  | nmeaOutputFreq (config : NmeaOutputFreq)
  | rtcTime (t : RtcTime)
  | version
  | locationTime
      (latitude longitude altitude : GcvtText)
      (t : RtcTime)
  | fixMode (mode : FixMode)
  | binaryMode

/- The memory of a pack of the file. -/
structure Pack where
  bytes : List UInt8
  length_eq : bytes.length = 512
deriving DecidableEq

/-
  The requests that are sent as bytes; the index 0xffff is
  that of the marker behind the last pack.
-/
inductive BinaryRequest where
  | nmeaMode
  | gpdPack
      (index : UInt16)
      (hIndex : index ≠ 0xffff)
      (pack : Pack)
  | gpdEnd
deriving DecidableEq

inductive Request where
  | nmea (request : NmeaRequest)
  | binary (request : BinaryRequest)

/- The function of the library that makes the request. -/
def NmeaRequest.call (temp : List UInt8) : NmeaRequest → Call
  | .reboot mode => Gps.reboot temp mode
  | .clearInfoInFlash => Gps.clearInfoInFlash temp
  | .standbyMode mode => Gps.setStandbyMode temp mode
  | .outputInterval intervalMs =>
      Gps.setOutputInterval temp intervalMs
  | .lpMode mode => Gps.setLpMode temp mode
  | .qzssOutput openOutput => Gps.setQzssOutput temp openOutput
  | .qzssEnable enable => Gps.setQzssEnable temp enable
  | .searchMode gps glonass beidou galieo =>
      Gps.setSearchMode temp gps glonass beidou galieo
  | .sbasEnable enable => Gps.setSbasEnable temp enable
  | .nmeaOutputFreq config => Gps.setNmeaOutputFreq temp config
  | .rtcTime t => Gps.setRtcTime temp t
  | .version => Gps.askVersion temp
  | .locationTime latitude longitude altitude t =>
      Gps.setLocationTime temp latitude longitude altitude t
  | .fixMode mode => Gps.setFixMode temp mode
  | .binaryMode => Gps.setBinaryMode temp

def BinaryRequest.call
    (temp : List UInt8) : BinaryRequest → Call
  | .nmeaMode => Gps.setNmeaMode temp
  | .gpdPack index _ pack =>
      Gps.sendGpdPack temp index.toNat (some pack.bytes)
  | .gpdEnd => Gps.sendGpdPack temp 0xffff none

def Request.call (temp : List UInt8) : Request → Call
  | .nmea request => request.call temp
  | .binary request => request.call temp

/- What is sent for a request, over a stack. -/
def Request.send
    (request : Request)
    (temp : List UInt8) : Option CmdSent :=
  cmdSend (request.call temp).temp (request.call temp).format

def NmeaRequest.cmd : NmeaRequest → Cmd
  | .reboot _ => .reboot
  | .clearInfoInFlash => .eraseInfoInFlash
  | .standbyMode _ => .standbyMode
  | .outputInterval _ => .nmeaOutputInterval
  | .lpMode _ => .lpMode
  | .qzssOutput _ => .nmeaOutputQzss
  | .qzssEnable _ => .qzss
  | .searchMode _ _ _ _ => .searchMode
  | .sbasEnable _ => .sbas
  | .nmeaOutputFreq _ => .nmeaOutputFreq
  | .rtcTime _ => .setRtcTime
  | .version => .getVersion
  | .locationTime _ _ _ _ => .setLocationTime
  | .fixMode _ => .fixMode
  | .binaryMode => .format

def NmeaRequest.args : NmeaRequest → List (List UInt8)
  | .reboot mode => [number mode.code, number 1]
  | .clearInfoInFlash => []
  | .standbyMode mode => [number mode.code]
  | .outputInterval intervalMs => [number intervalMs.toNat]
  | .lpMode mode => [number mode.code]
  | .qzssOutput openOutput => [flag openOutput]
  | .qzssEnable enable => [flag enable]
  | .searchMode gps glonass beidou galieo =>
      [flag gps, flag glonass, flag beidou, flag galieo]
  | .sbasEnable enable => [flag enable]
  | .nmeaOutputFreq config => freqArgs config
  | .rtcTime t => timeArgs t
  | .version => []
  | .locationTime latitude longitude altitude t =>
      latitude.text :: longitude.text :: altitude.text ::
        timeArgs t
  | .fixMode mode => [number mode.code]
  | .binaryMode => [number 1, number 9600]

/- One form has all the requests that are sent as text. -/
theorem NmeaRequest.call_eq
    (request : NmeaRequest)
    (temp : List UInt8) :
    request.call temp =
      nmeaCall temp request.cmd request.args := by
  cases request <;> rfl

/- The message of a request up to its parity. -/
def BinaryRequest.message : BinaryRequest → List UInt8
  | .nmeaMode =>
      cmdBinaryHeader ++ littleEndian 14 ++
        littleEndian Cmd.format.code ++ [0, 0x80, 0x25, 0, 0]
  | .gpdPack index _ pack =>
      Gps.gpdPack index.toNat (some pack.bytes)
  | .gpdEnd => Gps.gpdPack 0xffff none

def BinaryRequest.cmd : BinaryRequest → Cmd
  | .nmeaMode => .format
  | .gpdPack _ _ _ => .gpdPack
  | .gpdEnd => .gpdPack

theorem BinaryRequest.call_eq
    (request : BinaryRequest)
    (temp : List UInt8) :
    request.call temp =
      binaryCall temp request.cmd request.message := by
  cases request <;> rfl

def Request.cmd : Request → Cmd
  | .nmea request => request.cmd
  | .binary request => request.cmd

end Gps

------------------------------------------------------------
-- Arguments
------------------------------------------------------------

namespace Gps

/- An argument is plain text of at most ten characters. -/
def IsArg (arg : List UInt8) : Prop :=
  Minmea.IsText arg ∧ arg.length ≤ 10

theorem isArg_number
    {n : Nat}
    (hn : n < 10 ^ 10) :
    IsArg (number n) :=
  ⟨fun _ hc => Minmea.isfield_of_isDigit
      (Decimal.isDigit_of_mem_numeral hc),
    (Decimal.length_numeral_le_iff (by decide)).mpr hn⟩

@[simp]
theorem isArg_uint8
    (n : UInt8) :
    IsArg (number n.toNat) :=
  isArg_number (n.toNat_lt.trans (by decide))

@[simp]
theorem isArg_uint16
    (n : UInt16) :
    IsArg (number n.toNat) :=
  isArg_number (n.toNat_lt.trans (by decide))

@[simp]
theorem isArg_flag
    (b : Bool) :
    IsArg (flag b) :=
  isArg_number (b.toNat_lt.trans (by decide))

@[simp]
theorem isArg_gcvt
    (x : GcvtText) :
    IsArg x.text :=
  ⟨x.plain, x.fits⟩

@[simp]
theorem number_inj
    {n m : Nat} :
    number n = number m ↔ n = m := by
  constructor
  · intro hText
    have hValue := congrArg (Numeral.value 10) hText
    unfold number at hValue
    rwa [Decimal.value_numeral, Decimal.value_numeral]
      at hValue
  · rintro rfl
    rfl

@[simp]
theorem flag_inj
    {b b' : Bool} :
    flag b = flag b' ↔ b = b' := by
  unfold flag
  rw [number_inj]
  cases b <;> cases b' <;> decide

@[simp]
theorem RebootMode.code_inj
    {mode mode' : RebootMode} :
    mode.code = mode'.code ↔ mode = mode' := by
  cases mode <;> cases mode' <;> decide

@[simp]
theorem StandbyMode.code_inj
    {mode mode' : StandbyMode} :
    mode.code = mode'.code ↔ mode = mode' := by
  cases mode <;> cases mode' <;> decide

@[simp]
theorem LpMode.code_inj
    {mode mode' : LpMode} :
    mode.code = mode'.code ↔ mode = mode' := by
  cases mode <;> cases mode' <;> decide

@[simp]
theorem FixMode.code_inj
    {mode mode' : FixMode} :
    mode.code = mode'.code ↔ mode = mode' := by
  cases mode <;> cases mode' <;> decide

@[simp]
theorem GcvtText.text_inj
    {x y : GcvtText} :
    x.text = y.text ↔ x = y := by
  cases x
  cases y
  simp

@[simp]
theorem freqArgs_inj
    {config config' : NmeaOutputFreq} :
    freqArgs config = freqArgs config' ↔ config = config' := by
  cases config
  cases config'
  simp [freqArgs, UInt8.toNat_inj]

@[simp]
theorem timeArgs_inj
    {t t' : RtcTime} :
    timeArgs t = timeArgs t' ↔ t = t' := by
  cases t
  cases t'
  simp [timeArgs, UInt8.toNat_inj, UInt16.toNat_inj]

/- The arguments of a request tell the request. -/
theorem NmeaRequest.eq_of_args
    {request request' : NmeaRequest}
    (hCmd : request.cmd = request'.cmd)
    (hArgs : request.args = request'.args) :
    request = request' := by
  cases request <;> cases request' <;> cases hCmd <;>
    first
    | rfl
    | simpa [NmeaRequest.args, UInt16.toNat_inj] using hArgs

theorem NmeaRequest.isArg
    (request : NmeaRequest) :
    ∀ arg ∈ request.args, IsArg arg := by
  cases request with
  | reboot mode =>
      cases mode <;>
        simp [NmeaRequest.args, RebootMode.code, isArg_number]
  | standbyMode mode =>
      cases mode <;>
        simp [NmeaRequest.args, StandbyMode.code, isArg_number]
  | lpMode mode =>
      cases mode <;>
        simp [NmeaRequest.args, LpMode.code, isArg_number]
  | fixMode mode =>
      cases mode <;>
        simp [NmeaRequest.args, FixMode.code, isArg_number]
  | _ =>
      simp [NmeaRequest.args, timeArgs, freqArgs, isArg_number]

theorem NmeaRequest.isText
    (request : NmeaRequest) :
    ∀ arg ∈ request.args, Minmea.IsText arg :=
  fun arg hArg => (request.isArg arg hArg).1

theorem NmeaRequest.length_args_le
    (request : NmeaRequest) :
    request.args.length ≤ 18 := by
  cases request <;> simp [NmeaRequest.args, timeArgs, freqArgs]

end Gps
