import GpsTracker.Lib.Loop
import GpsTracker.Minmea.Parse

/-
  `libs/gps/src/gps_parse.c`: the sentences of one frame are
  parsed one after another into the global `g_gps_info`.

  The frame is a byte memory that `GPS_Parse` reads as a
  NUL-terminated string; each sentence is cut out by writing
  a NUL behind it for the time of the call. The static
  variables of the two functions are part of the state.

  Main declarations:
    * `Gps.Info`, `Gps.Parser`
    * `Gps.parseSentence`, `Gps.parseOneNmea`
    * `Gps.parseBody`, `Gps.parse`
-/

open CString Minmea

------------------------------------------------------------
-- State
------------------------------------------------------------

namespace Gps

/- `GPS_PARSE_MAX_GSA_NUMBER` -/
def maxGsaNumber : Nat := 2

/- `GPS_PARSE_MAX_GSV_NUMBER` -/
def maxGsvNumber : Nat := 20

/- `GPS_Info_t` -/
structure Info where
  rmc : SentenceRmc
  gsa : Vector SentenceGsa maxGsaNumber
  gga : SentenceGga
  gll : SentenceGll
  gst : SentenceGst
  gsv : Vector SentenceGsv maxGsvNumber
  vtg : SentenceVtg
  zda : SentenceZda
deriving DecidableEq, Inhabited

/-
  `g_gps_info` with the static variables of `ParseOneNmea`
  and the frame flag of `GPS_Parse`.
-/
structure Parser where
  info : Info
  flagOld : UInt8
  gsvCount : UInt8
  gsaCount : UInt8
  flag : UInt8
deriving DecidableEq

/- The state at program start. -/
def Parser.init : Parser :=
  { info := default
    flagOld := 0xff
    gsvCount := 0
    gsaCount := 0
    flag := 0 }

------------------------------------------------------------
-- One Sentence
------------------------------------------------------------

/- The first sentence of a frame resets the slot counters. -/
def Parser.enterFrame
    (p : Parser)
    (flag : UInt8) : Parser :=
  if flag ≠ p.flagOld then
    { p with flagOld := flag, gsvCount := 0, gsaCount := 0 }
  else
    p

theorem Parser.enterFrame_info
    (p : Parser)
    (flag : UInt8) :
    (p.enterFrame flag).info = p.info := by
  unfold Parser.enterFrame
  split
  · rfl
  · rfl

/-
  The switch of `ParseOneNmea`: what the `minmea_parse_*`
  function returned, if one was called, and the state.
-/
def parseSentence
    (p : Parser)
    (line : List UInt8) :
    SentenceId → Option Bool × Parser
| .rmc =>
    let (ok, rmc) := parseRmc p.info.rmc line
    (some ok, { p with info := { p.info with rmc := rmc } })
| .gga =>
    let (ok, gga) := parseGga p.info.gga line
    (some ok, { p with info := { p.info with gga := gga } })
| .gst =>
    let (ok, gst) := parseGst p.info.gst line
    (some ok, { p with info := { p.info with gst := gst } })
| .gsv =>
    if hSlot : p.gsvCount.toNat < maxGsvNumber then
      let (ok, gsv) :=
        parseGsv (p.info.gsv[p.gsvCount.toNat]) line
      (some ok,
        { p with
          gsvCount := p.gsvCount + 1
          info :=
            { p.info with
              gsv := p.info.gsv.set p.gsvCount.toNat gsv } })
    else
      (none, p)
| .vtg =>
    let (ok, vtg) := parseVtg p.info.vtg line
    (some ok, { p with info := { p.info with vtg := vtg } })
| .zda =>
    let (ok, zda) := parseZda p.info.zda line
    (some ok, { p with info := { p.info with zda := zda } })
| .gsa =>
    if hSlot : p.gsaCount.toNat < maxGsaNumber then
      let (ok, gsa) :=
        parseGsa (p.info.gsa[p.gsaCount.toNat]) line
      (some ok,
        { p with
          gsaCount := p.gsaCount + 1
          info :=
            { p.info with
              gsa := p.info.gsa.set p.gsaCount.toNat gsa } })
    else
      (none, p)
| .gll =>
    let (ok, gll) := parseGll p.info.gll line
    (some ok, { p with info := { p.info with gll := gll } })
| .invalid => (none, p)
| .unknown => (none, p)

/- `ParseOneNmea` -/
def parseOneNmea
    (p : Parser)
    (nmea : List UInt8)
    (flag : UInt8) : Bool × Parser :=
  let p := p.enterFrame flag
  let id := sentenceId nmea false
  (id ≠ .invalid ∧ id ≠ .unknown,
    (parseSentence p nmea id).2)

------------------------------------------------------------
-- One Frame
------------------------------------------------------------

/-
  The state of the loop of `GPS_Parse`. `calls` records the
  strings handed to `ParseOneNmea`, oldest first.
-/
structure ParseState where
  memory : List UInt8
  nmeas : Nat
  parser : Parser
  retFlag : Bool
  calls : List (List UInt8)

/- One iteration of the loop of `GPS_Parse`. -/
def parseBody
    (s : ParseState) : LoopStep ParseState ParseState :=
  match strstr s.memory s.nmeas (ascii "$") with
  | none => .done s
  | some index1 =>
      match strstr s.memory index1 crlf with
      | none => .done s
      | some index2 =>
          let tmpStore := s.memory.getD (index2 + 2) 0
          let memory := s.memory.set (index2 + 2) 0
          let nmea := text (memory.drop index1)
          let (retFlag, parser) :=
            parseOneNmea s.parser nmea s.parser.flag
          .next
            { memory := memory.set (index2 + 2) tmpStore
              nmeas := s.nmeas + (index2 - index1 + 2)
              parser := parser
              retFlag := retFlag
              calls := s.calls ++ [nmea] }

/- `GPS_Parse` is called on the string at this memory. -/
def parseStart
    (memory : List UInt8)
    (parser : Parser) : ParseState :=
  { memory := memory
    nmeas := 0
    parser := parser
    retFlag := false
    calls := [] }

/- `++flag` behind the loop of `GPS_Parse`. -/
def ParseState.finish (s : ParseState) : ParseState :=
  { s with
    parser := { s.parser with flag := s.parser.flag + 1 } }

/-
  `GPS_Parse`. The cursor moves on in every iteration, so as
  many iterations as the memory has bytes are enough.
-/
def parse
    (memory : List UInt8)
    (parser : Parser) : Option ParseState :=
  (Loop.run parseBody (memory.length + 1)
    (parseStart memory parser)).map ParseState.finish

end Gps
