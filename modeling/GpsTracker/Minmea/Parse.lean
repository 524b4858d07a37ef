import GpsTracker.Minmea.Scan

/-
  `minmea_sentence_id` and the sentence parsers of
  `libs/gps/minmea/src/minmea.c`.

  Each parser is a scan with the parser's own format, a
  check of the sentence type, and a last step that the
  parser performs on the scanned frame. The frame is the
  caller's: it keeps what was stored when the parser fails.

  Main declarations:
    * `Minmea.sentenceId`
    * `Minmea.parseWith`
    * `Minmea.parseRmc` and the other parsers
-/

open CString Machine

/- `x.value *= direction` -/
def MinmeaFloat.applyDirection
    (x : MinmeaFloat)
    (direction : Int) : MinmeaFloat :=
  { x with value := i32 (x.value * direction) }

------------------------------------------------------------
-- Sentence Identifier
------------------------------------------------------------

namespace Minmea

/- Pointers to the local variables. -/
namespace Locals

def typeP : Place Locals (List UInt8) :=
  .mk type fun v l => { l with type := v }

def validityP : Place Locals UInt8 :=
  .mk validity fun v l => { l with validity := v }

def latitudeDirectionP : Place Locals Int :=
  .mk latitudeDirection
    fun v l => { l with latitudeDirection := v }

def longitudeDirectionP : Place Locals Int :=
  .mk longitudeDirection
    fun v l => { l with longitudeDirection := v }

def variationDirectionP : Place Locals Int :=
  .mk variationDirection
    fun v l => { l with variationDirection := v }

def cTrueP : Place Locals UInt8 :=
  .mk cTrue fun v l => { l with cTrue := v }

def cMagneticP : Place Locals UInt8 :=
  .mk cMagnetic fun v l => { l with cMagnetic := v }

def cKnotsP : Place Locals UInt8 :=
  .mk cKnots fun v l => { l with cKnots := v }

def cKphP : Place Locals UInt8 :=
  .mk cKph fun v l => { l with cKph := v }

def cFaaModeP : Place Locals UInt8 :=
  .mk cFaaMode fun v l => { l with cFaaMode := v }

end Locals

/- The scan "t" that only reads the sentence type. -/
def typeFormat {F : Type} : List (Directive F) :=
  [.t (.var Locals.typeP)]

/- `minmea_sentence_id` -/
def sentenceId
    (sentence : List UInt8)
    (strict : Bool) : SentenceId :=
  if !check sentence strict then
    .invalid
  else
    match scan sentence typeFormat ((), default) with
    | (false, _) => .invalid
    | (true, _, locals) =>
        let type := locals.type.drop 2
        if type = ascii "RMC" then .rmc
        else if type = ascii "GGA" then .gga
        else if type = ascii "GSA" then .gsa
        else if type = ascii "GLL" then .gll
        else if type = ascii "GST" then .gst
        else if type = ascii "GSV" then .gsv
        else if type = ascii "VTG" then .vtg
        else if type = ascii "ZDA" then .zda
        else .unknown

------------------------------------------------------------
-- Sentence Parsers
------------------------------------------------------------

/- The shape of the `minmea_parse_*` functions. -/
def parseWith
    {F : Type}
    (format : List (Directive F))
    (type : List UInt8)
    (finish : F → Locals → Bool × F)
    (frame : F)
    (sentence : List UInt8) : Bool × F :=
  match scan sentence format (frame, default) with
  | (false, frame, _) => (false, frame)
  | (true, frame, locals) =>
      if locals.type.drop 2 ≠ type then
        (false, frame)
      else
        finish frame locals

/- `&frame->latitude` of an RMC frame -/
def SentenceRmc.latitudeP : Place SentenceRmc MinmeaFloat :=
  .mk latitude fun v f => { f with latitude := v }

/- `&frame->longitude` of an RMC frame -/
def SentenceRmc.longitudeP : Place SentenceRmc MinmeaFloat :=
  .mk longitude fun v f => { f with longitude := v }

/- "tTcfdfdffDfd" -/
def rmcFormat : List (Directive SentenceRmc) :=
  [ .t (.var Locals.typeP),
    .T (.field (.mk (·.time) fun v f => { f with time := v })),
    .c (.var Locals.validityP),
    .f (.field
      (.mk (·.latitude) fun v f => { f with latitude := v })),
    .d (.var Locals.latitudeDirectionP),
    .f (.field
      (.mk (·.longitude) fun v f => { f with longitude := v })),
    .d (.var Locals.longitudeDirectionP),
    .f (.field (.mk (·.speed) fun v f => { f with speed := v })),
    .f (.field
      (.mk (·.course) fun v f => { f with course := v })),
    .D (.field (.mk (·.date) fun v f => { f with date := v })),
    .f (.field
      (.mk (·.variation) fun v f => { f with variation := v })),
    .d (.var Locals.variationDirectionP) ]

/- `minmea_parse_rmc` -/
def parseRmc :
    SentenceRmc → List UInt8 → Bool × SentenceRmc :=
  parseWith rmcFormat (ascii "RMC") fun frame l =>
    (true,
      { frame with
        valid := l.validity = byte 'A'
        latitude :=
          frame.latitude.applyDirection l.latitudeDirection
        longitude :=
          frame.longitude.applyDirection l.longitudeDirection
        variation :=
          frame.variation.applyDirection
            l.variationDirection })

/- "tTfdfdiiffcfcf_" -/
def ggaFormat : List (Directive SentenceGga) :=
  [ .t (.var Locals.typeP),
    .T (.field (.mk (·.time) fun v f => { f with time := v })),
    .f (.field
      (.mk (·.latitude) fun v f => { f with latitude := v })),
    .d (.var Locals.latitudeDirectionP),
    .f (.field
      (.mk (·.longitude) fun v f => { f with longitude := v })),
    .d (.var Locals.longitudeDirectionP),
    .i (.field
      (.mk (·.fixQuality) fun v f => { f with fixQuality := v })),
    .i (.field
      (.mk (·.satellitesTracked)
        fun v f => { f with satellitesTracked := v })),
    .f (.field (.mk (·.hdop) fun v f => { f with hdop := v })),
    .f (.field
      (.mk (·.altitude) fun v f => { f with altitude := v })),
    .c (.field
      (.mk (·.altitudeUnits)
        fun v f => { f with altitudeUnits := v })),
    .f (.field
      (.mk (·.height) fun v f => { f with height := v })),
    .c (.field
      (.mk (·.heightUnits)
        fun v f => { f with heightUnits := v })),
    .f (.field
      (.mk (·.dgpsAge) fun v f => { f with dgpsAge := v })),
    .ignore ]

/- `minmea_parse_gga` -/
def parseGga :
    SentenceGga → List UInt8 → Bool × SentenceGga :=
  parseWith ggaFormat (ascii "GGA") fun frame l =>
    (true,
      { frame with
        latitude :=
          frame.latitude.applyDirection l.latitudeDirection
        longitude :=
          frame.longitude.applyDirection
            l.longitudeDirection })

/- `&frame->sats[k]` of a GSA frame -/
def SentenceGsa.satP
    (k : Fin 12) : Place SentenceGsa Int :=
  Place.comp
    (.mk (·.sats) fun v f => { f with sats := v })
    (Place.elem k)

/- `&frame->fix_type` of a GSA frame -/
def SentenceGsa.fixTypeP : Place SentenceGsa Int :=
  .mk (·.fixType) fun v f => { f with fixType := v }

/- "tciiiiiiiiiiiiifff" -/
def gsaFormat : List (Directive SentenceGsa) :=
  [ .t (.var Locals.typeP),
    .c (.field (.mk (·.mode) fun v f => { f with mode := v })),
    .i (.field
      (.mk (·.fixType) fun v f => { f with fixType := v })) ] ++
  (List.finRange 12).map
    (fun k => .i (.field (SentenceGsa.satP k))) ++
  [ .f (.field (.mk (·.pdop) fun v f => { f with pdop := v })),
    .f (.field (.mk (·.hdop) fun v f => { f with hdop := v })),
    .f (.field (.mk (·.vdop) fun v f => { f with vdop := v })) ]

/- `minmea_parse_gsa` -/
def parseGsa :
    SentenceGsa → List UInt8 → Bool × SentenceGsa :=
  parseWith gsaFormat (ascii "GSA") fun frame _ =>
    (true, frame)

/- "tfdfdTc;c" -/
def gllFormat : List (Directive SentenceGll) :=
  [ .t (.var Locals.typeP),
    .f (.field
      (.mk (·.latitude) fun v f => { f with latitude := v })),
    .d (.var Locals.latitudeDirectionP),
    .f (.field
      (.mk (·.longitude) fun v f => { f with longitude := v })),
    .d (.var Locals.longitudeDirectionP),
    .T (.field (.mk (·.time) fun v f => { f with time := v })),
    .c (.field
      (.mk (·.status) fun v f => { f with status := v })),
    .optional,
    .c (.field (.mk (·.mode) fun v f => { f with mode := v })) ]

/- `minmea_parse_gll` -/
def parseGll :
    SentenceGll → List UInt8 → Bool × SentenceGll :=
  parseWith gllFormat (ascii "GLL") fun frame l =>
    (true,
      { frame with
        latitude :=
          frame.latitude.applyDirection l.latitudeDirection
        longitude :=
          frame.longitude.applyDirection
            l.longitudeDirection })

/- "tTfffffff" -/
def gstFormat : List (Directive SentenceGst) :=
  [ .t (.var Locals.typeP),
    .T (.field (.mk (·.time) fun v f => { f with time := v })),
    .f (.field
      (.mk (·.rmsDeviation)
        fun v f => { f with rmsDeviation := v })),
    .f (.field
      (.mk (·.semiMajorDeviation)
        fun v f => { f with semiMajorDeviation := v })),
    .f (.field
      (.mk (·.semiMinorDeviation)
        fun v f => { f with semiMinorDeviation := v })),
    .f (.field
      (.mk (·.semiMajorOrientation)
        fun v f => { f with semiMajorOrientation := v })),
    .f (.field
      (.mk (·.latitudeErrorDeviation)
        fun v f => { f with latitudeErrorDeviation := v })),
    .f (.field
      (.mk (·.longitudeErrorDeviation)
        fun v f => { f with longitudeErrorDeviation := v })),
    .f (.field
      (.mk (·.altitudeErrorDeviation)
        fun v f => { f with altitudeErrorDeviation := v })) ]

/- `minmea_parse_gst` -/
def parseGst :
    SentenceGst → List UInt8 → Bool × SentenceGst :=
  parseWith gstFormat (ascii "GST") fun frame _ =>
    (true, frame)

/- `&frame->sats[k]` of a GSV frame -/
def SentenceGsv.satP
    (k : Fin 4) : Place SentenceGsv SatInfo :=
  Place.comp
    (.mk (·.sats) fun v f => { f with sats := v })
    (Place.elem k)

/- The four fields of one satellite. -/
def gsvSatFormat
    (k : Fin 4) : List (Directive SentenceGsv) :=
  [ .i (.field ((SentenceGsv.satP k).comp
      (.mk (·.nr) fun v s => { s with nr := v }))),
    .i (.field ((SentenceGsv.satP k).comp
      (.mk (·.elevation) fun v s => { s with elevation := v }))),
    .i (.field ((SentenceGsv.satP k).comp
      (.mk (·.azimuth) fun v s => { s with azimuth := v }))),
    .i (.field ((SentenceGsv.satP k).comp
      (.mk (·.snr) fun v s => { s with snr := v }))) ]

/- "tiii;iiiiiiiiiiiiiiii" -/
def gsvFormat : List (Directive SentenceGsv) :=
  [ .t (.var Locals.typeP),
    .i (.field
      (.mk (·.totalMsgs) fun v f => { f with totalMsgs := v })),
    .i (.field (.mk (·.msgNr) fun v f => { f with msgNr := v })),
    .i (.field
      (.mk (·.totalSats) fun v f => { f with totalSats := v })),
    .optional ] ++
  (List.finRange 4).flatMap gsvSatFormat

/- `minmea_parse_gsv` -/
def parseGsv :
    SentenceGsv → List UInt8 → Bool × SentenceGsv :=
  parseWith gsvFormat (ascii "GSV") fun frame _ =>
    (true, frame)

/- "tfcfcfcfc;c" -/
def vtgFormat : List (Directive SentenceVtg) :=
  [ .t (.var Locals.typeP),
    .f (.field
      (.mk (·.trueTrackDegrees)
        fun v f => { f with trueTrackDegrees := v })),
    .c (.var Locals.cTrueP),
    .f (.field
      (.mk (·.magneticTrackDegrees)
        fun v f => { f with magneticTrackDegrees := v })),
    .c (.var Locals.cMagneticP),
    .f (.field
      (.mk (·.speedKnots) fun v f => { f with speedKnots := v })),
    .c (.var Locals.cKnotsP),
    .f (.field
      (.mk (·.speedKph) fun v f => { f with speedKph := v })),
    .c (.var Locals.cKphP),
    .optional,
    .c (.var Locals.cFaaModeP) ]

/- `minmea_parse_vtg`, which also checks the unit letters -/
def parseVtg :
    SentenceVtg → List UInt8 → Bool × SentenceVtg :=
  parseWith vtgFormat (ascii "VTG") fun frame l =>
    if l.cTrue ≠ byte 'T' ∨ l.cMagnetic ≠ byte 'M' ∨
        l.cKnots ≠ byte 'N' ∨ l.cKph ≠ byte 'K' then
      (false, frame)
    else
      (true, { frame with faaMode := l.cFaaMode })

/- `&frame->date` of a ZDA frame -/
def SentenceZda.dateP : Place SentenceZda MinmeaDate :=
  .mk (·.date) fun v f => { f with date := v }

/- "tTiiiii" -/
def zdaFormat : List (Directive SentenceZda) :=
  [ .t (.var Locals.typeP),
    .T (.field (.mk (·.time) fun v f => { f with time := v })),
    .i (.field (SentenceZda.dateP.comp
      (.mk (·.day) fun v d => { d with day := v }))),
    .i (.field (SentenceZda.dateP.comp
      (.mk (·.month) fun v d => { d with month := v }))),
    .i (.field (SentenceZda.dateP.comp
      (.mk (·.year) fun v d => { d with year := v }))),
    .i (.field
      (.mk (·.hourOffset) fun v f => { f with hourOffset := v })),
    .i (.field
      (.mk (·.minuteOffset)
        fun v f => { f with minuteOffset := v })) ]

/- `minmea_parse_zda`, which also checks the offsets -/
def parseZda :
    SentenceZda → List UInt8 → Bool × SentenceZda :=
  parseWith zdaFormat (ascii "ZDA") fun frame _ =>
    if frame.hourOffset.natAbs > 13 ∨
        frame.minuteOffset > 59 ∨ frame.minuteOffset < 0 then
      (false, frame)
    else
      (true, frame)

end Minmea
