import GpsTracker.Minmea.Written

/-
  Records, and how their lines are parsed.

  A record holds what one sentence reports: numbers, times
  and letters, where the fields are not left blank. The
  sentence parsers read the line of a record back: whatever
  the frame held before, it holds the reported values
  afterwards.

  Main declarations:
    * `Minmea.RmcRecord` and the records of the other types
    * `Minmea.parseRmc_line` and the other parsers
    * `Minmea.Record`, `Minmea.Record.line`
    * `Minmea.sentenceId_line`
-/

open CString Stdlib

------------------------------------------------------------
-- Recommended Minimum
------------------------------------------------------------

namespace Minmea

/- 'A' for a valid position, and 'V' for none. -/
def activeLetter (isActive : Bool) : Letter :=
  if isActive then ⟨byte 'A', by decide⟩
  else ⟨byte 'V', by decide⟩

@[simp]
theorem activeLetter_eq_iff (isActive : Bool) :
    (activeLetter isActive).val = byte 'A' ↔
      isActive = true := by
  cases isActive with
  | true => decide
  | false => decide

/- `more` are fields behind those that the parser reads. -/
structure RmcRecord where
  time : Option Clock
  isActive : Bool
  fix : Option Fix
  speed : Option Fixed
  course : Option Fixed
  date : Option Day
  variation : Option (Fixed × Bool)
  more : Fields

def RmcRecord.fields (r : RmcRecord) : List (List UInt8) :=
  [ blankOr Clock.text r.time,
    letterText (activeLetter r.isActive) ] ++
  fixFields r.fix ++
  [ blankOr Fixed.text r.speed,
    blankOr Fixed.text r.course,
    blankOr Day.text r.date,
    blankOr Fixed.text (r.variation.map (·.1)),
    blankOr (sideText 'E' 'W') (r.variation.map (·.2)) ] ++
  r.more.val

def RmcRecord.frame (r : RmcRecord) : SentenceRmc :=
  { time := clockValue r.time
    valid := r.isActive
    latitude := latitudeValue r.fix
    longitude := longitudeValue r.fix
    speed := fixedValue r.speed
    course := fixedValue r.course
    date := dayValue r.date
    variation :=
      (r.variation.map fun v => v.1.sided v.2).getD ⟨0, 0⟩ }

@[simp]
theorem applyDirection_variation
    (v : Option (Fixed × Bool)) :
    (fixedValue (v.map (·.1))).applyDirection
        (directionValue (v.map (·.2))) =
      (v.map fun v => v.1.sided v.2).getD ⟨0, 0⟩ := by
  cases v with
  | none => decide
  | some v => exact applyDirection_value _ _

theorem RmcRecord.plain
    (r : RmcRecord) :
    Plain (ascii "RMC") r.fields := by
  refine ⟨by unfold IsText; decide +kernel, ?_⟩
  have hMore := r.more.property
  simpa [RmcRecord.fields, fixFields] using hMore

theorem parseRmc_line
    {talker : Talker}
    {r : RmcRecord}
    (hShort : Short (line talker (ascii "RMC") r.fields))
    (frame : SentenceRmc) :
    parseRmc frame (line talker (ascii "RMC") r.fields) =
      (true, r.frame) := by
  rw [parseRmc, parseWith_eq rmcFormat_local
    (check_line r.plain hShort false), fields_line r.plain,
    rmcFormat, readFields_t _ _ _ _ rfl r.plain.1]
  simp [RmcRecord.fields, fixFields, Arg.store,
    Locals.typeP, Locals.validityP,
    Locals.latitudeDirectionP, Locals.longitudeDirectionP,
    Locals.variationDirectionP, RmcRecord.frame]

end Minmea

------------------------------------------------------------
-- Fix Data and Fix
------------------------------------------------------------

namespace Minmea

structure GgaRecord where
  time : Option Clock
  fix : Option Fix
  fixQuality : Option Number
  satellitesTracked : Option Number
  hdop : Option Fixed
  altitude : Option Fixed
  altitudeUnits : Option Letter
  height : Option Fixed
  heightUnits : Option Letter
  dgpsAge : Option Fixed
  station : { text : List UInt8 // IsText text }

def GgaRecord.fields (r : GgaRecord) : List (List UInt8) :=
  [ blankOr Clock.text r.time ] ++
  fixFields r.fix ++
  [ blankOr Number.text r.fixQuality,
    blankOr Number.text r.satellitesTracked,
    blankOr Fixed.text r.hdop,
    blankOr Fixed.text r.altitude,
    blankOr letterText r.altitudeUnits,
    blankOr Fixed.text r.height,
    blankOr letterText r.heightUnits,
    blankOr Fixed.text r.dgpsAge,
    r.station.val ]

def GgaRecord.frame (r : GgaRecord) : SentenceGga :=
  { time := clockValue r.time
    latitude := latitudeValue r.fix
    longitude := longitudeValue r.fix
    fixQuality := numberValue r.fixQuality
    satellitesTracked := numberValue r.satellitesTracked
    hdop := fixedValue r.hdop
    altitude := fixedValue r.altitude
    altitudeUnits := letterValue r.altitudeUnits
    height := fixedValue r.height
    heightUnits := letterValue r.heightUnits
    dgpsAge := fixedValue r.dgpsAge }

theorem GgaRecord.plain
    (r : GgaRecord) :
    Plain (ascii "GGA") r.fields := by
  refine ⟨by unfold IsText; decide +kernel, ?_⟩
  have hStation := r.station.property
  simpa [GgaRecord.fields, fixFields] using hStation

theorem parseGga_line
    {talker : Talker}
    {r : GgaRecord}
    (hShort : Short (line talker (ascii "GGA") r.fields))
    (frame : SentenceGga) :
    parseGga frame (line talker (ascii "GGA") r.fields) =
      (true, r.frame) := by
  rw [parseGga, parseWith_eq ggaFormat_local
    (check_line r.plain hShort false), fields_line r.plain,
    ggaFormat, readFields_t _ _ _ _ rfl r.plain.1]
  simp [GgaRecord.fields, fixFields, Arg.store,
    Locals.typeP, Locals.latitudeDirectionP,
    Locals.longitudeDirectionP, GgaRecord.frame]

/- The mode stands in newer lines only. -/
structure GllRecord where
  fix : Option Fix
  time : Option Clock
  status : Option Letter
  mode : Option (Option Letter)

def GllRecord.fields (r : GllRecord) : List (List UInt8) :=
  fixFields r.fix ++
  [ blankOr Clock.text r.time,
    blankOr letterText r.status ] ++
  (r.mode.map (blankOr letterText)).toList

def GllRecord.frame (r : GllRecord) : SentenceGll :=
  { latitude := latitudeValue r.fix
    longitude := longitudeValue r.fix
    time := clockValue r.time
    status := letterValue r.status
    mode := (r.mode.map letterValue).getD 0 }

theorem GllRecord.plain
    (r : GllRecord) :
    Plain (ascii "GLL") r.fields := by
  refine ⟨by unfold IsText; decide +kernel, ?_⟩
  cases hMode : r.mode with
  | none => simp [GllRecord.fields, fixFields, hMode]
  | some mode =>
      simp [GllRecord.fields, fixFields, hMode]

theorem parseGll_line
    {talker : Talker}
    {r : GllRecord}
    (hShort : Short (line talker (ascii "GLL") r.fields))
    (frame : SentenceGll) :
    parseGll frame (line talker (ascii "GLL") r.fields) =
      (true, r.frame) := by
  rw [parseGll, parseWith_eq gllFormat_local
    (check_line r.plain hShort false), fields_line r.plain,
    gllFormat, readFields_t _ _ _ _ rfl r.plain.1]
  cases hMode : r.mode with
  | none =>
      simp [GllRecord.fields, fixFields, Arg.store,
        Locals.typeP, Locals.latitudeDirectionP,
        Locals.longitudeDirectionP, GllRecord.frame, hMode]
  | some mode =>
      simp [GllRecord.fields, fixFields, Arg.store,
        Locals.typeP, Locals.latitudeDirectionP,
        Locals.longitudeDirectionP, GllRecord.frame, hMode]

end Minmea

------------------------------------------------------------
-- Errors and Speed
------------------------------------------------------------

namespace Minmea

structure GstRecord where
  time : Option Clock
  rmsDeviation : Option Fixed
  semiMajorDeviation : Option Fixed
  semiMinorDeviation : Option Fixed
  semiMajorOrientation : Option Fixed
  latitudeErrorDeviation : Option Fixed
  longitudeErrorDeviation : Option Fixed
  altitudeErrorDeviation : Option Fixed

def GstRecord.fields (r : GstRecord) : List (List UInt8) :=
  [ blankOr Clock.text r.time,
    blankOr Fixed.text r.rmsDeviation,
    blankOr Fixed.text r.semiMajorDeviation,
    blankOr Fixed.text r.semiMinorDeviation,
    blankOr Fixed.text r.semiMajorOrientation,
    blankOr Fixed.text r.latitudeErrorDeviation,
    blankOr Fixed.text r.longitudeErrorDeviation,
    blankOr Fixed.text r.altitudeErrorDeviation ]

def GstRecord.frame (r : GstRecord) : SentenceGst :=
  { time := clockValue r.time
    rmsDeviation := fixedValue r.rmsDeviation
    semiMajorDeviation := fixedValue r.semiMajorDeviation
    semiMinorDeviation := fixedValue r.semiMinorDeviation
    semiMajorOrientation := fixedValue r.semiMajorOrientation
    latitudeErrorDeviation :=
      fixedValue r.latitudeErrorDeviation
    longitudeErrorDeviation :=
      fixedValue r.longitudeErrorDeviation
    altitudeErrorDeviation :=
      fixedValue r.altitudeErrorDeviation }

theorem GstRecord.plain
    (r : GstRecord) :
    Plain (ascii "GST") r.fields := by
  refine ⟨by unfold IsText; decide +kernel, ?_⟩
  simp [GstRecord.fields]

theorem parseGst_line
    {talker : Talker}
    {r : GstRecord}
    (hShort : Short (line talker (ascii "GST") r.fields))
    (frame : SentenceGst) :
    parseGst frame (line talker (ascii "GST") r.fields) =
      (true, r.frame) := by
  rw [parseGst, parseWith_eq gstFormat_local
    (check_line r.plain hShort false), fields_line r.plain,
    gstFormat, readFields_t _ _ _ _ rfl r.plain.1]
  simp [GstRecord.fields, Arg.store, Locals.typeP,
    GstRecord.frame]

structure VtgRecord where
  trueTrackDegrees : Option Fixed
  magneticTrackDegrees : Option Fixed
  speedKnots : Option Fixed
  speedKph : Option Fixed
  faaMode : Option (Option Letter)

/- The letters of the units always stand. -/
def VtgRecord.fields (r : VtgRecord) : List (List UInt8) :=
  [ blankOr Fixed.text r.trueTrackDegrees,
    letterText ⟨byte 'T', by decide⟩,
    blankOr Fixed.text r.magneticTrackDegrees,
    letterText ⟨byte 'M', by decide⟩,
    blankOr Fixed.text r.speedKnots,
    letterText ⟨byte 'N', by decide⟩,
    blankOr Fixed.text r.speedKph,
    letterText ⟨byte 'K', by decide⟩ ] ++
  (r.faaMode.map (blankOr letterText)).toList

def VtgRecord.frame (r : VtgRecord) : SentenceVtg :=
  { trueTrackDegrees := fixedValue r.trueTrackDegrees
    magneticTrackDegrees := fixedValue r.magneticTrackDegrees
    speedKnots := fixedValue r.speedKnots
    speedKph := fixedValue r.speedKph
    faaMode := (r.faaMode.map letterValue).getD 0 }

theorem VtgRecord.plain
    (r : VtgRecord) :
    Plain (ascii "VTG") r.fields := by
  refine ⟨by unfold IsText; decide +kernel, ?_⟩
  cases hMode : r.faaMode with
  | none => simp [VtgRecord.fields, hMode]
  | some mode => simp [VtgRecord.fields, hMode]

theorem parseVtg_line
    {talker : Talker}
    {r : VtgRecord}
    (hShort : Short (line talker (ascii "VTG") r.fields))
    (frame : SentenceVtg) :
    parseVtg frame (line talker (ascii "VTG") r.fields) =
      (true, r.frame) := by
  rw [parseVtg, parseWith_eq vtgFormat_local
    (check_line r.plain hShort false), fields_line r.plain,
    vtgFormat, readFields_t _ _ _ _ rfl r.plain.1]
  cases hMode : r.faaMode with
  | none =>
      simp [VtgRecord.fields, Arg.store, Locals.typeP,
        Locals.cTrueP, Locals.cMagneticP, Locals.cKnotsP,
        Locals.cKphP, Locals.cFaaModeP, VtgRecord.frame,
        hMode]
  | some mode =>
      simp [VtgRecord.fields, Arg.store, Locals.typeP,
        Locals.cTrueP, Locals.cMagneticP, Locals.cKnotsP,
        Locals.cKphP, Locals.cFaaModeP, VtgRecord.frame,
        hMode]

end Minmea

------------------------------------------------------------
-- Date and Time
------------------------------------------------------------

namespace Minmea

/- The parser rejects other offsets. -/
structure ZdaRecord where
  time : Option Clock
  day : Option Number
  month : Option Number
  year : Option Number
  hourOffset : Option Number
  minuteOffset : Option Number
  hHours : (numberValue hourOffset).natAbs ≤ 13
  hMinutes : 0 ≤ numberValue minuteOffset ∧
    numberValue minuteOffset ≤ 59

def ZdaRecord.fields (r : ZdaRecord) : List (List UInt8) :=
  [ blankOr Clock.text r.time,
    blankOr Number.text r.day,
    blankOr Number.text r.month,
    blankOr Number.text r.year,
    blankOr Number.text r.hourOffset,
    blankOr Number.text r.minuteOffset ]

def ZdaRecord.frame (r : ZdaRecord) : SentenceZda :=
  { time := clockValue r.time
    date :=
      { day := numberValue r.day
        month := numberValue r.month
        year := numberValue r.year }
    hourOffset := numberValue r.hourOffset
    minuteOffset := numberValue r.minuteOffset }

theorem ZdaRecord.plain
    (r : ZdaRecord) :
    Plain (ascii "ZDA") r.fields := by
  refine ⟨by unfold IsText; decide +kernel, ?_⟩
  simp [ZdaRecord.fields]

theorem parseZda_line
    {talker : Talker}
    {r : ZdaRecord}
    (hShort : Short (line talker (ascii "ZDA") r.fields))
    (frame : SentenceZda) :
    parseZda frame (line talker (ascii "ZDA") r.fields) =
      (true, r.frame) := by
  have hHours := r.hHours
  have hMinutes := r.hMinutes
  rw [parseZda, parseWith_eq zdaFormat_local
    (check_line r.plain hShort false), fields_line r.plain,
    zdaFormat, readFields_t _ _ _ _ rfl r.plain.1]
  simp [ZdaRecord.fields, Arg.store, Locals.typeP,
    ZdaRecord.frame, Place.comp, SentenceZda.dateP]
  exact ⟨hHours, hMinutes.2, hMinutes.1⟩

end Minmea

------------------------------------------------------------
-- Satellites
------------------------------------------------------------

namespace Minmea

structure GsaRecord where
  mode : Option Letter
  fixType : Option Number
  sats : Vector (Option Number) 12
  pdop : Option Fixed
  hdop : Option Fixed
  vdop : Option Fixed
  more : Fields

def GsaRecord.fields (r : GsaRecord) : List (List UInt8) :=
  [ blankOr letterText r.mode,
    blankOr Number.text r.fixType ] ++
  (List.finRange 12).map
    (fun k => blankOr Number.text r.sats[k]) ++
  [ blankOr Fixed.text r.pdop,
    blankOr Fixed.text r.hdop,
    blankOr Fixed.text r.vdop ] ++
  r.more.val

def GsaRecord.frame (r : GsaRecord) : SentenceGsa :=
  { mode := letterValue r.mode
    fixType := numberValue r.fixType
    sats := r.sats.map numberValue
    pdop := fixedValue r.pdop
    hdop := fixedValue r.hdop
    vdop := fixedValue r.vdop }

theorem GsaRecord.plain
    (r : GsaRecord) :
    Plain (ascii "GSA") r.fields := by
  refine ⟨by unfold IsText; decide +kernel, ?_⟩
  unfold GsaRecord.fields
  rw [List.forall_mem_append, List.forall_mem_append,
    List.forall_mem_append, List.forall_mem_map]
  refine ⟨⟨⟨?_, fun k _ => isText_number _⟩, ?_⟩,
    r.more.property⟩
  · simp
  · simp

/- Numbers are stored one after another. -/
theorem readFields_numbers
    {F : Type}
    {n : Nat}
    (arg : Fin n → Arg F Int)
    (x : Fin n → Option Number)
    (ks : List (Fin n))
    (format : List (Directive F))
    (fields : List (List UInt8))
    (isOptional : Bool)
    (state : F × Locals) :
    readFields (ks.map (fun k => .i (arg k)) ++ format)
        (ks.map (fun k => blankOr Number.text (x k)) ++ fields)
        isOptional state =
      readFields format fields isOptional
        (ks.foldl (fun state k =>
          (arg k).store (numberValue (x k)) state) state) := by
  induction ks generalizing state with
  | nil => rfl
  | cons k ks ih =>
      rw [List.map_cons, List.map_cons, List.cons_append,
        List.cons_append, readFields_i, ih, List.foldl_cons]

theorem foldl_satP
    (v : Fin 12 → Int)
    (ks : List (Fin 12))
    (state : SentenceGsa × Locals) :
    ks.foldl (fun state k =>
        (Arg.field (SentenceGsa.satP k)).store (v k) state)
        state =
      ({ state.1 with
        sats := ks.foldl
          (fun sats k => (Place.elem k).set (v k) sats)
          state.1.sats }, state.2) := by
  induction ks generalizing state with
  | nil => rfl
  | cons k ks ih =>
      rw [List.foldl_cons, List.foldl_cons, ih]
      rfl

theorem parseGsa_line
    {talker : Talker}
    {r : GsaRecord}
    (hShort : Short (line talker (ascii "GSA") r.fields))
    (frame : SentenceGsa) :
    parseGsa frame (line talker (ascii "GSA") r.fields) =
      (true, r.frame) := by
  have hSats : Vector.ofFn
      (fun k : Fin 12 => numberValue r.sats[k]) =
        r.sats.map numberValue := by
    apply Vector.ext
    intro i hi
    simp
  rw [parseGsa, parseWith_eq gsaFormat_local
    (check_line r.plain hShort false), fields_line r.plain,
    gsaFormat, GsaRecord.fields]
  simp only [List.append_assoc, List.cons_append,
    List.nil_append]
  rw [readFields_t _ _ _ _ rfl r.plain.1, readFields_c,
    readFields_i, readFields_numbers, foldl_satP,
    Place.foldl_set_finRange, hSats]
  simp [Arg.store, Locals.typeP, GsaRecord.frame]

structure SatRecord where
  nr : Option Number
  elevation : Option Number
  azimuth : Option Number
  snr : Option Number

def SatRecord.fields (r : SatRecord) : List (List UInt8) :=
  [ blankOr Number.text r.nr,
    blankOr Number.text r.elevation,
    blankOr Number.text r.azimuth,
    blankOr Number.text r.snr ]

def SatRecord.info (r : SatRecord) : SatInfo :=
  { nr := numberValue r.nr
    elevation := numberValue r.elevation
    azimuth := numberValue r.azimuth
    snr := numberValue r.snr }

/- The last line of a view may have fewer satellites. -/
structure GsvRecord where
  totalMsgs : Option Number
  msgNr : Option Number
  totalSats : Option Number
  sats : List SatRecord
  hSats : sats.length ≤ 4

def GsvRecord.fields (r : GsvRecord) : List (List UInt8) :=
  [ blankOr Number.text r.totalMsgs,
    blankOr Number.text r.msgNr,
    blankOr Number.text r.totalSats ] ++
  r.sats.flatMap SatRecord.fields

/- The place of a satellite, zero if the line has it not. -/
def satInfoAt
    (sats : List SatRecord)
    (k : Nat) : SatInfo :=
  (sats[k]?.map SatRecord.info).getD ⟨0, 0, 0, 0⟩

def GsvRecord.frame (r : GsvRecord) : SentenceGsv :=
  { totalMsgs := numberValue r.totalMsgs
    msgNr := numberValue r.msgNr
    totalSats := numberValue r.totalSats
    sats := Vector.ofFn fun k => satInfoAt r.sats k }

theorem GsvRecord.plain
    (r : GsvRecord) :
    Plain (ascii "GSV") r.fields := by
  refine ⟨by unfold IsText; decide +kernel, ?_⟩
  have hSat (sat : SatRecord) :
      ∀ field ∈ sat.fields, IsText field := by
    simp [SatRecord.fields]
  unfold GsvRecord.fields
  rw [List.forall_mem_append]
  refine ⟨by simp, ?_⟩
  intro field hMem
  rcases List.mem_flatMap.mp hMem with ⟨sat, _, hField⟩
  exact hSat sat field hField

/- The four numbers of a satellite, or none of them. -/
theorem readFields_sat
    (k : Fin 4)
    (sat : SatRecord)
    (format : List (Directive SentenceGsv))
    (fields : List (List UInt8))
    (state : SentenceGsv × Locals) :
    readFields (gsvSatFormat k ++ format)
        (sat.fields ++ fields) true state =
      readFields format fields true
        ({ state.1 with
          sats := (Place.elem k).set sat.info state.1.sats },
          state.2) := by
  simp [gsvSatFormat, SatRecord.fields, Arg.store, Place.comp,
    SentenceGsv.satP, Place.elem, SatRecord.info]

theorem readFields_noSat
    (k : Fin 4)
    (format : List (Directive SentenceGsv))
    (state : SentenceGsv × Locals) :
    readFields (gsvSatFormat k ++ format) [] true state =
      readFields format [] true
        ({ state.1 with
          sats := (Place.elem k).set ⟨0, 0, 0, 0⟩
            state.1.sats }, state.2) := by
  simp [gsvSatFormat, Arg.store, Place.comp,
    SentenceGsv.satP, Place.elem]

/- The satellites from one on, as far as there are any. -/
theorem readFields_sats
    (sats : List SatRecord)
    (ks : List (Fin 4))
    {offset : Nat}
    (hKs : ∀ (j : Nat) (hj : j < ks.length),
      (ks[j] : Nat) = offset + j)
    (hSats : sats.length ≤ offset + ks.length)
    (state : SentenceGsv × Locals) :
    readFields (ks.flatMap gsvSatFormat)
        ((sats.drop offset).flatMap SatRecord.fields) true
        state =
      (true,
        { state.1 with
          sats := ks.foldl
            (fun infos k =>
              (Place.elem k).set (satInfoAt sats k) infos)
            state.1.sats }, state.2) := by
  induction ks generalizing offset state with
  | nil =>
      rw [List.drop_of_length_le (by simpa using hSats)]
      rfl
  | cons k ks ih =>
      have hFirst : (k : Nat) = offset := hKs 0 (by simp)
      have hRest (j : Nat) (hj : j < ks.length) :
          (ks[j] : Nat) = offset + 1 + j := by
        have hNext := hKs (j + 1) (by simpa using hj)
        rw [List.getElem_cons_succ] at hNext
        omega
      have hLater : sats.length ≤ offset + 1 + ks.length := by
        rw [List.length_cons] at hSats
        omega
      rw [List.flatMap_cons, List.foldl_cons]
      by_cases hMore : offset < sats.length
      · have hInfo : satInfoAt sats k = sats[offset].info := by
          rw [satInfoAt, hFirst, List.getElem?_eq_getElem hMore]
          rfl
        rw [List.drop_eq_getElem_cons hMore, List.flatMap_cons,
          readFields_sat, ih hRest hLater, hInfo]
      · have hInfo : satInfoAt sats k = ⟨0, 0, 0, 0⟩ := by
          rw [satInfoAt, hFirst,
            List.getElem?_eq_none (by omega)]
          rfl
        have hNone := ih hRest hLater
        rw [List.drop_of_length_le (by omega)] at hNone
        rw [List.drop_of_length_le (by omega),
          List.flatMap_nil, readFields_noSat]
        rw [List.flatMap_nil] at hNone
        rw [hNone, hInfo]

theorem parseGsv_line
    {talker : Talker}
    {r : GsvRecord}
    (hShort : Short (line talker (ascii "GSV") r.fields))
    (frame : SentenceGsv) :
    parseGsv frame (line talker (ascii "GSV") r.fields) =
      (true, r.frame) := by
  have hKs (j : Nat) (hj : j < (List.finRange 4).length) :
      ((List.finRange 4)[j] : Nat) = 0 + j := by
    simp
  have hSats := readFields_sats r.sats (List.finRange 4) hKs
    (by simpa using r.hSats)
  rw [List.drop_zero] at hSats
  rw [parseGsv, parseWith_eq gsvFormat_local
    (check_line r.plain hShort false), fields_line r.plain,
    gsvFormat, GsvRecord.fields]
  simp only [List.cons_append, List.nil_append]
  rw [readFields_t _ _ _ _ rfl r.plain.1, readFields_i,
    readFields_i, readFields_i, readFields_optional, hSats,
    Place.foldl_set_finRange]
  simp [Arg.store, Locals.typeP, GsvRecord.frame]

end Minmea

------------------------------------------------------------
-- All Types
------------------------------------------------------------

namespace Minmea

inductive Record where
  | rmc (r : RmcRecord)
  | gga (r : GgaRecord)
  | gsa (r : GsaRecord)
  | gll (r : GllRecord)
  | gst (r : GstRecord)
  | gsv (r : GsvRecord)
  | vtg (r : VtgRecord)
  | zda (r : ZdaRecord)

namespace Record

def id : Record → SentenceId
| .rmc _ => .rmc
| .gga _ => .gga
| .gsa _ => .gsa
| .gll _ => .gll
| .gst _ => .gst
| .gsv _ => .gsv
| .vtg _ => .vtg
| .zda _ => .zda

def type : Record → List UInt8
| .rmc _ => ascii "RMC"
| .gga _ => ascii "GGA"
| .gsa _ => ascii "GSA"
| .gll _ => ascii "GLL"
| .gst _ => ascii "GST"
| .gsv _ => ascii "GSV"
| .vtg _ => ascii "VTG"
| .zda _ => ascii "ZDA"

def fields : Record → List (List UInt8)
| .rmc r => r.fields
| .gga r => r.fields
| .gsa r => r.fields
| .gll r => r.fields
| .gst r => r.fields
| .gsv r => r.fields
| .vtg r => r.fields
| .zda r => r.fields

/- The line that reports the record. -/
def line (talker : Talker) (r : Record) : List UInt8 :=
  Minmea.line talker r.type r.fields

theorem plain
    (r : Record) :
    Plain r.type r.fields := by
  cases r with
  | rmc r => exact r.plain
  | gga r => exact r.plain
  | gsa r => exact r.plain
  | gll r => exact r.plain
  | gst r => exact r.plain
  | gsv r => exact r.plain
  | vtg r => exact r.plain
  | zda r => exact r.plain

theorem length_type
    (r : Record) :
    r.type.length = 3 := by
  cases r <;> rfl

end Record

/- The type of a line is found. -/
theorem sentenceId_line
    {talker : Talker}
    {r : Record}
    (hShort : Short (r.line talker))
    (strict : Bool) :
    sentenceId (r.line talker) strict = r.id := by
  have hCheck := check_line r.plain hShort strict
  have hRead : scan (r.line talker) typeFormat ((), default) =
      (true, (), { (default : Locals) with
        type := talker.first.val :: talker.second.val ::
          r.type }) := by
    rw [Record.line, scan_eq_readFields hCheck
      typeFormat_local, fields_line r.plain, typeFormat,
      readFields_t _ _ _ _ r.length_type r.plain.1,
      readFields_nil]
    rfl
  unfold sentenceId
  rw [show check (r.line talker) strict = true from hCheck,
    hRead]
  cases r <;> rfl

end Minmea
