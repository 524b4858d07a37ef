import GpsTracker.Minmea.Stores

/-
  Fractional fields without a digit.

  A blank field is scanned to a value with scale zero, the
  mark of an unknown value; any other field that is scanned
  has a scale other than zero. So the scale of a coordinate
  of an RMC frame tells whether the latest text scanned for
  it was blank.

  Main declarations:
    * `Minmea.blank`, `Minmea.scale_eq_zero_iff_blank`
    * `Minmea.scannedText`
    * `Minmea.Coordinate`
-/

open CString Stdlib

------------------------------------------------------------
-- Blank Fields
------------------------------------------------------------

namespace Minmea

/- The field that the text starts with has no digit. -/
def blank (text : List UInt8) : Bool :=
  (text.takeWhile isfield).all fun c => !isdigit c

theorem blank_of_not_isfield
    {c : UInt8}
    (hField : isfield c = false)
    (text : List UInt8) :
    blank (c :: text) = true := by
  simp [blank, hField]

theorem blank_of_not_isdigit
    {c : UInt8}
    (hField : isfield c = true)
    (hDigit : isdigit c = false)
    (text : List UInt8) :
    blank (c :: text) = blank text := by
  simp [blank, hField, hDigit]

theorem blank_of_isdigit
    {c : UInt8}
    (hField : isfield c = true)
    (hDigit : isdigit c = true)
    (text : List UInt8) :
    blank (c :: text) = false := by
  simp [blank, hField, hDigit]

theorem digit_nonneg
    {c : UInt8}
    (hDigit : isdigit c = true) :
    (0 : Int) ≤ c.toNat - (byte '0').toNat := by
  have hLe := (Bool.and_eq_true_iff.mp hDigit).1
  have hNat : (byte '0').toNat ≤ c.toNat :=
    UInt8.le_iff_toNat_le.mp (of_decide_eq_true hLe)
  omega

/-
  The loop of 'f' leaves the value at -1 when it was there
  at first and the rest of the field has no digit.
-/
theorem floatLoop_value
    {text : List UInt8}
    {sign value scale : Int}
    {result : Int × Int × Int}
    (hValue : -1 ≤ value)
    (hLoop :
      floatLoop text sign value scale = some result) :
    result.2.1 = -1 ↔ value = -1 ∧ blank text = true := by
  induction text generalizing sign value scale with
  | nil =>
      cases hLoop
      exact (and_iff_left rfl).symm
  | cons c text ih =>
      -- a character that is not a digit keeps the value
      have hKeep {sign scale : Int}
          (hField : isfield c = true)
          (hDigit : isdigit c = false)
          (hLoop :
            floatLoop text sign value scale = some result) :
          result.2.1 = -1 ↔
            value = -1 ∧ blank (c :: text) = true := by
        rw [blank_of_not_isdigit hField hDigit]
        exact ih hValue hLoop
      rw [floatLoop] at hLoop
      split at hLoop
      · next hField =>
          cases hLoop
          rw [blank_of_not_isfield (by simpa using hField)]
          exact (and_iff_left rfl).symm
      · next hField =>
          rw [Bool.not_eq_true, Bool.not_eq_false'] at hField
          split at hLoop
          · next hPlus =>
              exact hKeep hField (by rw [hPlus.1]; rfl) hLoop
          · split at hLoop
            · next hMinus =>
                exact hKeep hField (by rw [hMinus.1]; rfl) hLoop
            · split at hLoop
              · next hDigit =>
                  have hNonneg := digit_nonneg hDigit
                  have hFirst :
                      0 ≤ if value = -1 then 0 else value := by
                    split <;> omega
                  simp only at hLoop
                  generalize
                    (if value = -1 then 0 else value) = first
                    at hLoop hFirst
                  rw [blank_of_isdigit hField hDigit]
                  refine iff_of_false ?_ (by simp)
                  split at hLoop
                  · -- an overflow in the fraction ends it
                    split at hLoop
                    · cases hLoop
                      exact fun hUnset : first = -1 => by omega
                    · cases hLoop
                  · -- from here on the value is never negative
                    intro hUnset
                    have hRest := (ih (by omega) hLoop).mp hUnset
                    omega
              · next hDigit =>
                  rw [Bool.not_eq_true] at hDigit
                  split at hLoop
                  · exact hKeep hField hDigit hLoop
                  · split at hLoop
                    · split at hLoop
                      · cases hLoop
                      · exact hKeep hField hDigit hLoop
                    · cases hLoop

/- A scale of zero is the mark of a blank field. -/
theorem scale_eq_zero_iff_blank
    {field : Option (List UInt8)}
    {x : MinmeaFloat}
    (hScan : scanFloat field = some x) :
    x.scale = 0 ↔ blank (field.getD []) = true := by
  unfold scanFloat at hScan
  cases hLoop : floatLoop (field.getD []) 0 (-1) 0 with
  | none =>
      rw [hLoop] at hScan
      cases hScan
  | some result =>
      have hBlank := floatLoop_value le_rfl hLoop
      rcases result with ⟨sign, value, scale⟩
      rw [hLoop] at hScan
      simp only [true_and] at hScan hBlank
      rw [← hBlank]
      split at hScan
      · cases hScan
      · split at hScan
        · next hUnset =>
            cases hScan
            exact iff_of_true rfl hUnset
        · next hSet =>
            cases hScan
            refine iff_of_false ?_ hSet
            simp only
            by_cases hScale : scale = 0
            · rw [if_pos hScale]
              exact one_ne_zero
            · rw [if_neg hScale]
              exact hScale

end Minmea

------------------------------------------------------------
-- Coordinates of an RMC Sentence
------------------------------------------------------------

namespace Minmea

/-
  The text that the 'f' behind a format converts, if the
  scan gets there and the conversion succeeds.
-/
def scannedText
    {F : Type}
    (format : List (Directive F))
    (sentence : List UInt8) : Option (List UInt8) :=
  match cursor format ⟨sentence, some sentence, false⟩ with
  | none => none
  | some c =>
      if c.field.isNone && !c.isOptional then
        none
      else
        (scanFloat c.field).map fun _ => c.field.getD []

theorem scannedText_blank
    {F : Type}
    (format : List (Directive F))
    (sentence : List UInt8) :
    (scannedText format sentence).map blank =
      (scannedValue format scanFloat sentence).map
        fun x => decide (x.scale = 0) := by
  unfold scannedText scannedValue
  cases cursor format ⟨sentence, some sentence, false⟩ with
  | none => rfl
  | some c =>
      simp only
      split
      · rfl
      · cases hScan : scanFloat c.field with
        | none => rfl
        | some x =>
            simp only [Option.map_some,
              scale_eq_zero_iff_blank hScan]
            simp

theorem scan_latitude
    (frame : SentenceRmc)
    (line : List UInt8) :
    SentenceRmc.latitudeP.get
        (scan line rmcFormat (frame, default)).2.1 =
      (scannedValue (rmcFormat.take 3) scanFloat line).getD
        (SentenceRmc.latitudeP.get frame) := by
  have hFormat : rmcFormat = rmcFormat.take 3 ++
      .convert scanFloat (.field SentenceRmc.latitudeP) ::
        rmcFormat.drop 4 := rfl
  nth_rewrite 1 [hFormat]
  apply get_scan_frame
  · simp only [rmcFormat, Directive.t, Directive.T,
      Directive.c, List.take_succ_cons, List.take_zero,
      List.forall_mem_cons]
    simp only [Directive.Apart, SentenceRmc.latitudeP,
      Place.Disjoint, implies_true, and_self,
      List.not_mem_nil, false_implies]
  · simp only [rmcFormat, Directive.f, Directive.d,
      Directive.D, List.drop_succ_cons, List.drop_zero,
      List.forall_mem_cons]
    simp only [Directive.Apart, SentenceRmc.latitudeP,
      Place.Disjoint, implies_true, and_self,
      List.not_mem_nil, false_implies]

theorem scan_longitude
    (frame : SentenceRmc)
    (line : List UInt8) :
    SentenceRmc.longitudeP.get
        (scan line rmcFormat (frame, default)).2.1 =
      (scannedValue (rmcFormat.take 5) scanFloat line).getD
        (SentenceRmc.longitudeP.get frame) := by
  have hFormat : rmcFormat = rmcFormat.take 5 ++
      .convert scanFloat (.field SentenceRmc.longitudeP) ::
        rmcFormat.drop 6 := rfl
  nth_rewrite 1 [hFormat]
  apply get_scan_frame
  · simp only [rmcFormat, Directive.t, Directive.T,
      Directive.c, Directive.f, Directive.d,
      List.take_succ_cons, List.take_zero,
      List.forall_mem_cons]
    simp only [Directive.Apart, SentenceRmc.longitudeP,
      Place.Disjoint, implies_true, and_self,
      List.not_mem_nil, false_implies]
  · simp only [rmcFormat, Directive.f, Directive.d,
      Directive.D, List.drop_succ_cons, List.drop_zero,
      List.forall_mem_cons]
    simp only [Directive.Apart, SentenceRmc.longitudeP,
      Place.Disjoint, implies_true, and_self,
      List.not_mem_nil, false_implies]

/-
  A coordinate of the RMC frame: where it is, and the text
  that a line has for it. The scale of the coordinate is
  zero when the latest text was blank.
-/
structure Coordinate where
  place : Place SentenceRmc MinmeaFloat
  text : List UInt8 → Option (List UInt8)
  text_of_ne : ∀ line,
    sentenceId line false ≠ .rmc → text line = none
  parse_scale : ∀ frame line,
    sentenceId line false = .rmc →
      decide ((place.get (parseRmc frame line).2).scale = 0) =
        ((text line).map blank).getD
          (decide ((place.get frame).scale = 0))

/- The text of a field of an RMC sentence. -/
def rmcText
    (n : Nat)
    (line : List UInt8) : Option (List UInt8) :=
  if sentenceId line false = .rmc then
    scannedText (rmcFormat.take n) line
  else
    none

theorem rmcText_of_ne
    (n : Nat)
    {line : List UInt8}
    (hId : sentenceId line false ≠ .rmc) :
    rmcText n line = none :=
  if_neg hId

/- The parser leaves the scale that the scan stored. -/
theorem parseRmc_scale
    {n : Nat}
    {place : Place SentenceRmc MinmeaFloat}
    (hScan : ∀ frame line,
      place.get (scan line rmcFormat (frame, default)).2.1 =
        (scannedValue (rmcFormat.take n) scanFloat line).getD
          (place.get frame))
    (hFinish : ∀ frame line,
      (place.get (parseRmc frame line).2).scale =
        (place.get (scan line rmcFormat
          (frame, default)).2.1).scale)
    (frame : SentenceRmc)
    {line : List UInt8}
    (hId : sentenceId line false = .rmc) :
    decide ((place.get (parseRmc frame line).2).scale = 0) =
      ((rmcText n line).map blank).getD
        (decide ((place.get frame).scale = 0)) := by
  rw [hFinish, hScan, rmcText, if_pos hId, scannedText_blank]
  cases scannedValue (rmcFormat.take n) scanFloat line with
  | none => rfl
  | some x => rfl

/- The last step of `minmea_parse_rmc` keeps the scales. -/
theorem parseRmc_frame
    (frame : SentenceRmc)
    (line : List UInt8) :
    (parseRmc frame line).2.latitude.scale =
        (scan line rmcFormat
          (frame, default)).2.1.latitude.scale ∧
      (parseRmc frame line).2.longitude.scale =
        (scan line rmcFormat
          (frame, default)).2.1.longitude.scale := by
  unfold parseRmc parseWith
  rcases scan line rmcFormat (frame, default) with
    ⟨ok, scanned, locals⟩
  cases ok with
  | false => exact ⟨rfl, rfl⟩
  | true =>
      simp only
      split
      · exact ⟨rfl, rfl⟩
      · exact ⟨rfl, rfl⟩

namespace Coordinate

def latitude : Coordinate :=
  { place := SentenceRmc.latitudeP
    text := rmcText 3
    text_of_ne := fun _ hId => rmcText_of_ne 3 hId
    parse_scale := fun frame _ hId =>
      parseRmc_scale scan_latitude
        (fun frame line => (parseRmc_frame frame line).1)
        frame hId }

def longitude : Coordinate :=
  { place := SentenceRmc.longitudeP
    text := rmcText 5
    text_of_ne := fun _ hId => rmcText_of_ne 5 hId
    parse_scale := fun frame _ hId =>
      parseRmc_scale scan_longitude
        (fun frame line => (parseRmc_frame frame line).2)
        frame hId }

end Coordinate

end Minmea
