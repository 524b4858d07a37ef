import GpsTracker.Minmea.Blank

/-
  The range of the coordinates of an RMC frame.

  The loop of 'f' gives up before its value leaves the range
  of an `int_least32_t`; the last step of `minmea_parse_rmc`
  stores to one. No line, and no part of one, brings the
  coordinates out of range.

  Main declarations:
    * `MinmeaFloat.InRange`, `Minmea.scanFloat_inRange`
    * `Minmea.SentenceRmc.InRange`
    * `Minmea.parseRmc_inRange`
-/

open Machine

/- The value is no larger than a 32-bit number can be. -/
def MinmeaFloat.InRange (x : MinmeaFloat) : Prop :=
  x.value.natAbs ≤ 2 ^ 31

namespace Minmea

/- What the loop of 'f' counts with. -/
structure Counts (sign value : Int) : Prop where
  sign : sign = -1 ∨ sign = 0 ∨ sign = 1
  least : -1 ≤ value
  most : value ≤ 2147483647

/- A digit that is added does not lead out of the range. -/
theorem Counts.floatLoop
    {text : List UInt8}
    {sign value scale : Int}
    (hCounts : Counts sign value)
    {result : Int × Int × Int}
    (hLoop :
      Minmea.floatLoop text sign value scale = some result) :
    Counts result.1 result.2.1 := by
  induction text generalizing sign value scale with
  | nil =>
      cases hLoop
      exact hCounts
  | cons c text ih =>
      rw [Minmea.floatLoop] at hLoop
      split at hLoop
      · cases hLoop
        exact hCounts
      · split at hLoop
        · exact ih ⟨Or.inr (Or.inr rfl), hCounts.least,
            hCounts.most⟩ hLoop
        · split at hLoop
          · exact ih ⟨Or.inl rfl, hCounts.least,
              hCounts.most⟩ hLoop
          · split at hLoop
            · next hDigit =>
                have hNonneg := digit_nonneg hDigit
                have hLeast := hCounts.least
                have hMost := hCounts.most
                have hFirst :
                    0 ≤ (if value = -1 then 0 else value) ∧
                      (if value = -1 then 0 else value) ≤
                        2147483647 := by
                  split <;> omega
                simp only at hLoop
                generalize
                  (if value = -1 then 0 else value) = first
                  at hLoop hFirst
                split at hLoop
                · split at hLoop
                  · cases hLoop
                    exact ⟨hCounts.sign,
                      show -1 ≤ first by omega, hFirst.2⟩
                  · cases hLoop
                · exact ih ⟨hCounts.sign, by omega, by omega⟩
                    hLoop
            · split at hLoop
              · exact ih hCounts hLoop
              · split at hLoop
                · split at hLoop
                  · cases hLoop
                  · exact ih hCounts hLoop
                · cases hLoop

theorem scanFloat_inRange
    {field : Option (List UInt8)}
    {x : MinmeaFloat}
    (hScan : scanFloat field = some x) :
    x.InRange := by
  unfold scanFloat at hScan
  split at hScan
  · cases hScan
  · next sign value scale hLoop =>
      have hStart : Counts 0 (-1) :=
        ⟨Or.inr (Or.inl rfl), le_refl _, by decide⟩
      have hCounts : Counts sign value :=
        hStart.floatLoop hLoop
      have hLeast := hCounts.least
      have hMost := hCounts.most
      split at hScan
      · cases hScan
      · split at hScan
        · cases hScan
          unfold MinmeaFloat.InRange
          decide
        · cases hScan
          unfold MinmeaFloat.InRange
          rcases hCounts.sign with rfl | rfl | rfl <;>
            simp only <;> split <;> omega

theorem applyDirection_inRange
    (x : MinmeaFloat)
    (direction : Int) :
    (x.applyDirection direction).InRange := by
  have hLow := @Int.le_bmod (x.value * direction) (2 ^ 32)
    (by decide)
  have hHigh := @Int.bmod_lt (x.value * direction) (2 ^ 32)
    (by decide)
  unfold MinmeaFloat.applyDirection MinmeaFloat.InRange i32
  simp only
  omega

end Minmea

------------------------------------------------------------
-- The RMC Frame
------------------------------------------------------------

namespace Minmea

/- Both coordinates are in range. -/
structure SentenceRmc.InRange (frame : SentenceRmc) : Prop where
  latitude : frame.latitude.InRange
  longitude : frame.longitude.InRange

/- A value that is converted, or the one from before. -/
theorem getD_scannedValue_inRange
    {format : List (Directive SentenceRmc)}
    {line : List UInt8}
    {x : MinmeaFloat}
    (hBefore : x.InRange) :
    ((scannedValue format scanFloat line).getD x).InRange := by
  cases hValue : scannedValue format scanFloat line with
  | none => exact hBefore
  | some value =>
      unfold scannedValue at hValue
      split at hValue
      · cases hValue
      · split at hValue
        · cases hValue
        · exact scanFloat_inRange hValue

/- Every line leaves the coordinates in range. -/
theorem parseRmc_inRange
    {frame : SentenceRmc}
    (hBefore : frame.InRange)
    (line : List UInt8) :
    (parseRmc frame line).2.InRange := by
  have hScanned : (scan line rmcFormat
      (frame, default)).2.1.InRange :=
    { latitude := by
        have hLatitude := scan_latitude frame line
        unfold SentenceRmc.latitudeP at hLatitude
        rw [show (scan line rmcFormat
          (frame, default)).2.1.latitude = _ from hLatitude]
        exact getD_scannedValue_inRange hBefore.latitude
      longitude := by
        have hLongitude := scan_longitude frame line
        unfold SentenceRmc.longitudeP at hLongitude
        rw [show (scan line rmcFormat
          (frame, default)).2.1.longitude = _ from hLongitude]
        exact getD_scannedValue_inRange hBefore.longitude }
  unfold parseRmc parseWith
  generalize scan line rmcFormat (frame, default) = scanned
    at hScanned
  rcases scanned with ⟨ok, scanned, locals⟩
  cases ok with
  | false => exact hScanned
  | true =>
      simp only
      split
      · exact hScanned
      · exact ⟨applyDirection_inRange _ _,
          applyDirection_inRange _ _⟩

end Minmea
