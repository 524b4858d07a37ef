import GpsTracker.Minmea.Types
import Mathlib.Algebra.Order.Field.Rat
import Mathlib.Tactic.Ring

/-
  The coordinates that `gps_testTask` of `app/src/app.c`
  computes from the latest RMC sentence.

  A coordinate ddmm.mmmm is converted to degrees. The code
  computes with doubles; here the degrees are exact. The
  integer divisions of the code have no result when the
  scale is zero.

  Main declarations:
    * `App.Position`
    * `App.toDegrees`, `App.toDegrees_neg`
    * `App.coordinates`, `App.coordinates_isSome_iff`
-/

open Minmea

namespace App

/- `latitude` and `longitude`, in degrees. -/
@[ext] structure Position where
  latitude : ℚ
  longitude : ℚ
deriving DecidableEq

/- Convert the unit ddmm.mmmm to degree. -/
def toDegrees (x : MinmeaFloat) : Option ℚ :=
  if x.scale = 0 then
    none
  else
    let temp := (x.value.tdiv x.scale).tdiv 100
    let rest := x.value - temp * x.scale * 100
    some (temp + (rest : ℚ) / x.scale / 60)

/- Both coordinates of the RMC frame. -/
def coordinates (rmc : SentenceRmc) : Option Position :=
  match toDegrees rmc.latitude with
  | none => none
  | some latitude =>
      match toDegrees rmc.longitude with
      | none => none
      | some longitude => some ⟨latitude, longitude⟩

/- The sign of the hemisphere is the sign of the degrees. -/
theorem toDegrees_neg
    (value scale : Int) :
    toDegrees ⟨-value, scale⟩ =
      (toDegrees ⟨value, scale⟩).map (- ·) := by
  unfold toDegrees
  by_cases hScale : scale = 0
  · simp only [if_pos hScale]
    rfl
  · simp only [if_neg hScale, Int.neg_tdiv, Option.map_some]
    congr 1
    push_cast
    ring

theorem toDegrees_isSome_iff
    (x : MinmeaFloat) :
    (toDegrees x).isSome ↔ x.scale ≠ 0 := by
  unfold toDegrees
  by_cases hScale : x.scale = 0
  · simp [hScale]
  · simp [hScale]

/- The conversion runs when neither scale is zero. -/
theorem coordinates_isSome_iff
    (rmc : SentenceRmc) :
    (coordinates rmc).isSome ↔
      rmc.latitude.scale ≠ 0 ∧ rmc.longitude.scale ≠ 0 := by
  rw [← toDegrees_isSome_iff, ← toDegrees_isSome_iff]
  unfold coordinates
  cases toDegrees rmc.latitude with
  | none => simp
  | some latitude =>
      cases toDegrees rmc.longitude with
      | none => simp
      | some longitude => simp

end App
