import GpsTracker.App.Coordinates
import Mathlib.Data.Int.Order.Basic
import Mathlib.Tactic.FieldSimp
import Mathlib.Tactic.Linarith
import Mathlib.Tactic.Positivity

/-
  The conversion from ddmm.mmmm to degrees is exact.

  A coordinate has whole degrees and minutes; the divisions
  of the code truncate toward zero, so that both carry the
  sign of the value. No product of the code is larger than
  the value it is taken from.

  Main declarations:
    * `App.intermediates`, `App.InInt32`
    * `App.wholeDegrees`, `App.minutes`, `App.degrees`
    * `App.ConvertsExactly`, `App.converts_exactly`
-/

------------------------------------------------------------
-- Degrees and Minutes
------------------------------------------------------------

namespace App

/-
  The integers that the conversion computes on its way: the
  quotient, `temp`, the two products and the difference.
-/
def intermediates (x : MinmeaFloat) : List Int :=
  let quotient := x.value.tdiv x.scale
  let temp := quotient.tdiv 100
  [quotient, temp, temp * x.scale, temp * x.scale * 100,
    x.value - temp * x.scale * 100]

/- The number is in the range of an `int32_t`. -/
def InInt32 (n : Int) : Prop :=
  -2 ^ 31 ≤ n ∧ n < 2 ^ 31

/- The degrees dd of an unsigned ddmm.mmmm. -/
def wholeDegrees (n scale : Nat) : Nat :=
  n / (100 * scale)

/- Its minutes mm.mmmm. -/
def minutes (n scale : Nat) : ℚ :=
  (n : ℚ) / scale - 100 * wholeDegrees n scale

/- Both in degrees. -/
def unsignedDegrees (n scale : Nat) : ℚ :=
  wholeDegrees n scale + minutes n scale / 60

/- A signed coordinate in degrees. -/
def degrees (value : Int) (scale : Nat) : ℚ :=
  value.sign * unsignedDegrees value.natAbs scale

theorem temp_natCast
    (n scale : Nat) :
    ((n : Int).tdiv scale).tdiv 100 =
      (wholeDegrees n scale : Int) := by
  rw [Int.natCast_tdiv_eq_ediv, wholeDegrees, mul_comm,
    ← Nat.div_div_eq_div_mul]
  rfl

theorem toDegrees_natCast
    {scale : Nat}
    (hScale : 0 < scale)
    (n : Nat) :
    toDegrees ⟨n, scale⟩ =
      some (unsignedDegrees n scale) := by
  have hRat : (scale : ℚ) ≠ 0 := by positivity
  have hNe : (scale : Int) ≠ 0 := by omega
  simp only [toDegrees, if_neg hNe, temp_natCast]
  congr 1
  unfold unsignedDegrees minutes
  push_cast
  field_simp

theorem unsignedDegrees_zero
    (scale : Nat) :
    unsignedDegrees 0 scale = 0 := by
  simp [unsignedDegrees, minutes, wholeDegrees]

/- The conversion of a value with either sign. -/
theorem toDegrees_eq_degrees
    {scale : Nat}
    (hScale : 0 < scale)
    (value : Int) :
    toDegrees ⟨value, scale⟩ = some (degrees value scale) := by
  have hAbs := toDegrees_natCast hScale value.natAbs
  unfold degrees
  rcases lt_trichotomy value 0 with hNeg | rfl | hPos
  · have hValue : value = -(value.natAbs : Int) := by omega
    rw [Int.sign_eq_neg_one_of_neg hNeg]
    conv_lhs => rw [hValue, toDegrees_neg, hAbs]
    simp
  · simpa [unsignedDegrees_zero] using hAbs
  · have hValue : value = (value.natAbs : Int) := by omega
    rw [Int.sign_eq_one_of_pos hPos]
    conv_lhs => rw [hValue, hAbs]
    simp

end App

------------------------------------------------------------
-- Range
------------------------------------------------------------

namespace App

theorem intermediates_neg
    (value scale : Int) :
    intermediates ⟨-value, scale⟩ =
      (intermediates ⟨value, scale⟩).map (- ·) := by
  simp only [intermediates, Int.neg_tdiv, List.map_cons,
    List.map_nil, neg_mul]
  congr 4
  rw [sub_neg_eq_add, neg_sub, add_comm, sub_eq_add_neg]

/- No intermediate is larger than an unsigned value. -/
theorem intermediates_natCast
    (n scale : Nat)
    {m : Int}
    (hMem : m ∈ intermediates ⟨n, scale⟩) :
    0 ≤ m ∧ m ≤ n := by
  have hQuotient : (n : Int).tdiv scale = (n / scale : Nat) :=
    Int.natCast_tdiv_eq_ediv
  have hTemp := temp_natCast n scale
  have hWhole : wholeDegrees n scale * (100 * scale) ≤ n :=
    Nat.div_mul_le_self n (100 * scale)
  have hProduct : wholeDegrees n scale * scale * 100 ≤ n := by
    calc wholeDegrees n scale * scale * 100
        = wholeDegrees n scale * (100 * scale) := by ring
      _ ≤ n := hWhole
  have hLess := Nat.div_le_self n scale
  have hTempLe := Nat.div_le_self n (100 * scale)
  simp only [intermediates, hTemp] at hMem
  rw [hQuotient] at hMem
  have hTempAgain : wholeDegrees n scale ≤ n := hTempLe
  have hScaled : wholeDegrees n scale * scale ≤ n := by omega
  simp only [List.mem_cons, List.not_mem_nil, or_false]
    at hMem
  rcases hMem with rfl | rfl | rfl | rfl | rfl
  · exact ⟨Int.natCast_nonneg _, Int.ofNat_le.mpr hLess⟩
  · exact ⟨Int.natCast_nonneg _, Int.ofNat_le.mpr hTempLe⟩
  · exact ⟨by positivity, by exact_mod_cast hScaled⟩
  · exact ⟨by positivity, by exact_mod_cast hProduct⟩
  · have hCast : (wholeDegrees n scale : Int) * scale * 100 ≤
        n := by
      exact_mod_cast hProduct
    have hNonneg :
        (0 : Int) ≤ wholeDegrees n scale * scale * 100 := by
      positivity
    omega

/- Nor larger than a signed one. -/
theorem natAbs_intermediates_le
    (value : Int)
    (scale : Nat)
    {m : Int}
    (hMem : m ∈ intermediates ⟨value, scale⟩) :
    m.natAbs ≤ value.natAbs := by
  rcases Int.natAbs_eq value with hValue | hValue
  · rw [hValue] at hMem
    have hBounds := intermediates_natCast _ _ hMem
    omega
  · rw [hValue, intermediates_neg, List.mem_map] at hMem
    rcases hMem with ⟨k, hMem, rfl⟩
    have hBounds := intermediates_natCast _ _ hMem
    omega

end App

------------------------------------------------------------
-- Order
------------------------------------------------------------

namespace App

theorem minutes_nonneg
    {scale : Nat}
    (hScale : 0 < scale)
    (n : Nat) :
    0 ≤ minutes n scale := by
  have hRat : (0 : ℚ) < scale := by positivity
  have hWhole : (wholeDegrees n scale : ℚ) * (100 * scale) ≤
      n := by
    exact_mod_cast Nat.div_mul_le_self n (100 * scale)
  unfold minutes
  rw [sub_nonneg, le_div_iff₀ hRat]
  linarith

/- A larger value has more degrees, or the same and more minutes. -/
theorem unsignedDegrees_lt
    {scale m n : Nat}
    (hScale : 0 < scale)
    (hLess : m < n)
    (hMinutes : minutes m scale < 60) :
    unsignedDegrees m scale < unsignedDegrees n scale := by
  have hRat : (0 : ℚ) < scale := by positivity
  have hNonneg := minutes_nonneg hScale n
  have hLe : wholeDegrees m scale ≤ wholeDegrees n scale :=
    Nat.div_le_div_right hLess.le
  rcases hLe.eq_or_lt with hSame | hMore
  · have hQuotient : (m : ℚ) / scale < n / scale := by
      rw [div_lt_div_iff_of_pos_right hRat]
      exact_mod_cast hLess
    unfold unsignedDegrees minutes
    rw [hSame]
    linarith
  · have hStep : (wholeDegrees m scale : ℚ) + 1 ≤
        wholeDegrees n scale := by
      exact_mod_cast hMore
    unfold unsignedDegrees
    linarith

theorem unsignedDegrees_pos
    {scale n : Nat}
    (hScale : 0 < scale)
    (hPos : 0 < n) :
    0 < unsignedDegrees n scale := by
  have hZero : minutes 0 scale < 60 := by
    simp [minutes, wholeDegrees]
  have hLess := unsignedDegrees_lt hScale hPos hZero
  rwa [unsignedDegrees_zero] at hLess

theorem degrees_of_nonneg
    {value : Int}
    (hNonneg : 0 ≤ value)
    (scale : Nat) :
    degrees value scale =
      unsignedDegrees value.natAbs scale := by
  rcases hNonneg.eq_or_lt with rfl | hPos
  · simp [degrees, unsignedDegrees_zero]
  · simp [degrees, Int.sign_eq_one_of_pos hPos]

theorem degrees_of_neg
    {value : Int}
    (hNeg : value < 0)
    (scale : Nat) :
    degrees value scale =
      -unsignedDegrees value.natAbs scale := by
  simp [degrees, Int.sign_eq_neg_one_of_neg hNeg]

/- The degrees increase over the values with minutes. -/
theorem degrees_lt
    {scale : Nat}
    (hScale : 0 < scale)
    {v w : Int}
    (hLess : v < w)
    (hFirst : minutes v.natAbs scale < 60)
    (hSecond : minutes w.natAbs scale < 60) :
    degrees v scale < degrees w scale := by
  by_cases hNonneg : 0 ≤ v
  · rw [degrees_of_nonneg hNonneg,
      degrees_of_nonneg (by omega)]
    exact unsignedDegrees_lt hScale (by omega) hFirst
  · rw [degrees_of_neg (by omega)]
    by_cases hLater : 0 ≤ w
    · have hBelow : 0 < unsignedDegrees v.natAbs scale :=
        unsignedDegrees_pos hScale (by omega)
      have hAbove : 0 ≤ unsignedDegrees w.natAbs scale := by
        have hNonneg := minutes_nonneg hScale w.natAbs
        unfold unsignedDegrees
        positivity
      rw [degrees_of_nonneg hLater]
      linarith
    · rw [degrees_of_neg (by omega), neg_lt_neg_iff]
      exact unsignedDegrees_lt hScale (by omega) hSecond

end App

------------------------------------------------------------
-- Exactness
------------------------------------------------------------

namespace App

/- A factor of ten in the value and in the scale cancels. -/
theorem degrees_mul_ten
    {scale : Nat}
    (hScale : 0 < scale)
    (value : Int) :
    degrees (value * 10) (scale * 10) = degrees value scale := by
  have hRat : (scale : ℚ) ≠ 0 := by positivity
  have hWhole : wholeDegrees (value.natAbs * 10) (scale * 10) =
      wholeDegrees value.natAbs scale := by
    unfold wholeDegrees
    rw [← mul_assoc]
    exact Nat.mul_div_mul_right _ _ (by decide)
  have hMinutes : minutes (value.natAbs * 10) (scale * 10) =
      minutes value.natAbs scale := by
    unfold minutes
    rw [hWhole]
    push_cast
    rw [mul_div_mul_right _ _ (by norm_num)]
  have hTen : Int.sign 10 = 1 := rfl
  have hSign : (value * 10).sign = value.sign := by
    rw [Int.sign_mul, hTen, mul_one]
  have hAbs : (value * 10).natAbs = value.natAbs * 10 := by
    omega
  unfold degrees unsignedDegrees
  rw [hSign, hAbs, hWhole, hMinutes]

/-
  The conversion of a value with a scale: nothing overflows,
  the result is that of exact degrees and minutes, and with
  them it is odd, does not depend on trailing zeros, and
  increases.
-/
structure ConvertsExactly
    (value : Int)
    (scale : Nat) : Prop where
  fits : ∀ m ∈ intermediates ⟨value, scale⟩, InInt32 m
  exact : toDegrees ⟨value, scale⟩ =
    some (value.sign *
      (wholeDegrees value.natAbs scale +
        minutes value.natAbs scale / 60))
  odd : toDegrees ⟨-value, scale⟩ =
    (toDegrees ⟨value, scale⟩).map (- ·)
  shifted : toDegrees ⟨value * 10, (scale * 10 : Nat)⟩ =
    toDegrees ⟨value, scale⟩
  increasing : ∀ larger : Int, value < larger →
    minutes value.natAbs scale < 60 →
    minutes larger.natAbs scale < 60 →
    ∀ d e, toDegrees ⟨value, scale⟩ = some d →
      toDegrees ⟨larger, scale⟩ = some e → d < e

/-
  The conversion is exact for every value but the smallest,
  with any number of decimal places.
-/
theorem converts_exactly
    {value : Int}
    (hLow : -2 ^ 31 < value)
    (hHigh : value < 2 ^ 31)
    (places : Nat) :
    ConvertsExactly value (10 ^ places) := by
  have hScale : 0 < 10 ^ places := by positivity
  refine
    { fits := ?_
      exact := toDegrees_eq_degrees hScale value
      odd := toDegrees_neg value _
      shifted := ?_
      increasing := ?_ }
  · intro m hMem
    have hLe := natAbs_intermediates_le value _ hMem
    unfold InInt32
    omega
  · rw [toDegrees_eq_degrees (by positivity),
      toDegrees_eq_degrees hScale, degrees_mul_ten hScale]
  · intro larger hLess hFirst hSecond d e hD hE
    rw [toDegrees_eq_degrees hScale, Option.some.injEq]
      at hD hE
    rw [← hD, ← hE]
    exact degrees_lt hScale hLess hFirst hSecond

/- A southern latitude of 48 degrees and 7.038 minutes. -/
theorem converts_exactly_south :
    ConvertsExactly (-4807038) (10 ^ 3) :=
  converts_exactly (by decide) (by decide) 3

end App
