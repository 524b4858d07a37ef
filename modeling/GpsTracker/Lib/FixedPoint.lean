import GpsTracker.Lib.Decimal
import Mathlib.Data.Rat.Floor
import Mathlib.Tactic.FieldSimp
import Mathlib.Tactic.Linarith

/-
  Numbers printed with a fixed number of decimals.

  A number is rounded to its last decimal, to the nearest
  one and to the even one in the middle, and printed with
  all of its decimals. What a reader gets back is the
  rounded number.

  Main declarations:
    * `FixedPoint.roundEven`, `FixedPoint.rounded`
    * `FixedPoint.print`, `FixedPoint.printInt`
    * `FixedPoint.read`
    * `FixedPoint.read_print`, `FixedPoint.read_printInt`
    * `FixedPoint.abs_rounded_sub_le`
-/

open Decimal Numeral

------------------------------------------------------------
-- Rounding
------------------------------------------------------------

namespace FixedPoint

/- The nearest integer, the even one of two. -/
def roundEven (x : ℚ) : Int :=
  if x - x.floor < 1 / 2 then x.floor
  else if 1 / 2 < x - x.floor then x.floor + 1
  else if x.floor % 2 = 0 then x.floor
  else x.floor + 1

/- The units of the last of so many decimals. -/
def units
    (decimals : Nat)
    (x : ℚ) : Nat :=
  (roundEven (|x| * 10 ^ decimals)).toNat

/- The number rounded to so many decimals. -/
def rounded
    (decimals : Nat)
    (x : ℚ) : ℚ :=
  if x < 0 then -(units decimals x / 10 ^ decimals)
  else units decimals x / 10 ^ decimals

theorem abs_roundEven_sub_le
    (x : ℚ) :
    |(roundEven x : ℚ) - x| ≤ 1 / 2 := by
  have hLow : (x.floor : ℚ) ≤ x := Rat.floor_le x
  have hHigh : x < ((x.floor + 1 : Int) : ℚ) :=
    Rat.lt_floor_add_one x
  push_cast at hHigh
  unfold roundEven
  rw [abs_le]
  split_ifs <;> push_cast <;> constructor <;> linarith

theorem roundEven_intCast
    (n : Int) :
    roundEven n = n := by
  unfold roundEven
  rw [Rat.floor_intCast, sub_self, if_pos (by norm_num)]

theorem roundEven_nonneg
    {x : ℚ}
    (hx : 0 ≤ x) :
    0 ≤ roundEven x := by
  have hFloor : 0 ≤ x.floor := Rat.le_floor_iff.mpr hx
  unfold roundEven
  split_ifs <;> omega

theorem units_cast
    (decimals : Nat)
    (x : ℚ) :
    (units decimals x : ℚ) =
      roundEven (|x| * 10 ^ decimals) := by
  have hNonneg : 0 ≤ roundEven (|x| * 10 ^ decimals) :=
    roundEven_nonneg
      (mul_nonneg (abs_nonneg x) (pow_nonneg (by norm_num) _))
  unfold units
  exact_mod_cast Int.toNat_of_nonneg hNonneg

/- Half a unit of the last decimal at most is lost. -/
theorem abs_rounded_sub_le
    (decimals : Nat)
    (x : ℚ) :
    |rounded decimals x - x| ≤ 1 / 2 / 10 ^ decimals := by
  have hPos : (0 : ℚ) < 10 ^ decimals :=
    pow_pos (by norm_num) _
  have hUnits := abs_roundEven_sub_le (|x| * 10 ^ decimals)
  rw [← units_cast] at hUnits
  have hBoth : abs (units decimals x / 10 ^ decimals - |x|) ≤
      1 / 2 / 10 ^ decimals := by
    calc abs (units decimals x / 10 ^ decimals - |x|)
        = |(units decimals x - |x| * 10 ^ decimals) /
            10 ^ decimals| := by
          congr 1
          field_simp
      _ = |units decimals x - |x| * 10 ^ decimals| /
            10 ^ decimals := by
          rw [abs_div, abs_of_pos hPos]
      _ ≤ 1 / 2 / 10 ^ decimals :=
          div_le_div_of_nonneg_right hUnits hPos.le
  unfold rounded
  split
  · next hNeg =>
      rw [abs_of_neg hNeg] at hBoth
      rw [← abs_neg]
      convert hBoth using 2
      ring
  · next hNonneg =>
      rw [abs_of_nonneg (not_lt.mp hNonneg)] at hBoth
      exact hBoth

/- A whole number is not rounded. -/
theorem rounded_natCast
    (decimals n : Nat) :
    rounded decimals (n : ℚ) = n := by
  have hPos : (0 : ℚ) < 10 ^ decimals :=
    pow_pos (by norm_num) _
  have hCast : (n : ℚ) * 10 ^ decimals =
      ((n * 10 ^ decimals : Nat) : Int) := by
    push_cast
    rfl
  have hUnits : (units decimals n : ℚ) = n * 10 ^ decimals := by
    rw [units_cast, abs_of_nonneg (Nat.cast_nonneg n), hCast,
      roundEven_intCast]
  unfold rounded
  rw [if_neg (not_lt.mpr (Nat.cast_nonneg n)), hUnits,
    mul_div_cancel_right₀ _ hPos.ne']

end FixedPoint

------------------------------------------------------------
-- Printing and Reading
------------------------------------------------------------

namespace FixedPoint

/- "%.nf", with at least one decimal -/
def print
    (decimals : Nat)
    (x : ℚ) : List UInt8 :=
  (if x < 0 then [byte '-'] else []) ++
    numeral (units decimals x / 10 ^ decimals) ++
      byte '.' :: padded decimals (units decimals x)

/- "%d" -/
def printInt (n : Int) : List UInt8 :=
  (if n < 0 then [byte '-'] else []) ++ numeral n.natAbs

/- A number without a sign, with a point or without. -/
def readUnsigned (text : List UInt8) : Option ℚ :=
  let whole := text.takeWhile (isDigit 10)
  let rest := text.dropWhile (isDigit 10)
  let fraction := rest.drop 1
  if whole = [] then
    none
  else if rest = [] then
    some (value 10 whole)
  else if rest.head? = some (byte '.') ∧ fraction ≠ [] ∧
      fraction.all (isDigit 10) = true then
    some (value 10 whole +
      value 10 fraction / 10 ^ fraction.length)
  else
    none

/- A number that may have a minus sign. -/
def read (text : List UInt8) : Option ℚ :=
  if text.head? = some (byte '-') then
    (readUnsigned (text.drop 1)).map (- ·)
  else
    readUnsigned text

theorem readUnsigned_digits
    {digits : List UInt8}
    (hDigits : ∀ c ∈ digits, isDigit 10 c = true)
    (hNe : digits ≠ []) :
    readUnsigned digits = some (value 10 digits : ℚ) := by
  have hWhole : digits.takeWhile (isDigit 10) = digits :=
    List.takeWhile_eq_self_iff.mpr hDigits
  have hRest : digits.dropWhile (isDigit 10) = [] :=
    List.dropWhile_eq_nil_iff.mpr hDigits
  unfold readUnsigned
  rw [hWhole, hRest, if_neg hNe, if_pos rfl]

theorem readUnsigned_point
    {whole fraction : List UInt8}
    (hWhole : ∀ c ∈ whole, isDigit 10 c = true)
    (hFraction : ∀ c ∈ fraction, isDigit 10 c = true)
    (hNe : whole ≠ [])
    (hSome : fraction ≠ []) :
    readUnsigned (whole ++ byte '.' :: fraction) =
      some (value 10 whole +
        value 10 fraction / 10 ^ fraction.length : ℚ) := by
  have hPoint : ¬ isDigit 10 (byte '.') = true := by decide
  unfold readUnsigned
  rw [List.takeWhile_append_of_pos hWhole,
    List.takeWhile_cons_of_neg hPoint,
    List.dropWhile_append_of_pos hWhole,
    List.dropWhile_cons_of_neg hPoint, List.append_nil,
    if_neg hNe, if_neg (List.cons_ne_nil _ _),
    List.drop_one, List.tail_cons,
    if_pos ⟨rfl, hSome, List.all_eq_true.mpr hFraction⟩]

/- A digit is no sign. -/
theorem head?_ne_minus
    {digits : List UInt8}
    (hDigits : ∀ c ∈ digits, isDigit 10 c = true)
    (hNe : digits ≠ [])
    (rest : List UInt8) :
    (digits ++ rest).head? ≠ some (byte '-') := by
  cases digits with
  | nil => exact absurd rfl hNe
  | cons c digits =>
      intro hHead
      injection hHead with hMinus
      have hDigit := hDigits c List.mem_cons_self
      rw [hMinus] at hDigit
      exact absurd hDigit (by decide)

/- The digits behind the sign decide the absolute value. -/
theorem read_signed
    {digits : List UInt8}
    (hDigits : ∀ c ∈ digits, isDigit 10 c = true)
    (hNe : digits ≠ [])
    (rest : List UInt8)
    (isNegative : Prop)
    [Decidable isNegative] :
    read ((if isNegative then [byte '-'] else []) ++
        (digits ++ rest)) =
      if isNegative then
        (readUnsigned (digits ++ rest)).map (- ·)
      else
        readUnsigned (digits ++ rest) := by
  split
  · rfl
  · rw [List.nil_append, read,
      if_neg (head?_ne_minus hDigits hNe rest)]

/- A reader gets the rounded number. -/
theorem read_print
    {decimals : Nat}
    (hDecimals : 0 < decimals)
    (x : ℚ) :
    read (print decimals x) = some (rounded decimals x) := by
  have hPos : (0 : ℚ) < 10 ^ decimals :=
    pow_pos (by norm_num) _
  have hPoint := readUnsigned_point
    (fun c => @isDigit_of_mem_numeral
      (units decimals x / 10 ^ decimals) c)
    (fun c => @isDigit_of_mem_padded decimals
      (units decimals x) c)
    (numeral_ne_nil _)
    (List.ne_nil_of_length_pos (by rwa [length_padded]))
  rw [value_numeral, value_padded, length_padded] at hPoint
  have hValue : ((units decimals x / 10 ^ decimals : Nat) : ℚ) +
      (units decimals x % 10 ^ decimals : Nat) /
        10 ^ decimals = units decimals x / 10 ^ decimals := by
    rw [eq_div_iff hPos.ne', add_mul,
      div_mul_cancel₀ _ hPos.ne']
    exact_mod_cast Nat.div_add_mod' _ _
  rw [hValue] at hPoint
  unfold print rounded
  rw [List.append_assoc, read_signed
    (fun c => isDigit_of_mem_numeral) (numeral_ne_nil _),
    hPoint]
  split <;> rfl

theorem read_printInt
    (n : Int) :
    read (printInt n) = some (n : ℚ) := by
  have hDigits := readUnsigned_digits
    (fun c => @isDigit_of_mem_numeral n.natAbs c)
    (numeral_ne_nil _)
  have hRead := read_signed
    (fun c => @isDigit_of_mem_numeral n.natAbs c)
    (numeral_ne_nil _) [] (n < 0)
  rw [List.append_nil, hDigits, value_numeral] at hRead
  unfold printInt
  rw [hRead]
  split
  · next hNeg =>
      rw [Option.map_some, Nat.cast_natAbs,
        abs_of_neg hNeg]
      push_cast
      rw [neg_neg]
  · next hNonneg =>
      rw [Nat.cast_natAbs, abs_of_nonneg (not_lt.mp hNonneg)]

end FixedPoint

------------------------------------------------------------
-- Characters and Lengths
------------------------------------------------------------

namespace FixedPoint

/- A number is printed with these characters. -/
def isNumeric (c : UInt8) : Bool :=
  isDigit 10 c || c = byte '.' || c = byte '-'

theorem isNumeric_sign
    {isNegative : Prop}
    [Decidable isNegative]
    {c : UInt8}
    (hMem : c ∈ if isNegative then [byte '-'] else []) :
    isNumeric c = true := by
  split at hMem
  · rw [List.mem_singleton.mp hMem]
    decide
  · cases hMem

theorem isNumeric_of_isDigit
    {c : UInt8}
    (hDigit : isDigit 10 c = true) :
    isNumeric c = true := by
  simp [isNumeric, hDigit]

theorem isNumeric_print
    {decimals : Nat}
    {x : ℚ}
    {c : UInt8}
    (hMem : c ∈ print decimals x) :
    isNumeric c = true := by
  unfold print at hMem
  rw [List.mem_append, List.mem_append, List.mem_cons] at hMem
  rcases hMem with (hMem | hMem) | rfl | hMem
  · exact isNumeric_sign hMem
  · exact isNumeric_of_isDigit (isDigit_of_mem_numeral hMem)
  · decide
  · exact isNumeric_of_isDigit (isDigit_of_mem_padded hMem)

theorem isNumeric_printInt
    {n : Int}
    {c : UInt8}
    (hMem : c ∈ printInt n) :
    isNumeric c = true := by
  unfold printInt at hMem
  rcases List.mem_append.mp hMem with hMem | hMem
  · exact isNumeric_sign hMem
  · exact isNumeric_of_isDigit (isDigit_of_mem_numeral hMem)

theorem length_sign_le
    (isNegative : Prop)
    [Decidable isNegative] :
    (if isNegative then [byte '-'] else []).length ≤ 1 := by
  split
  · exact le_refl 1
  · exact Nat.zero_le 1

theorem length_printInt_le
    {width : Nat}
    (hWidth : 0 < width)
    {n : Int}
    (hSmall : n.natAbs < 10 ^ width) :
    (printInt n).length ≤ width + 1 := by
  have hSign := length_sign_le (n < 0)
  have hDigits := (length_numeral_le_iff hWidth).mpr hSmall
  rw [printInt, List.length_append]
  omega

/- A number with so many digits keeps them when rounded. -/
theorem length_print_le
    {width : Nat}
    (hWidth : 0 < width)
    {x : ℚ}
    (hSmall : |x| + 1 ≤ 10 ^ width)
    (decimals : Nat) :
    (print decimals x).length ≤ width + decimals + 2 := by
  have hOne : (1 : ℚ) ≤ 10 ^ decimals :=
    one_le_pow₀ (by norm_num)
  have hUnits : (units decimals x : ℚ) <
      10 ^ width * 10 ^ decimals := by
    have hNear := (abs_le.mp
      (abs_roundEven_sub_le (|x| * 10 ^ decimals))).2
    rw [← units_cast] at hNear
    calc (units decimals x : ℚ)
        ≤ |x| * 10 ^ decimals + 1 / 2 := by linarith
      _ < (|x| + 1) * 10 ^ decimals := by linarith
      _ ≤ 10 ^ width * 10 ^ decimals :=
          mul_le_mul_of_nonneg_right hSmall (by linarith)
  have hWhole : units decimals x / 10 ^ decimals <
      10 ^ width :=
    Nat.div_lt_of_lt_mul (by
      rw [Nat.mul_comm]
      exact_mod_cast hUnits)
  have hSign := length_sign_le (x < 0)
  have hDigits := (length_numeral_le_iff hWidth).mpr hWhole
  rw [print, List.length_append, List.length_append,
    List.length_cons, length_padded]
  omega

end FixedPoint
