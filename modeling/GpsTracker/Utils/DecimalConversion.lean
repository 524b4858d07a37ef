import GpsTracker.Lib.Decimal
import GpsTracker.Utils.Strtol

/-
  `strtol` in base 10.

  White space and a sign are skipped, and the digits behind
  them are converted. A numeral within the limits is read
  back, whatever follows its digits.

  Main declarations:
    * `Stdlib.isDigit_decimal_iff`, `Stdlib.isdigit_eq`
    * `Stdlib.strtol_decimal_eq`
    * `Stdlib.strtol_digits`, `Stdlib.strtol_minus_digits`
-/

open CString Numeral

namespace Stdlib

/- The digits, by their distance from '0'. -/
theorem digitValue?_decimal
    (c : UInt8) :
    ((digitValue? c).any (· < 10) = true ↔
        48 ≤ c.toNat ∧ c.toNat ≤ 57) ∧
      (isdigit c = true ↔ 48 ≤ c.toNat ∧ c.toNat ≤ 57) ∧
      (48 ≤ c.toNat ∧ c.toNat ≤ 57 →
        digitValue? c = some (c.toNat - 48) ∧
          isspace c = false) := by
  have hAll : ∀ n : Fin 256,
      ((digitValue? (UInt8.ofFin n)).any (· < 10) = true ↔
          48 ≤ n.val ∧ n.val ≤ 57) ∧
        (isdigit (UInt8.ofFin n) = true ↔
          48 ≤ n.val ∧ n.val ≤ 57) ∧
        (48 ≤ n.val ∧ n.val ≤ 57 →
          digitValue? (UInt8.ofFin n) = some (n.val - 48) ∧
            isspace (UInt8.ofFin n) = false) := by
    decide +kernel
  exact hAll c.toFin

theorem isDigit_decimal_iff
    (c : UInt8) :
    isDigit 10 c = true ↔ 48 ≤ c.toNat ∧ c.toNat ≤ 57 := by
  rw [isDigit, ← digitValue?_eq]
  exact (digitValue?_decimal c).1

theorem isdigit_eq
    (c : UInt8) :
    isdigit c = isDigit 10 c := by
  rw [Bool.eq_iff_iff, isDigit_decimal_iff]
  exact (digitValue?_decimal c).2.1

theorem digit?_eq_sub
    {c : UInt8}
    (hDigit : isDigit 10 c = true) :
    digit? c = some (c.toNat - 48) := by
  rw [← digitValue?_eq]
  exact ((digitValue?_decimal c).2.2
    ((isDigit_decimal_iff c).mp hDigit)).1

theorem isspace_of_isDigit
    {c : UInt8}
    (hDigit : isDigit 10 c = true) :
    isspace c = false :=
  ((digitValue?_decimal c).2.2
    ((isDigit_decimal_iff c).mp hDigit)).2

/- In base 10 there is no prefix. -/
theorem strtol_decimal_eq
    (nptr : List UInt8) :
    strtol nptr 10 =
      if (unsigned (nptr.dropWhile isspace)).takeWhile
          (isDigit 10) = [] then
        (0, nptr)
      else
        (converted (negative (nptr.dropWhile isspace))
            (value 10
              ((unsigned (nptr.dropWhile isspace)).takeWhile
                (isDigit 10))),
          (unsigned (nptr.dropWhile isspace)).dropWhile
            (isDigit 10)) := by
  have hNot : ¬ HexStart 10
      (unsigned (nptr.dropWhile isspace)) := by
    rintro ⟨hBase, _⟩
    omega
  rw [strtol_eq_of_not_hexStart hNot, convert_eq]
  rfl

variable {digits stop : List UInt8}

/- What follows the digits is neither skipped nor read. -/
theorem digits_append
    (hDigits : ∀ c ∈ digits, isDigit 10 c = true)
    (hStop : isDigit 10 (peek stop) = false) :
    (digits ++ stop).takeWhile (isDigit 10) = digits ∧
      (digits ++ stop).dropWhile (isDigit 10) = stop := by
  rw [List.takeWhile_append_of_pos hDigits,
    List.dropWhile_append_of_pos hDigits]
  cases stop with
  | nil => simp
  | cons c stop =>
      have hNot : ¬ isDigit 10 c = true := by
        rw [show isDigit 10 c = false from hStop]
        decide
      rw [List.takeWhile_cons_of_neg hNot,
        List.dropWhile_cons_of_neg hNot, List.append_nil]
      exact ⟨rfl, rfl⟩

theorem strtol_digits
    (hDigits : ∀ c ∈ digits, isDigit 10 c = true)
    (hSome : digits ≠ [])
    (hStop : isDigit 10 (peek stop) = false)
    (hMax : value 10 digits ≤ 0x7fffffff) :
    strtol (digits ++ stop) 10 =
      ((value 10 digits : Int), stop) := by
  match digits, hSome with
  | c :: digits, _ =>
      have hFirst := hDigits c List.mem_cons_self
      have hSign := ne_sign_of_isDigit hFirst
      have hSkip : (c :: digits ++ stop).dropWhile isspace =
          c :: digits ++ stop := by
        rw [List.cons_append, List.dropWhile_cons_of_neg]
        rw [isspace_of_isDigit hFirst]
        decide
      have hPlain : unsigned (c :: digits ++ stop) =
          c :: digits ++ stop := by
        rw [List.cons_append, unsigned, if_neg]
        simp [hSign]
      have hPositive : negative (c :: digits ++ stop) =
          false := by
        simp [negative, hSign.1]
      have hSplit := digits_append hDigits hStop
      rw [strtol_decimal_eq, hSkip, hPlain, hSplit.1,
        hSplit.2, if_neg (List.cons_ne_nil _ _), hPositive]
      unfold converted longMax
      simp only [Bool.false_eq_true, if_false]
      rw [min_eq_left (by omega)]

theorem strtol_minus_digits
    (hDigits : ∀ c ∈ digits, isDigit 10 c = true)
    (hSome : digits ≠ [])
    (hStop : isDigit 10 (peek stop) = false)
    (hMax : value 10 digits ≤ 0x7ffffffe) :
    strtol (byte '-' :: digits ++ stop) 10 =
      (-(value 10 digits : Int), stop) := by
  have hSkip : (byte '-' :: digits ++ stop).dropWhile isspace =
      byte '-' :: digits ++ stop :=
    List.dropWhile_cons_of_neg (by decide)
  have hSign : unsigned (byte '-' :: digits ++ stop) =
      digits ++ stop := by
    simp [unsigned]
  have hNegative : negative (byte '-' :: digits ++ stop) =
      true := by
    simp [negative]
  have hSplit := digits_append hDigits hStop
  rw [strtol_decimal_eq, hSkip, hSign, hSplit.1, hSplit.2,
    if_neg hSome, hNegative]
  unfold converted longMin
  simp only [if_true]
  rw [max_eq_left (by omega)]

end Stdlib
