import GpsTracker.Lib.Numeral

/-
  Decimal numbers as text.

  A number is written with a given number of digits, or with
  as many as it has. The value of the text is the number
  again, as far as its digits were written.

  Main declarations:
    * `Decimal.digit`, `Decimal.padded`, `Decimal.numeral`
    * `Decimal.value_padded`, `Decimal.value_numeral`
    * `Decimal.value_append`, `Decimal.value_lt`
-/

open Numeral

namespace Numeral

theorem isDigit_iff
    (base : Nat)
    (c : UInt8) :
    isDigit base c = true ↔
      ∃ d, digit? c = some d ∧ d < base := by
  unfold isDigit
  cases digit? c with
  | none => simp
  | some d => simp

end Numeral

------------------------------------------------------------
-- Writing
------------------------------------------------------------

namespace Decimal

/- The character of a digit. -/
def digit (d : Nat) : UInt8 :=
  UInt8.ofNat (48 + d)

/- The last digits of a number, as many as `width`. -/
def padded : Nat → Nat → List UInt8
| 0, _ => []
| width + 1, n => padded width (n / 10) ++ [digit (n % 10)]

/- All digits of a number. -/
def numeral (n : Nat) : List UInt8 :=
  (Nat.toDigits 10 n).map byte

theorem digit?_digit
    {d : Nat}
    (hd : d < 10) :
    digit? (digit d) = some d := by
  have hAll : ∀ d : Fin 10, digit? (digit d) = some d.val := by
    decide
  exact hAll ⟨d, hd⟩

theorem isDigit_digit
    {d : Nat}
    (hd : d < 10) :
    isDigit 10 (digit d) = true := by
  simp [isDigit, digit?_digit hd, hd]

theorem byte_digitChar
    {d : Nat}
    (hd : d < 10) :
    byte d.digitChar = digit d := by
  have hAll : ∀ d : Fin 10,
      byte (d : Nat).digitChar = digit d := by
    decide
  exact hAll ⟨d, hd⟩

theorem length_padded
    (width n : Nat) :
    (padded width n).length = width := by
  induction width generalizing n with
  | zero => rfl
  | succ width ih =>
      rw [padded, List.length_append, ih, List.length_singleton]

theorem isDigit_of_mem_padded
    {width n : Nat}
    {c : UInt8}
    (hMem : c ∈ padded width n) :
    isDigit 10 c = true := by
  induction width generalizing n with
  | zero => cases hMem
  | succ width ih =>
      rw [padded, List.mem_append, List.mem_singleton] at hMem
      rcases hMem with hMem | rfl
      · exact ih hMem
      · exact isDigit_digit (Nat.mod_lt n (by decide))

/- A numeral is written with its own number of digits. -/
theorem numeral_eq_padded
    (n : Nat) :
    numeral n = padded (numeral n).length n := by
  induction n using Nat.strongRecOn with
  | ind n ih =>
      have hDigits : numeral n =
          if n < 10 then [digit n]
          else numeral (n / 10) ++ [digit (n % 10)] := by
        unfold numeral
        rw [Nat.toDigits_eq_if (by decide)]
        split
        · next hLess =>
            rw [List.map_singleton, byte_digitChar hLess]
        · rw [List.map_append, List.map_singleton,
            byte_digitChar (Nat.mod_lt n (by decide))]
      rw [hDigits]
      split
      · next hLess =>
          rw [List.length_singleton, padded, padded,
            List.nil_append, Nat.mod_eq_of_lt hLess]
      · next hMore =>
          rw [List.length_append, List.length_singleton, padded,
            ← ih (n / 10) (by omega)]

theorem numeral_ne_nil
    (n : Nat) :
    numeral n ≠ [] := by
  unfold numeral
  rw [Ne, List.map_eq_nil_iff]
  exact Nat.toDigits_ne_nil

theorem isDigit_of_mem_numeral
    {n : Nat}
    {c : UInt8}
    (hMem : c ∈ numeral n) :
    isDigit 10 c = true := by
  rw [numeral_eq_padded] at hMem
  exact isDigit_of_mem_padded hMem

theorem length_numeral_le_iff
    {n width : Nat}
    (hWidth : 0 < width) :
    (numeral n).length ≤ width ↔ n < 10 ^ width := by
  unfold numeral
  rw [List.length_map]
  exact Nat.length_toDigits_le_iff (by decide) hWidth

end Decimal

------------------------------------------------------------
-- Reading
------------------------------------------------------------

namespace Decimal

theorem value_nil :
    value 10 [] = 0 := rfl

/- The digits written later have the lower places. -/
theorem value_append
    {first second : List UInt8}
    (hSecond : ∀ c ∈ second, isDigit 10 c = true) :
    value 10 (first ++ second) =
      value 10 first * 10 ^ second.length +
        value 10 second := by
  induction second using List.reverseRecOn with
  | nil =>
      rw [List.append_nil, value_nil, List.length_nil]
      omega
  | append_singleton second c ih =>
      rw [List.forall_mem_append] at hSecond
      rcases (isDigit_iff 10 c).mp
        (hSecond.2 c List.mem_cons_self) with ⟨d, hd, _⟩
      rw [← List.append_assoc, Numeral.value_append _ _ hd,
        Numeral.value_append _ _ hd, ih hSecond.1,
        List.length_append, List.length_singleton,
        Nat.pow_succ]
      ring

/- The first digit has the highest place. -/
theorem value_cons
    {c : UInt8}
    {d : Nat}
    (hd : digit? c = some d)
    {digits : List UInt8}
    (hDigits : ∀ c ∈ digits, isDigit 10 c = true) :
    value 10 (c :: digits) =
      d * 10 ^ digits.length + value 10 digits := by
  have hSplit := @value_append [c] digits hDigits
  have hOne := Numeral.value_append 10 [] hd
  rw [List.nil_append, value_nil, Nat.zero_mul,
    Nat.zero_add] at hOne
  rw [List.singleton_append, hOne] at hSplit
  exact hSplit

/- The value has the digits that were written. -/
theorem value_padded
    (width n : Nat) :
    value 10 (padded width n) = n % 10 ^ width := by
  induction width generalizing n with
  | zero =>
      rw [padded, value_nil, Nat.pow_zero, Nat.mod_one]
  | succ width ih =>
      rw [padded, Numeral.value_append _ _
        (digit?_digit (Nat.mod_lt n (by decide))), ih,
        Nat.pow_succ', Nat.mod_mul]
      omega

theorem value_padded_of_lt
    {width n : Nat}
    (hFits : n < 10 ^ width) :
    value 10 (padded width n) = n := by
  rw [value_padded, Nat.mod_eq_of_lt hFits]

theorem value_numeral
    (n : Nat) :
    value 10 (numeral n) = n := by
  have hPos : 0 < (numeral n).length :=
    List.length_pos_iff.mpr (numeral_ne_nil n)
  rw [numeral_eq_padded]
  exact value_padded_of_lt
    ((length_numeral_le_iff hPos).mp (le_refl _))

end Decimal
