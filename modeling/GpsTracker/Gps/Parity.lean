import GpsTracker.Gps.AckCheck
import GpsTracker.Lib.Xor

/-
  What `GPS_CheckParity` accepts.

  The parity is held in a signed `char` and shifted right to
  find its first digit. As long as its high bit is clear the
  check is exact; a high bit makes the index negative. The
  bit is set by an odd number of bytes that have theirs set.

  Main declarations:
    * `Gps.upperHex`, `Gps.DigitsOf`
    * `Gps.checkParity_append`
    * `Gps.ParityExact`, `Gps.parityExact_iff`
-/

open CString Machine

------------------------------------------------------------
-- Hexadecimal Digits
------------------------------------------------------------

namespace Gps

/- The upper-case digit of a number below 16. -/
def upperHex (n : Nat) : UInt8 :=
  if n < 10 then
    UInt8.ofNat (48 + n)
  else
    UInt8.ofNat (65 + (n - 10))

theorem hexStr_of_lt
    {n : Nat}
    (hDigit : n < 16) :
    hexStr n = some (upperHex n) := by
  have hAll : ∀ n : Fin 16,
      hexDigits[n.val]? = some (upperHex n.val) := by
    decide
  rw [hexStr, if_pos (Int.natCast_nonneg n), Int.toNat_natCast]
  exact hAll ⟨n, hDigit⟩

theorem hexStr_of_neg
    {i : Int}
    (hNegative : i < 0) :
    hexStr i = none :=
  if_neg (Int.not_le.mpr hNegative)

theorem upperHex_ne_zero
    {n : Nat}
    (hDigit : n < 16) :
    upperHex n ≠ 0 := by
  have hAll : ∀ n : Fin 16, upperHex n.val ≠ 0 := by decide
  exact hAll ⟨n, hDigit⟩

/- A byte without the sign bit, read as a `char`. -/
theorem i8_of_lt
    {c : UInt8}
    (hLess : c.toNat < 128) :
    i8 c = c.toNat :=
  Int.bmod_eq_of_le (by omega) (by omega)

/- A byte with the sign bit is negative. -/
theorem i8_of_le
    {c : UInt8}
    (hMore : 128 ≤ c.toNat) :
    i8 c = c.toNat - 256 := by
  have hLess := c.toNat_lt
  unfold i8
  rw [Int.bmod_def]
  push_cast
  split_ifs <;> omega

/- The index of the first digit, `result>>4`. -/
theorem i8_div_of_clear
    {result : UInt8}
    (hClear : Xor.highBit result = false) :
    i8 result / 16 = (result.toNat / 16 : Nat) := by
  have hLess : result.toNat < 128 := by
    simpa [Xor.highBit] using hClear
  rw [i8_of_lt hLess]
  rfl

theorem i8_div_of_set
    {result : UInt8}
    (hSet : Xor.highBit result = true) :
    i8 result / 16 < 0 := by
  have hMore : 128 ≤ result.toNat := by
    simpa [Xor.highBit] using hSet
  have hLess := result.toNat_lt
  rw [i8_of_le hMore]
  omega

end Gps

------------------------------------------------------------
-- The Loop
------------------------------------------------------------

namespace Gps

/- The loop comes to the first '*'. -/
theorem parityLoop_append
    {str : List UInt8}
    (hStar : byte '*' ∉ str)
    (rest : List UInt8)
    (result : UInt8) :
    parityLoop (str ++ byte '*' :: rest) result =
      some (result ^^^ Xor.checksum str, rest) := by
  induction str generalizing result with
  | nil => simp [parityLoop, Xor.checksum]
  | cons b str ih =>
      rw [List.mem_cons, not_or] at hStar
      rw [List.cons_append, parityLoop,
        if_neg (Ne.symm hStar.1), ih hStar.2,
        Xor.checksum_cons, UInt8.xor_assoc]

/- The two indices into `Hex_Str` that the check uses. -/
def parityIndices (str : List UInt8) : Option (Int × Int) := do
  let (result, _) ← parityLoop (str.drop 2) (str.getD 1 0)
  some (i8 result / 16, (result.toNat % 16 : Nat))

/- The digits behind a '*' are those of a parity. -/
def DigitsOf
    (result : UInt8)
    (digits : List UInt8) : Prop :=
  digits.getD 0 0 = upperHex (result.toNat / 16) ∧
    digits.getD 1 0 = upperHex (result.toNat % 16)

instance
    (result : UInt8)
    (digits : List UInt8) :
    Decidable (DigitsOf result digits) := by
  unfold DigitsOf
  infer_instance

/- Digits are those of one parity only. -/
theorem digitsOf_inj
    {left right : UInt8}
    {digits : List UInt8}
    (hLeft : DigitsOf left digits)
    (hRight : DigitsOf right digits) :
    left = right := by
  have hAll : ∀ m n : Fin 16,
      upperHex m.val = upperHex n.val → m = n := by
    decide
  have hInj : ∀ m n, m < 16 → n < 16 →
      upperHex m = upperHex n → m = n := by
    intro m n hm hn hSame
    exact congrArg Fin.val (hAll ⟨m, hm⟩ ⟨n, hn⟩ hSame)
  have hLeftByte := left.toNat_lt
  have hRightByte := right.toNat_lt
  have hHigh := hInj _ _ (by omega) (by omega)
    (hLeft.1.symm.trans hRight.1)
  have hLow := hInj _ _ (by omega) (by omega)
    (hLeft.2.symm.trans hRight.2)
  rw [← UInt8.toNat_inj]
  omega

variable {first second : UInt8}
variable {body : List UInt8}

/- The loop over a string, from its second character on. -/
theorem parityLoop_parts
    (hStar : byte '*' ∉ body)
    (digits : List UInt8) :
    parityLoop ((first :: second :: body ++
        byte '*' :: digits).drop 2) second =
      some (Xor.checksum (second :: body), digits) := by
  rw [Xor.checksum_cons]
  exact parityLoop_append hStar digits second

theorem parityIndices_append
    (hStar : byte '*' ∉ body)
    (digits : List UInt8) :
    parityIndices
        (first :: second :: body ++ byte '*' :: digits) =
      some (i8 (Xor.checksum (second :: body)) / 16,
        ((Xor.checksum (second :: body)).toNat : Int) % 16) := by
  have hSecond : (first :: second :: body ++
      byte '*' :: digits).getD 1 0 = second := rfl
  rw [parityIndices, hSecond, parityLoop_parts hStar]
  rfl

/- The check of a string, at its first '*'. -/
theorem checkParity_append
    (hStar : byte '*' ∉ first :: second :: body)
    (hNul : 0 ∉ first :: second :: body)
    (digits : List UInt8) :
    checkParity
        (some (first :: second :: body ++
          byte '*' :: digits)) =
      if Xor.highBit (Xor.checksum (second :: body)) then
        none
      else
        some (decide
          (DigitsOf (Xor.checksum (second :: body))
            digits)) := by
  have hFound : strstr (first :: second :: body ++
      byte '*' :: digits) 0 (ascii "*") =
        some (0 + (first :: second :: body).length) :=
    (strstr_singleton_eq_some_iff (by decide)).mpr
      ⟨first :: second :: body, digits, rfl, hStar, hNul, rfl⟩
  have hBody : byte '*' ∉ body := by
    simp only [List.mem_cons, not_or] at hStar
    exact hStar.2.2
  have hSecond : (first :: second :: body ++
      byte '*' :: digits).getD 1 0 = second := rfl
  simp only [checkParity, hFound, hSecond,
    parityLoop_parts hBody, Option.bind_eq_bind,
    Option.bind_some]
  generalize Xor.checksum (second :: body) = result
  have hByte := result.toNat_lt
  cases hHigh : Xor.highBit result with
  | true =>
      rw [hexStr_of_neg (i8_div_of_set hHigh)]
      rfl
  | false =>
      rw [i8_div_of_clear hHigh, hexStr_of_lt (by omega),
        hexStr_of_lt (by omega)]
      simp only [Option.bind_some, Bool.false_eq_true, if_false,
        Option.some.injEq]
      rw [Bool.eq_iff_iff, Bool.and_eq_true, beq_iff_eq,
        beq_iff_eq, decide_eq_true_iff, DigitsOf, eq_comm,
        eq_comm (a := upperHex (result.toNat % 16))]

end Gps

------------------------------------------------------------
-- Exactness
------------------------------------------------------------

namespace Gps

/- The parity of the bytes from index 1 to before an index. -/
def parityOf
    (str : List UInt8)
    (p : Nat) : UInt8 :=
  Xor.checksum ((str.take p).drop 1)

/-
  `GPS_CheckParity` is exact on a string whose first '*' is
  at an index: it stays inside `Hex_Str`, and it is true for
  the digits of the parity only.
-/
structure ParityExact
    (str : List UInt8)
    (p : Nat) : Prop where
  indices : ∃ high low,
    parityIndices str = some (high, low) ∧
      (0 ≤ high ∧ high ≤ 15) ∧ 0 ≤ low ∧ low ≤ 15
  exact : checkParity (some str) =
    some (decide
      (DigitsOf (parityOf str p) (str.drop (p + 1))))

/- The parts of a string around its first '*'. -/
theorem exists_parts_of_star
    {str : List UInt8}
    {p : Nat}
    (hStar : strstr str 0 (ascii "*") = some p)
    (hp : 2 ≤ p) :
    ∃ first second body digits,
      str = first :: second :: body ++ byte '*' :: digits ∧
        (byte '*' ∉ first :: second :: body ∧
          0 ∉ first :: second :: body) ∧
        p = body.length + 2 := by
  rcases (strstr_singleton_eq_some_iff (by decide)).mp hStar
    with ⟨before, digits, hStr, hClear, hNul, hLength⟩
  match before, hLength with
  | [], hLength => simp at hLength; omega
  | [_], hLength => simp at hLength; omega
  | first :: second :: body, hLength =>
      exact ⟨first, second, body, digits, hStr,
        ⟨hClear, hNul⟩, by simpa using hLength⟩

/-
  The check is exact exactly when the high bits of the bytes
  before the '*' are even in number.
-/
theorem parityExact_iff
    {str : List UInt8}
    {p : Nat}
    (hStar : strstr str 0 (ascii "*") = some p)
    (hp : 2 ≤ p) :
    ParityExact str p ↔
      ((str.take p).drop 1).countP Xor.highBit % 2 = 0 := by
  rcases exists_parts_of_star hStar hp with
    ⟨first, second, body, digits, rfl, ⟨hClear, hNul⟩, rfl⟩
  have hBody : byte '*' ∉ body := by
    simp only [List.mem_cons, not_or] at hClear
    exact hClear.2.2
  have hTake : ((first :: second :: body ++
      byte '*' :: digits).take (body.length + 2)).drop 1 =
        second :: body := by
    simp
  have hDigits : (first :: second :: body ++
      byte '*' :: digits).drop (body.length + 2 + 1) =
        digits := by
    simp
  have hHigh := Xor.highBit_checksum_iff (second :: body)
  have hIndices : parityIndices (first :: second :: body ++
      byte '*' :: digits) = _ :=
    parityIndices_append hBody digits
  have hCheck := checkParity_append hClear hNul digits
  rw [hTake]
  constructor
  · rintro ⟨hInside, _⟩
    rcases hInside with ⟨high, low, hPair, ⟨hLeast, _⟩, _⟩
    rw [hIndices, Option.some.injEq, Prod.mk.injEq] at hPair
    by_contra hOdd
    have hNegative := i8_div_of_set (hHigh.mpr (by omega))
    omega
  · intro hEven
    have hNotSet : Xor.highBit (Xor.checksum
        (second :: body)) = false := by
      rw [← Bool.not_eq_true, hHigh]
      omega
    have hByte := (Xor.checksum (second :: body)).toNat_lt
    constructor
    · refine ⟨_, _, hIndices, ?_, ?_⟩
      · rw [i8_div_of_clear hNotSet]
        omega
      · omega
    · rw [hCheck, hNotSet, parityOf, hTake, hDigits]
      rfl

theorem parityExact_reboot :
    ParityExact (ascii "$PGKC001,30,3*1E\r\n" ++ [0]) 13 := by
  rw [parityExact_iff (by decide) (by decide)]
  decide

/- One byte of noise makes the first index negative. -/
theorem parity_of_noise :
    ¬ ∀ (str : List UInt8) (p : Nat), 0 ∈ str →
      strstr str 0 (ascii "*") = some p → 2 ≤ p →
      ParityExact str p := by
  intro hAll
  have hExact := hAll (byte '$' :: 0x80 :: ascii "*80" ++ [0]) 2
    (by decide) (by decide) (by decide)
  rw [parityExact_iff (by decide) (by decide)] at hExact
  revert hExact
  decide

end Gps
