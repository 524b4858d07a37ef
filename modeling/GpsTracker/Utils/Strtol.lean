import GpsTracker.Lib.Numeral
import GpsTracker.Utils.Stdlib

/-
  What the `strtol` of `libs/utils` returns.

  The digit loop keeps the value of the digits read so far,
  or the flag that it has passed the limit. The limit of
  negative numerals comes from a `LONG_MIN` that is two
  short, and a base prefix is taken before it is known that
  a digit follows; the conversion is the one of the C
  standard exactly where neither matters.

  Main declarations:
    * `Stdlib.strtolLoop_spec`, `Stdlib.convert_eq`
    * `Stdlib.Conforms`
    * `Stdlib.BelowMinimum`, `Stdlib.BareHexPrefix`
    * `Stdlib.strtol_conforms_iff`
-/

open Machine Munch Numeral

------------------------------------------------------------
-- The Digit Loop
------------------------------------------------------------

namespace Stdlib

/- Every digit of the table is one of the code. -/
theorem digit?_eq_none
    {ch : UInt8}
    (hNone : digitValue? ch = none) :
    digit? ch = none := by
  have hLower :
      ∀ b ∈ ascii "0123456789abcdefghijklmnopqrstuvwxyz",
        digitValue? b ≠ none := by
    decide +kernel
  have hUpper :
      ∀ b ∈ ascii "0123456789ABCDEFGHIJKLMNOPQRSTUVWXYZ",
        digitValue? b ≠ none := by
    decide +kernel
  rw [digit?, Option.or_eq_none_iff, List.idxOf?_eq_none_iff,
    List.idxOf?_eq_none_iff]
  exact ⟨fun hMem => hLower ch hMem hNone,
    fun hMem => hUpper ch hMem hNone⟩

theorem digitValue?_eq
    (ch : UInt8) :
    digitValue? ch = digit? ch := by
  have hSome : ∀ n : Fin 256,
      digitValue? (UInt8.ofFin n) ≠ none →
        digitValue? (UInt8.ofFin n) =
          digit? (UInt8.ofFin n) := by
    decide +kernel
  by_cases hNone : digitValue? ch = none
  · rw [hNone, digit?_eq_none hNone]
  · exact hSome ch.toFin hNone

/- The loop holds the value of its digits, or has overflowed. -/
def Holds
    (limit n ret : Nat)
    (flag : Int) : Prop :=
  (n ≤ limit ∧ ret = n ∧ 0 ≤ flag) ∨
    (limit < n ∧ flag = -1)

/- The test with the quotient and the remainder of the limit. -/
theorem limit_lt_iff
    {base limit ret digit : Nat}
    (hDigit : digit < base) :
    limit < ret * base + digit ↔
      ret > limit / base ∨
        (ret = limit / base ∧ digit > limit % base) := by
  have hSplit := Nat.div_add_mod' limit base
  have hRest := Nat.mod_lt limit (show base > 0 by omega)
  rcases Nat.lt_trichotomy ret (limit / base) with
    hLess | rfl | hMore
  · have hMul := Nat.mul_le_mul_right base
      (show ret + 1 ≤ limit / base by omega)
    rw [Nat.add_mul] at hMul
    omega
  · omega
  · have hMul := Nat.mul_le_mul_right base
      (show limit / base + 1 ≤ ret by omega)
    rw [Nat.add_mul] at hMul
    omega

/- What one digit does to the value and the flag. -/
theorem Holds.digit
    {base limit n ret digit : Nat}
    {flag : Int}
    (hHolds : Holds limit n ret flag)
    (hLimit : limit < 2 ^ 32)
    (hDigit : digit < base) :
    if flag < 0 ∨ ret > limit / base ∨
        (ret = limit / base ∧ digit > limit % base) then
      Holds limit (n * base + digit) ret (-1)
    else
      Holds limit (n * base + digit)
        (u32 (u32 (ret * base) + digit)) 1 := by
  rcases hHolds with ⟨hLe, rfl, hFlag⟩ | ⟨hOver, rfl⟩
  · have hPast := @limit_lt_iff base limit ret digit hDigit
    split
    · next hTest =>
        have hOver := hPast.mpr
          (hTest.resolve_left (by omega))
        exact Or.inr ⟨hOver, rfl⟩
    · next hTest =>
        have hFits : ret * base + digit ≤ limit := by
          by_contra hOver
          exact hTest (Or.inr (hPast.mp (by omega)))
        have hMul : u32 (ret * base) = ret * base := by
          rw [← Nat.cast_mul]
          exact wrap_natCast_of_lt (by omega)
        have hSum :
            u32 (u32 (ret * base) + digit) =
              ret * base + digit := by
          rw [hMul, ← Nat.cast_add]
          exact wrap_natCast_of_lt (by omega)
        exact Or.inl ⟨hFits, hSum, by decide⟩
  · rw [if_pos (Or.inl (by decide))]
    have hGrow : n ≤ n * base :=
      Nat.le_mul_of_pos_right n (by omega)
    exact Or.inr ⟨by omega, rfl⟩

/- A character that is no digit of the base ends the loop. -/
theorem strtolLoop_of_stop
    {base overflow limitRemainder ret : Nat}
    {flag : Int}
    {ch : UInt8}
    {text : List UInt8}
    (hStop : isDigit base ch = false) :
    strtolLoop base overflow limitRemainder (ch :: text)
        ret flag =
      (ret, flag, ch :: text) := by
  rw [strtolLoop, digitValue?_eq]
  cases hCh : digit? ch with
  | none => rfl
  | some digit =>
      have hPast : base ≤ digit := by
        simpa [isDigit, hCh] using hStop
      exact if_pos hPast

/- A digit is taken into the value, and the flag is set. -/
theorem strtolLoop_of_digit
    {base limit ret : Nat}
    {flag : Int}
    {ch : UInt8}
    {digits : List UInt8}
    (hLimit : limit < 2 ^ 32)
    (hHolds : Holds limit (value base digits) ret flag)
    (hDigit : isDigit base ch = true)
    (text : List UInt8) :
    ∃ ret' flag',
      strtolLoop base (limit / base) (limit % base)
          (ch :: text) ret flag =
        strtolLoop base (limit / base) (limit % base) text
          ret' flag' ∧
      Holds limit (value base (digits ++ [ch])) ret' flag' ∧
      flag' ≠ 0 := by
  cases hCh : digit? ch with
  | none => simp [isDigit, hCh] at hDigit
  | some digit =>
      have hLess : digit < base := by
        simpa [isDigit, hCh] using hDigit
      have hStep := hHolds.digit hLimit hLess
      rw [← value_append base digits hCh] at hStep
      rw [strtolLoop, digitValue?_eq, hCh]
      simp only [if_neg (Nat.not_le_of_lt hLess)]
      split
      · next hTest =>
          rw [if_pos hTest] at hStep
          exact ⟨ret, -1, rfl, hStep, by decide⟩
      · next hTest =>
          rw [if_neg hTest] at hStep
          exact ⟨_, 1, rfl, hStep, by decide⟩

/-
  The loop takes the digits and stops at the first other
  character; its flag stays 0 when there is none.
-/
theorem strtolLoop_spec
    {base limit : Nat}
    (hLimit : limit < 2 ^ 32)
    (text : List UInt8)
    {digits : List UInt8}
    {ret : Nat}
    {flag : Int}
    (hHolds : Holds limit (value base digits) ret flag) :
    ∃ ret' flag',
      strtolLoop base (limit / base) (limit % base) text
          ret flag =
        (ret', flag', text.dropWhile (isDigit base)) ∧
      Holds limit
        (value base
          (digits ++ text.takeWhile (isDigit base)))
        ret' flag' ∧
      (flag' = 0 ↔
        flag = 0 ∧ text.takeWhile (isDigit base) = []) := by
  induction text generalizing digits ret flag with
  | nil => exact ⟨ret, flag, rfl, by simpa, by simp⟩
  | cons ch text ih =>
      cases hCh : isDigit base ch with
      | false =>
          refine ⟨ret, flag, ?_, ?_, ?_⟩
          · rw [strtolLoop_of_stop hCh]
            simp [hCh]
          · simpa [hCh] using hHolds
          · simp [hCh]
      | true =>
          rcases strtolLoop_of_digit hLimit hHolds hCh text
            with ⟨ret', flag', hStep, hLater, hFlag⟩
          rcases ih hLater with
            ⟨ret'', flag'', hLoop, hEnd, hZero⟩
          refine ⟨ret'', flag'', ?_, ?_, ?_⟩
          · rw [hStep, hLoop]
            simp [hCh]
          · simpa [hCh] using hEnd
          · simpa [hCh, hFlag] using hZero

end Stdlib

------------------------------------------------------------
-- The Value Returned
------------------------------------------------------------

namespace Stdlib

/- The `Overflow` of `strtol`, before it is divided. -/
def limit (isNegative : Bool) : Nat :=
  if isNegative then u32 (-(u32 longMin : Int))
  else u32 longMax

/- The nearest value between `LONG_MIN` and `LONG_MAX`. -/
def converted
    (isNegative : Bool)
    (n : Nat) : Int :=
  if isNegative then max (-n) longMin else min n longMax

theorem limit_eq
    (isNegative : Bool) :
    limit isNegative =
      if isNegative then 0x7ffffffe else 0x7fffffff := by
  cases isNegative with
  | true => decide
  | false => decide

/- What `strtol` makes of the state of its loop. -/
theorem converted_of_holds
    {isNegative : Bool}
    {n ret : Nat}
    {flag : Int}
    (hHolds : Holds (limit isNegative) n ret flag) :
    i32 (if flag < 0 then
        if isNegative then u32 longMin else u32 longMax
      else if isNegative then
        u32 (-(ret : Int))
      else
        ret : Nat) =
      converted isNegative n := by
  rw [limit_eq] at hHolds
  unfold converted longMin longMax
  rcases hHolds with ⟨hLe, rfl, hFlag⟩ | ⟨hOver, rfl⟩
  · rw [if_neg (by omega)]
    cases isNegative with
    | true =>
        simp only [if_true] at hLe ⊢
        rw [i32_u32, i32_of_bounds (by omega) (by omega)]
        omega
    | false =>
        simp only [Bool.false_eq_true, if_false] at hLe ⊢
        rw [i32_of_bounds (by omega) (by omega)]
        omega
  · rw [if_pos (by decide)]
    cases isNegative with
    | true =>
        simp only [if_true] at hOver ⊢
        rw [i32_u32, i32_of_bounds (by decide) (by decide)]
        omega
    | false =>
        simp only [Bool.false_eq_true, if_false] at hOver ⊢
        rw [i32_u32, i32_of_bounds (by decide) (by decide)]
        omega

/- The end of `strtol`, from its digit loop on. -/
def convert
    (isNegative : Bool)
    (base : Nat)
    (p nptr : List UInt8) :
    Int × List UInt8 :=
  let (ret, flag, p) :=
    strtolLoop base (limit isNegative / base)
      (limit isNegative % base) p 0 0
  let ret :=
    if flag < 0 then
      if isNegative then u32 longMin else u32 longMax
    else if isNegative then
      u32 (-(ret : Int))
    else
      ret
  (i32 ret, if flag ≠ 0 then p else nptr)

theorem convert_eq
    (isNegative : Bool)
    (base : Nat)
    (p nptr : List UInt8) :
    convert isNegative base p nptr =
      if p.takeWhile (isDigit base) = [] then
        (0, nptr)
      else
        (converted isNegative
            (value base (p.takeWhile (isDigit base))),
          p.dropWhile (isDigit base)) := by
  have hLimit : limit isNegative < 2 ^ 32 := by
    rw [limit_eq]
    split <;> omega
  have hStart :
      Holds (limit isNegative) (value base []) 0 0 :=
    Or.inl ⟨Nat.zero_le _, rfl, le_refl 0⟩
  rcases strtolLoop_spec hLimit p hStart with
    ⟨ret, flag, hLoop, hHolds, hFlag⟩
  have hValue := converted_of_holds hHolds
  rw [List.nil_append] at hValue
  unfold convert
  rw [hLoop]
  simp only
  rw [hValue]
  by_cases hNone : p.takeWhile (isDigit base) = []
  · have hZero : flag = 0 := hFlag.mpr ⟨rfl, hNone⟩
    rw [if_pos hNone, hNone, hZero]
    cases isNegative with
    | true => rfl
    | false => rfl
  · have hNonzero : flag ≠ 0 := by
      intro hZero
      exact hNone (hFlag.mp hZero).2
    rw [if_neg hNone, if_pos hNonzero]

end Stdlib

------------------------------------------------------------
-- Signs and Prefixes
------------------------------------------------------------

namespace Stdlib

variable {base : Nat}
variable {text : List UInt8}

theorem negative_iff
    (text : List UInt8) :
    negative text = true ↔
      CString.peek text = byte '-' := by
  cases text with
  | nil => decide
  | cons ch text => simp [negative, CString.peek]

/- The sign is skipped where there is one. -/
theorem unsigned_eq
    (text : List UInt8) :
    unsigned text =
      if CString.peek text = byte '-' ∨
          CString.peek text = byte '+' then
        text.tail
      else
        text := by
  cases text with
  | nil => rfl
  | cons ch text => rfl

theorem hexStart_iff :
    HexStart base text ↔
      (base = 0 ∨ base = 16) ∧
        CString.peek text = byte '0' ∧
        (CString.peek text.tail = byte 'x' ∨
          CString.peek text.tail = byte 'X') := by
  apply and_congr_right'
  constructor
  · rintro ⟨x, rest, rfl, hPrefix⟩
    exact ⟨rfl, hPrefix⟩
  · rintro ⟨hZero, hPrefix⟩
    rcases text with _ | ⟨ch, _ | ⟨x, rest⟩⟩
    · exact absurd hZero (by decide)
    · have hNone :
          ¬ ((0 : UInt8) = byte 'x' ∨ 0 = byte 'X') := by
        decide
      exact absurd hPrefix hNone
    · exact ⟨x, rest, by rw [← hZero]; rfl, hPrefix⟩

theorem radix_eq :
    radix base text =
      if base = 0 then
        if CString.peek text = byte '0' then 8 else 10
      else
        base := by
  cases text with
  | nil => rfl
  | cons ch text => simp [radix, CString.peek]

/- `strtol` converts what follows the sign and the prefix. -/
theorem strtol_eq_of_hexStart
    {nptr : List UInt8}
    (hStart : HexStart base
      (unsigned (nptr.dropWhile isspace))) :
    strtol nptr base =
      convert (negative (nptr.dropWhile isspace)) 16
        ((unsigned (nptr.dropWhile isspace)).drop 2)
        nptr := by
  have hHex := hexStart_iff.mp hStart
  rw [unsigned_eq] at hHex
  unfold strtol convert limit
  simp only [hHex, unsigned_eq, negative_iff]
  rfl

theorem strtol_eq_of_not_hexStart
    {nptr : List UInt8}
    (hNot : ¬ HexStart base
      (unsigned (nptr.dropWhile isspace))) :
    strtol nptr base =
      convert (negative (nptr.dropWhile isspace))
        (radix base (unsigned (nptr.dropWhile isspace)))
        (unsigned (nptr.dropWhile isspace))
        nptr := by
  have hHex := hexStart_iff.not.mp hNot
  rw [unsigned_eq] at hHex
  unfold strtol convert limit
  simp only [hHex, unsigned_eq, negative_iff, radix_eq]
  rfl

end Stdlib

------------------------------------------------------------
-- The C Standard
------------------------------------------------------------

namespace Stdlib

/- The nearest value of a 32-bit `long`. -/
def clamp (v : Int) : Int :=
  max (-2 ^ 31) (min v (2 ^ 31 - 1))

/-
  The result that the C standard asks for: the value of the
  longest numeral behind the white space, brought into range,
  and what follows the numeral; or 0 and the whole string.
-/
def Conforms
    (nptr : List UInt8)
    (base : Nat)
    (result : Int × List UInt8) : Prop :=
  (∃ v rest,
      ReadsLongest (Signed (Magnitude base))
        (nptr.dropWhile isspace) v rest ∧
      result = (clamp v, rest)) ∨
    ((∀ v rest,
        ¬ Reads (Signed (Magnitude base))
          (nptr.dropWhile isspace) v rest) ∧
      result = (0, nptr))

/- The numeral is one of those below `LONG_MIN`. -/
def BelowMinimum
    (nptr : List UInt8)
    (base : Nat) : Prop :=
  ∃ v rest,
    ReadsLongest (Signed (Magnitude base))
      (nptr.dropWhile isspace) v rest ∧
    v ≤ -2147483647

/- A base prefix stands there without a digit behind it. -/
def BareHexPrefix
    (nptr : List UInt8)
    (base : Nat) : Prop :=
  HexStart base (unsigned (nptr.dropWhile isspace)) ∧
    ((unsigned (nptr.dropWhile isspace)).drop 2).takeWhile
      (isDigit 16) = []

variable {nptr : List UInt8}
variable {base : Nat}

/- Between both limits nothing is changed twice. -/
theorem converted_eq_clamp_iff
    (isNegative : Bool)
    (n : Nat) :
    converted isNegative n = clamp (signed isNegative n) ↔
      ¬ signed isNegative n ≤ -2147483647 := by
  unfold converted clamp signed longMin longMax
  cases isNegative with
  | true =>
      simp only [if_true]
      omega
  | false =>
      simp only [Bool.false_eq_true, if_false]
      omega

/- Where digits are read, only the limit may be wrong. -/
theorem conforms_iff_of_longest
    {n : Nat}
    {rest : List UInt8}
    (hLongest : ∀ n' rest',
      ReadsLongest (Magnitude base)
          (unsigned (nptr.dropWhile isspace)) n' rest' ↔
        n' = n ∧ rest' = rest)
    (hStrtol : strtol nptr base =
      (converted (negative (nptr.dropWhile isspace)) n,
        rest)) :
    Conforms nptr base (strtol nptr base) ↔
      ¬ BelowMinimum nptr base := by
  have hRead := readsLongest_signed_iff.mpr
    ⟨n, (hLongest n rest).mpr ⟨rfl, rfl⟩, rfl⟩
  have hOnly (v : Int) (rest' : List UInt8)
      (hOther : ReadsLongest (Signed (Magnitude base))
        (nptr.dropWhile isspace) v rest') :
      v = signed (negative (nptr.dropWhile isspace)) n ∧
        rest' = rest := by
    rcases readsLongest_signed_iff.mp hOther with
      ⟨n', hMagnitude, rfl⟩
    rcases (hLongest n' rest').mp hMagnitude with ⟨rfl, rfl⟩
    exact ⟨rfl, rfl⟩
  have hBelow : BelowMinimum nptr base ↔
      signed (negative (nptr.dropWhile isspace)) n ≤
        -2147483647 := by
    constructor
    · rintro ⟨v, rest', hOther, hLess⟩
      rw [← (hOnly v rest' hOther).1]
      exact hLess
    · exact fun hLess => ⟨_, rest, hRead, hLess⟩
  rw [hBelow, ← converted_eq_clamp_iff, hStrtol]
  constructor
  · rintro (⟨v, rest', hOther, hResult⟩ | ⟨hNone, _⟩)
    · rw [(hOnly v rest' hOther).1, Prod.mk.injEq] at hResult
      exact hResult.1
    · exact absurd hRead.1 (hNone _ _)
  · intro hValue
    exact Or.inl ⟨_, rest, hRead, by rw [hValue]⟩

/- A bare prefix is the numeral "0", which is not returned. -/
theorem not_conforms_of_bareHexPrefix
    (hBare : BareHexPrefix nptr base) :
    ¬ Conforms nptr base (strtol nptr base) := by
  rcases hBare with ⟨hStart, hRun⟩
  have hStrtol : strtol nptr base = (0, nptr) := by
    rw [strtol_eq_of_hexStart hStart, convert_eq, if_pos hRun]
  have hLength :
      (unsigned (nptr.dropWhile isspace)).length ≤
        nptr.length :=
    (length_unsigned_le _).trans
      (List.dropWhile_suffix _).length_le
  rcases hStart with ⟨hBase, x, rest, hText, hPrefix⟩
  rw [hText, List.length_cons, List.length_cons] at hLength
  rw [hText] at hRun
  have hLongest (n : Nat) (rest' : List UInt8) :
      ReadsLongest (Magnitude base)
          (unsigned (nptr.dropWhile isspace)) n rest' ↔
        n = 0 ∧ rest' = x :: rest := by
    rw [hText]
    exact readsLongest_magnitude_barePrefix_iff hBase hPrefix
      hRun
  rw [hStrtol]
  rintro (⟨v, rest', hOther, hResult⟩ | ⟨hNone, _⟩)
  · rcases readsLongest_signed_iff.mp hOther with
      ⟨n, hMagnitude, _⟩
    have hRest := (Prod.mk.inj hResult).2
    rw [((hLongest n rest').mp hMagnitude).2] at hRest
    have hSame := congrArg List.length hRest
    rw [List.length_cons] at hSame
    omega
  · have hRead := readsLongest_signed_iff.mpr
      ⟨0, (hLongest 0 _).mpr ⟨rfl, rfl⟩, rfl⟩
    exact hNone _ _ hRead.1

example : strtol (ascii "0x,") 16 = (0, ascii "0x,") := by
  decide

/- Where no digit is read there is no numeral. -/
theorem conforms_of_no_digits
    (hNot : ¬ HexStart base
      (unsigned (nptr.dropWhile isspace)))
    (hRun : (unsigned (nptr.dropWhile isspace)).takeWhile
      (isDigit (radix base
        (unsigned (nptr.dropWhile isspace)))) = []) :
    Conforms nptr base (strtol nptr base) ∧
      ¬ BelowMinimum nptr base := by
  have hNone (v : Int) (rest : List UInt8) :
      ¬ Reads (Signed (Magnitude base))
        (nptr.dropWhile isspace) v rest := by
    intro hReads
    rcases reads_signed_magnitude_iff.mp hReads with
      ⟨n, hMagnitude, _⟩
    rw [reads_magnitude_iff hNot] at hMagnitude
    exact not_reads_run hRun hMagnitude
  constructor
  · apply Or.inr
    refine ⟨hNone, ?_⟩
    rw [strtol_eq_of_not_hexStart hNot, convert_eq,
      if_pos hRun]
  · rintro ⟨v, rest, hLongest, _⟩
    exact hNone v rest hLongest.1

/-
  `strtol` is the conversion of the C standard exactly for
  the strings without a bare base prefix whose numeral does
  not fall below its `LONG_MIN`.
-/
theorem strtol_conforms_iff
    (nptr : List UInt8)
    (base : Nat) :
    Conforms nptr base (strtol nptr base) ↔
      ¬ BelowMinimum nptr base ∧
        ¬ BareHexPrefix nptr base := by
  by_cases hStart : HexStart base
      (unsigned (nptr.dropWhile isspace))
  · by_cases hRun :
        ((unsigned (nptr.dropWhile isspace)).drop 2).takeWhile
          (isDigit 16) = []
    · have hBare : BareHexPrefix nptr base := ⟨hStart, hRun⟩
      have hNot := not_conforms_of_bareHexPrefix hBare
      simp [hNot, hBare]
    · have hNotBare : ¬ BareHexPrefix nptr base :=
        fun hBare => hRun hBare.2
      have hStrtol := strtol_eq_of_hexStart hStart
      rw [convert_eq, if_neg hRun] at hStrtol
      rcases hStart with ⟨hBase, x, rest, hText, hPrefix⟩
      rw [and_iff_left hNotBare]
      apply conforms_iff_of_longest _ hStrtol
      intro n' rest'
      rw [hText] at hRun ⊢
      exact readsLongest_magnitude_hexStart_iff hBase hPrefix
        hRun
  · have hNotBare : ¬ BareHexPrefix nptr base :=
      fun hBare => hStart hBare.1
    rw [and_iff_left hNotBare]
    by_cases hRun :
        (unsigned (nptr.dropWhile isspace)).takeWhile
          (isDigit (radix base
            (unsigned (nptr.dropWhile isspace)))) = []
    · have hBoth := conforms_of_no_digits hStart hRun
      exact iff_of_true hBoth.1 hBoth.2
    · have hStrtol := strtol_eq_of_not_hexStart hStart
      rw [convert_eq, if_neg hRun] at hStrtol
      apply conforms_iff_of_longest _ hStrtol
      intro n' rest'
      exact readsLongest_magnitude_iff hStart hRun

/- The least `long` is not returned for its own numeral. -/
theorem strtol_least_long :
    ¬ ∀ (nptr : List UInt8) (base : Nat),
      0 ∉ nptr → base = 0 ∨ 2 ≤ base ∧ base ≤ 36 →
        Conforms nptr base (strtol nptr base) := by
  intro hAll
  have hConforms := hAll (ascii "-2147483648") 10
    (by decide) (by decide)
  have hLongest (n : Nat) (rest : List UInt8) :
      ReadsLongest (Magnitude 10)
          (unsigned ((ascii "-2147483648").dropWhile
            isspace)) n rest ↔
        n = 2147483648 ∧ rest = [] := by
    have hNot : ¬ HexStart 10
        (unsigned ((ascii "-2147483648").dropWhile
          isspace)) := by
      rintro ⟨hBase, _⟩
      omega
    exact readsLongest_magnitude_iff hNot (by decide)
  have hStrtol : strtol (ascii "-2147483648") 10 =
      (-2147483646, []) := by
    decide
  have hBelow : BelowMinimum (ascii "-2147483648") 10 :=
    ⟨-2147483648, [], readsLongest_signed_iff.mpr
      ⟨2147483648, (hLongest _ _).mpr ⟨rfl, rfl⟩, rfl⟩,
      by decide⟩
  exact (conforms_iff_of_longest hLongest hStrtol).mp
    hConforms hBelow

end Stdlib
