import GpsTracker.Minmea.Fields

/-
  The fields that a receiver writes.

  A number has a fixed number of digits, with or without a
  decimal point; a time and a date have two digits for each
  part. A field may also be left blank. The conversions of
  `minmea_scan` read the number, the time or the date back.

  Main declarations:
    * `Minmea.Fixed`, `Minmea.Number`
    * `Minmea.Clock`, `Minmea.Day`
    * `Minmea.scanFloat_text` and the other conversions
-/

open CString Decimal Machine Stdlib

------------------------------------------------------------
-- Written Values
------------------------------------------------------------

namespace Minmea

/-
  A number with a decimal point: `digits` are all its digits
  as one number, `decimals` of them behind the point, which
  is left out where there are none. The code keeps the
  digits in an `int_least32_t`.
-/
structure Fixed where
  isNegative : Bool
  width : Nat
  decimals : Nat
  digits : Nat
  hWidth : 0 < width
  hDecimals : decimals ≤ 9
  hDigits : digits < 10 ^ (width + decimals)
  hMax : digits ≤ 2147483647

/- An integer; `strtol` clips the lowest two. -/
structure Number where
  isNegative : Bool
  width : Nat
  digits : Nat
  hWidth : 0 < width
  hDigits : digits < 10 ^ width
  hMax : digits ≤ 2147483646

/- A time with up to six decimals of its seconds. -/
structure Clock where
  hours : Fin 100
  minutes : Fin 100
  seconds : Fin 100
  decimals : Nat
  fraction : Nat
  hDecimals : decimals ≤ 6
  hFraction : fraction < 10 ^ decimals

structure Day where
  day : Fin 100
  month : Fin 100
  year : Fin 100

/- A character of a field. -/
abbrev Letter := { c : UInt8 // isfield c = true }

/- A field that is left blank has no text. -/
def blankOr
    {α : Type}
    (text : α → List UInt8)
    (x : Option α) : List UInt8 :=
  (x.map text).getD []

def minus (isNegative : Bool) : List UInt8 :=
  if isNegative then [byte '-'] else []

/- The decimals and the point in front of them. -/
def point
    (decimals n : Nat) : List UInt8 :=
  if decimals = 0 then [] else byte '.' :: padded decimals n

def Fixed.text (x : Fixed) : List UInt8 :=
  minus x.isNegative ++
    padded x.width (x.digits / 10 ^ x.decimals) ++
    point x.decimals x.digits

def Fixed.value (x : Fixed) : MinmeaFloat :=
  ⟨Numeral.signed x.isNegative x.digits, 10 ^ x.decimals⟩

def Number.text (x : Number) : List UInt8 :=
  minus x.isNegative ++ padded x.width x.digits

def Number.value (x : Number) : Int :=
  Numeral.signed x.isNegative x.digits

def Clock.text (x : Clock) : List UInt8 :=
  padded 2 x.hours ++ padded 2 x.minutes ++
    padded 2 x.seconds ++ point x.decimals x.fraction

def Clock.value (x : Clock) : MinmeaTime :=
  ⟨x.hours, x.minutes, x.seconds,
    x.fraction * 10 ^ (6 - x.decimals)⟩

def Day.text (x : Day) : List UInt8 :=
  padded 2 x.day ++ padded 2 x.month ++ padded 2 x.year

def Day.value (x : Day) : MinmeaDate :=
  ⟨x.day, x.month, x.year⟩

/- A hemisphere: the first or the second of two letters. -/
def sideText
    (first second : Char)
    (isSecond : Bool) : List UInt8 :=
  [byte (if isSecond then second else first)]

def sideValue (isSecond : Bool) : Int :=
  if isSecond then -1 else 1

def letterText (x : Letter) : List UInt8 :=
  [x.val]

/- A text without a separator. -/
def IsText (text : List UInt8) : Prop :=
  ∀ c ∈ text, isfield c = true

end Minmea

------------------------------------------------------------
-- Field Characters
------------------------------------------------------------

namespace Minmea

theorem isfield_of_isDigit
    {c : UInt8}
    (hDigit : Numeral.isDigit 10 c = true) :
    isfield c = true := by
  rw [← isdigit_eq] at hDigit
  exact isfield_of_isdigit hDigit

theorem isfield_padded
    {width n : Nat}
    {c : UInt8}
    (hMem : c ∈ padded width n) :
    isfield c = true :=
  isfield_of_isDigit (isDigit_of_mem_padded hMem)

theorem isfield_minus
    {isNegative : Bool}
    {c : UInt8}
    (hMem : c ∈ minus isNegative) :
    isfield c = true := by
  unfold minus at hMem
  split at hMem
  · rw [List.mem_singleton] at hMem
    rw [hMem]
    decide
  · cases hMem

theorem isfield_point
    {decimals n : Nat}
    {c : UInt8}
    (hMem : c ∈ point decimals n) :
    isfield c = true := by
  unfold point at hMem
  split at hMem
  · cases hMem
  · rw [List.mem_cons] at hMem
    rcases hMem with rfl | hMem
    · decide
    · exact isfield_padded hMem

theorem Fixed.isText
    (x : Fixed) :
    IsText x.text := by
  intro c hc
  unfold Fixed.text at hc
  rw [List.mem_append, List.mem_append] at hc
  rcases hc with (hc | hc) | hc
  · exact isfield_minus hc
  · exact isfield_padded hc
  · exact isfield_point hc

theorem Number.isText
    (x : Number) :
    IsText x.text := by
  intro c hc
  unfold Number.text at hc
  rw [List.mem_append] at hc
  rcases hc with hc | hc
  · exact isfield_minus hc
  · exact isfield_padded hc

theorem Clock.isText
    (x : Clock) :
    IsText x.text := by
  intro c hc
  unfold Clock.text at hc
  rw [List.mem_append, List.mem_append, List.mem_append] at hc
  rcases hc with ((hc | hc) | hc) | hc
  · exact isfield_padded hc
  · exact isfield_padded hc
  · exact isfield_padded hc
  · exact isfield_point hc

theorem Day.isText
    (x : Day) :
    IsText x.text := by
  intro c hc
  unfold Day.text at hc
  rw [List.mem_append, List.mem_append] at hc
  rcases hc with (hc | hc) | hc
  · exact isfield_padded hc
  · exact isfield_padded hc
  · exact isfield_padded hc

theorem isText_blankOr
    {α : Type}
    {text : α → List UInt8}
    (hText : ∀ x, IsText (text x))
    (x : Option α) :
    IsText (blankOr text x) := by
  cases x with
  | none => exact fun _ hMem => absurd hMem List.not_mem_nil
  | some x => exact hText x

@[simp]
theorem isText_fixed (x : Option Fixed) :
    IsText (blankOr Fixed.text x) :=
  isText_blankOr Fixed.isText x

@[simp]
theorem isText_number (x : Option Number) :
    IsText (blankOr Number.text x) :=
  isText_blankOr Number.isText x

@[simp]
theorem isText_clock (x : Option Clock) :
    IsText (blankOr Clock.text x) :=
  isText_blankOr Clock.isText x

@[simp]
theorem isText_day (x : Option Day) :
    IsText (blankOr Day.text x) :=
  isText_blankOr Day.isText x

@[simp]
theorem isText_letter (x : Letter) :
    IsText (letterText x) := by
  intro c hc
  rw [letterText, List.mem_singleton] at hc
  rw [hc]
  exact x.property

@[simp]
theorem isText_blankLetter (x : Option Letter) :
    IsText (blankOr letterText x) :=
  isText_blankOr isText_letter x

theorem isText_side
    {first second : Char}
    (hFirst : isfield (byte first) = true)
    (hSecond : isfield (byte second) = true)
    (x : Option Bool) :
    IsText (blankOr (sideText first second) x) := by
  apply isText_blankOr
  intro isSecond c hc
  rw [sideText, List.mem_singleton] at hc
  rw [hc]
  cases isSecond with
  | true => exact hSecond
  | false => exact hFirst

@[simp]
theorem isText_northSouth (x : Option Bool) :
    IsText (blankOr (sideText 'N' 'S') x) :=
  isText_side (by decide) (by decide) x

@[simp]
theorem isText_eastWest (x : Option Bool) :
    IsText (blankOr (sideText 'E' 'W') x) :=
  isText_side (by decide) (by decide) x

end Minmea

------------------------------------------------------------
-- Decimal Fractions
------------------------------------------------------------

namespace Minmea

/- A digit that fits is appended to the value. -/
theorem floatLoop_digit
    {c : UInt8}
    {d : Nat}
    (hDigit : Numeral.digit? c = some d)
    (hLess : d < 10)
    (rest : List UInt8)
    {sign v scale : Int}
    (hStart : -1 ≤ v)
    (hFits : max v 0 * 10 + d ≤ 2147483647) :
    floatLoop (c :: rest) sign v scale =
      floatLoop rest sign (max v 0 * 10 + d)
        (if scale ≠ 0 then i32 (scale * 10) else scale) := by
  have hIs : Numeral.isDigit 10 c = true :=
    (Numeral.isDigit_iff 10 c).mpr ⟨d, hDigit, hLess⟩
  have hBounds := (isDigit_decimal_iff c).mp hIs
  have hSub := digit?_eq_sub hIs
  rw [hDigit, Option.some.injEq] at hSub
  have hDistance : (c.toNat : Int) - (byte '0').toNat = d := by
    rw [hSub, show (byte '0').toNat = 48 from rfl]
    omega
  have hNot {k : UInt8} (hk : k.toNat < 48) : c ≠ k := by
    rintro rfl
    omega
  have hPlus : c ≠ byte '+' := hNot (by decide)
  have hMinus : c ≠ byte '-' := hNot (by decide)
  have hValue : (if v = -1 then 0 else v) = max v 0 := by
    split
    · omega
    · omega
  rw [floatLoop, isfield_of_isDigit hIs, isdigit_eq, hIs]
  simp only [Bool.not_true, Bool.false_eq_true, if_false,
    hPlus, hMinus, false_and, if_true]
  rw [hDistance, hValue, if_neg (by omega), Int.mul_comm 10]

/- The digits of a number are read as the number. -/
theorem floatLoop_digits
    {digits : List UInt8}
    (hDigits : ∀ c ∈ digits, Numeral.isDigit 10 c = true)
    (rest : List UInt8)
    {sign v scale : Int}
    (hStart : 0 ≤ v)
    (hFits : v * 10 ^ digits.length +
      Numeral.value 10 digits ≤ 2147483647)
    (hScale : 0 ≤ scale)
    (hSmall : scale * 10 ^ digits.length < 2 ^ 31) :
    floatLoop (digits ++ rest) sign v scale =
      floatLoop rest sign
        (v * 10 ^ digits.length + Numeral.value 10 digits)
        (scale * 10 ^ digits.length) := by
  induction digits generalizing v scale with
  | nil =>
      rw [List.nil_append, List.length_nil, pow_zero,
        Int.mul_one, Int.mul_one, value_nil]
      simp
  | cons c digits ih =>
      rw [List.forall_mem_cons] at hDigits
      rcases (Numeral.isDigit_iff 10 c).mp hDigits.1 with
        ⟨d, hd, hLess⟩
      have hValue : (Numeral.value 10 (c :: digits) : Int) =
          d * 10 ^ digits.length +
            Numeral.value 10 digits := by
        exact_mod_cast Decimal.value_cons hd hDigits.2
      have hPow : (1 : Int) ≤ 10 ^ digits.length :=
        one_le_pow₀ (by norm_num)
      have hRest : (0 : Int) ≤ Numeral.value 10 digits :=
        Int.natCast_nonneg _
      rw [List.length_cons, pow_succ] at hFits hSmall
      rw [hValue] at hFits
      have hFirst : max v 0 * 10 + d ≤ 2147483647 := by
        rw [max_eq_left hStart]
        nlinarith
      have hNext : (v * 10 + d) * 10 ^ digits.length +
          Numeral.value 10 digits ≤ 2147483647 := by
        linarith [hFits]
      have hTen : scale * 10 < 2 ^ 31 := by
        nlinarith
      have hWrap : (if scale ≠ 0 then i32 (scale * 10)
          else scale) = scale * 10 := by
        split
        · exact i32_of_bounds (by omega) hTen
        · omega
      rw [List.cons_append, floatLoop_digit hd hLess _
        (by omega) hFirst, max_eq_left hStart, hWrap,
        ih hDigits.2 (by omega) hNext (by omega)
          (by linarith [hSmall])]
      rw [hValue, List.length_cons, pow_succ]
      congr 1
      · ring
      · ring

/- The digits in front of the point. -/
theorem floatLoop_whole
    {digits : List UInt8}
    (hDigits : ∀ c ∈ digits, Numeral.isDigit 10 c = true)
    (hSome : digits ≠ [])
    (rest : List UInt8)
    {sign : Int}
    (hFits : Numeral.value 10 digits ≤ 2147483647) :
    floatLoop (digits ++ rest) sign (-1) 0 =
      floatLoop rest sign (Numeral.value 10 digits) 0 := by
  match digits, hSome with
  | c :: digits, _ =>
      -- The mark for "no digit yet" counts as zero.
      have hZero : floatLoop (c :: digits ++ rest) sign (-1) 0 =
          floatLoop (c :: digits ++ rest) sign 0 0 := by
        have hIs := hDigits c List.mem_cons_self
        rcases (Numeral.isDigit_iff 10 c).mp hIs with
          ⟨d, hd, hLess⟩
        rw [List.cons_append,
          floatLoop_digit hd hLess _ (by omega) (by omega),
          floatLoop_digit hd hLess _ (by omega) (by omega)]
        rfl
      rw [hZero, floatLoop_digits hDigits rest (by omega)
        (by omega) (by omega) (by omega)]
      congr 1
      · omega
      · omega

theorem floatLoop_point
    (rest : List UInt8)
    (sign v : Int) :
    floatLoop (byte '.' :: rest) sign v 0 =
      floatLoop rest sign v 1 := by
  rw [floatLoop]
  simp [byte, isfield, isdigit, Stdlib.isprint]

theorem floatLoop_minus
    (rest : List UInt8) :
    floatLoop (byte '-' :: rest) 0 (-1) 0 =
      floatLoop rest (-1) (-1) 0 := by
  rw [floatLoop]
  simp [byte, isfield, Stdlib.isprint]

theorem scanFloat_text
    (x : Fixed) :
    scanFloat (some x.text) = some x.value := by
  have hWhole : Numeral.value 10
        (padded x.width (x.digits / 10 ^ x.decimals)) =
      x.digits / 10 ^ x.decimals := by
    apply value_padded_of_lt
    apply Nat.div_lt_of_lt_mul
    rw [← pow_add, Nat.add_comm]
    exact x.hDigits
  have hSome : padded x.width (x.digits / 10 ^ x.decimals) ≠
      [] := by
    apply List.ne_nil_of_length_pos
    rw [length_padded]
    exact x.hWidth
  have hLe : x.digits / 10 ^ x.decimals ≤ x.digits :=
    Nat.div_le_self _ _
  have hMax := x.hMax
  have hPoint (sign : Int) :
      floatLoop (point x.decimals x.digits) sign
          ((x.digits / 10 ^ x.decimals : Nat) : Int) 0 =
        some (sign, (x.digits : Int),
          if x.decimals = 0 then 0 else 10 ^ x.decimals) := by
    have hSplit : ((x.digits / 10 ^ x.decimals : Nat) : Int) *
        10 ^ x.decimals + (x.digits % 10 ^ x.decimals : Nat) =
          x.digits := by
      have hNat := Nat.div_add_mod' x.digits (10 ^ x.decimals)
      exact_mod_cast hNat
    have hScale : (1 : Int) * 10 ^ x.decimals < 2 ^ 31 := by
      have hPow : (10 : Int) ^ x.decimals ≤ 10 ^ 9 :=
        pow_le_pow_right₀ (by norm_num) x.hDecimals
      omega
    unfold point
    split
    · next hNone =>
        rw [hNone, pow_zero, Nat.div_one]
        rfl
    · have hRead := @floatLoop_digits
        (padded x.decimals x.digits)
        (fun _ hMem => isDigit_of_mem_padded hMem) [] sign
        ((x.digits / 10 ^ x.decimals : Nat) : Int) 1
        (Int.natCast_nonneg _)
      rw [length_padded, value_padded, hSplit,
        List.append_nil] at hRead
      rw [floatLoop_point, hRead (by omega) (by omega) hScale,
        Int.one_mul]
      rfl
  have hRead (sign : Int) :
      floatLoop (padded x.width (x.digits / 10 ^ x.decimals) ++
          point x.decimals x.digits) sign (-1) 0 =
        some (sign, (x.digits : Int),
          if x.decimals = 0 then 0 else 10 ^ x.decimals) := by
    rw [floatLoop_whole
      (fun _ hMem => isDigit_of_mem_padded hMem) hSome _
      (by omega), hWhole, hPoint]
  have hDigits : (x.digits : Int) ≠ -1 := by omega
  have hScaled :
      (if (if x.decimals = 0 then 0
          else (10 : Int) ^ x.decimals) = 0 then 1
        else if x.decimals = 0 then 0
          else (10 : Int) ^ x.decimals) =
        10 ^ x.decimals := by
    by_cases hNone : x.decimals = 0
    · simp [hNone]
    · simp [hNone]
  unfold scanFloat Fixed.text Fixed.value
  rw [Option.getD_some, List.append_assoc]
  cases x.isNegative with
  | true =>
      rw [minus, if_pos rfl, List.singleton_append,
        floatLoop_minus, hRead]
      simp only [hDigits, and_false, if_false]
      rw [hScaled]
      simp [Numeral.signed]
  | false =>
      rw [minus, if_neg (by decide), List.nil_append, hRead]
      simp only [hDigits, and_false, if_false]
      rw [hScaled]
      simp [Numeral.signed]

end Minmea

------------------------------------------------------------
-- The Other Fields
------------------------------------------------------------

namespace Minmea

theorem Stop.nil : Stop [] := Or.inr (Or.inr (Or.inl rfl))

theorem scanInt_text
    (x : Number) :
    scanInt (some x.text) = some x.value := by
  have hValue : Numeral.value 10 (padded x.width x.digits) =
      x.digits :=
    value_padded_of_lt x.hDigits
  have hDigits : ∀ c ∈ padded x.width x.digits,
      Numeral.isDigit 10 c = true :=
    fun _ hMem => isDigit_of_mem_padded hMem
  have hSome : padded x.width x.digits ≠ [] := by
    apply List.ne_nil_of_length_pos
    rw [length_padded]
    exact x.hWidth
  have hMax := x.hMax
  have hEnd : Numeral.isDigit 10 (peek []) = false :=
    Stop.nil.not_isDigit
  unfold scanInt Number.text Number.value
  cases x.isNegative with
  | true =>
      have hRead := strtol_minus_digits hDigits hSome hEnd
        (by omega)
      rw [List.append_nil, hValue] at hRead
      rw [minus, if_pos rfl, List.singleton_append]
      simp only [hRead]
      rfl
  | false =>
      have hRead := strtol_digits hDigits hSome hEnd
        (by omega)
      rw [List.append_nil, hValue] at hRead
      rw [minus, if_neg (by decide), List.nil_append]
      simp only [hRead]
      rfl

/- Two digits anywhere in a field. -/
theorem twoDigits_padded
    (before after : List UInt8)
    (n : Fin 100) :
    twoDigits (before ++ (padded 2 n ++ after))
        before.length =
      n := by
  have hTake : ((before ++ (padded 2 n ++ after)).drop
      before.length).take 2 = padded 2 n := by
    rw [List.drop_left, List.take_append_of_le_length
      (by rw [length_padded])]
    exact List.take_of_length_le (by rw [length_padded])
  have hValue : Numeral.value 10 (padded 2 n) = n :=
    value_padded_of_lt n.isLt
  have hRead := @strtol_digits (padded 2 n) []
    (fun _ hMem => isDigit_of_mem_padded hMem)
    (List.ne_nil_of_length_pos
      (by rw [length_padded]; decide))
    Stop.nil.not_isDigit
    (by rw [hValue]; omega)
  rw [List.append_nil, hValue] at hRead
  unfold twoDigits
  rw [hTake, hRead]

/- The three parts of a time or a date. -/
theorem sixDigits_padded
    (a b c : Nat)
    (rest : List UInt8) :
    sixDigits (padded 2 a ++ padded 2 b ++ padded 2 c ++
      rest) = true := by
  have hLength : (padded 2 a ++ padded 2 b ++
      padded 2 c).length = 6 := by
    rw [List.length_append, List.length_append,
      length_padded, length_padded, length_padded]
  unfold sixDigits
  rw [decide_eq_true_iff, List.take_append_of_le_length
    (by omega), List.take_of_length_le (by omega),
    List.all_eq_true]
  refine ⟨hLength, ?_⟩
  intro d hd
  rw [List.mem_append, List.mem_append] at hd
  rw [isdigit_eq]
  rcases hd with (hd | hd) | hd
  · exact isDigit_of_mem_padded hd
  · exact isDigit_of_mem_padded hd
  · exact isDigit_of_mem_padded hd

theorem twoDigits_parts
    (a b c : Fin 100)
    (rest : List UInt8) :
    twoDigits (padded 2 a ++ padded 2 b ++ padded 2 c ++
        rest) 0 = a ∧
      twoDigits (padded 2 a ++ padded 2 b ++ padded 2 c ++
        rest) 2 = b ∧
      twoDigits (padded 2 a ++ padded 2 b ++ padded 2 c ++
        rest) 4 = c := by
  have hFirst := twoDigits_padded []
    (padded 2 b ++ padded 2 c ++ rest) a
  have hSecond := twoDigits_padded (padded 2 a)
    (padded 2 c ++ rest) b
  have hThird := twoDigits_padded (padded 2 a ++ padded 2 b)
    rest c
  simp only [List.nil_append, List.length_nil,
    List.length_append, length_padded,
    List.append_assoc] at hFirst hSecond hThird ⊢
  exact ⟨hFirst, hSecond, hThird⟩

theorem isfield_peek_padded
    (n : Nat)
    (rest : List UInt8) :
    isfield (peek (padded 2 n ++ rest)) = true := by
  have hMem : peek (padded 2 n ++ rest) ∈ padded 2 n := by
    rw [padded, padded]
    exact List.mem_cons_self
  exact isfield_padded hMem

theorem scanDate_text
    (x : Day) :
    scanDate (some x.text) = some x.value := by
  have hSix := sixDigits_padded x.day x.month x.year []
  have hParts := twoDigits_parts x.day x.month x.year []
  have hField := isfield_peek_padded x.day
    (padded 2 x.month ++ padded 2 x.year)
  rw [List.append_nil] at hSix hParts
  rw [← List.append_assoc] at hField
  unfold scanDate Day.text Day.value
  simp only
  rw [hField, hSix, hParts.1, hParts.2.1, hParts.2.2]
  rfl

theorem fractionLoop_digits
    {digits : List UInt8}
    (hDigits : ∀ c ∈ digits, Numeral.isDigit 10 c = true)
    {v : Nat}
    (hFits : v * 10 ^ digits.length +
      Numeral.value 10 digits < 2 ^ 32)
    (m : Nat) :
    fractionLoop digits v (10 ^ (m + digits.length)) =
      (v * 10 ^ digits.length + Numeral.value 10 digits,
        10 ^ m) := by
  induction digits generalizing v with
  | nil => simp [fractionLoop, value_nil]
  | cons c digits ih =>
      rw [List.forall_mem_cons] at hDigits
      rcases (Numeral.isDigit_iff 10 c).mp hDigits.1 with
        ⟨d, hd, hLess⟩
      have hValue : Numeral.value 10 (c :: digits) =
          d * 10 ^ digits.length +
            Numeral.value 10 digits := by
        have hSplit := @value_append [c] digits hDigits.2
        have hOne := Numeral.value_append 10 [] hd
        rw [List.nil_append, value_nil] at hOne
        rw [List.singleton_append, hOne] at hSplit
        rw [hSplit, Nat.zero_mul, Nat.zero_add]
      have hSub := digit?_eq_sub hDigits.1
      have hBounds := (isDigit_decimal_iff c).mp hDigits.1
      rw [hd, Option.some.injEq] at hSub
      have hDistance : (c.toNat : Int) - (byte '0').toNat =
          d := by
        rw [hSub, show (byte '0').toNat = 48 from rfl]
        omega
      rw [hValue, List.length_cons, pow_succ] at hFits
      have hNext : (v * 10 + d) * 10 ^ digits.length +
          Numeral.value 10 digits < 2 ^ 32 := by
        linarith [hFits]
      have hPow : 1 ≤ 10 ^ digits.length :=
        Nat.one_le_pow _ _ (by decide)
      have hWrap : u32 ((v : Int) * 10 + d) = v * 10 + d := by
        have hCast : (v : Int) * 10 + d =
            ((v * 10 + d : Nat) : Int) := by
          push_cast
          ring
        rw [hCast]
        apply wrap_natCast_of_lt
        nlinarith
      have hMore : 10 ^ (m + (digits.length + 1)) > 1 :=
        Nat.one_lt_pow (by omega) (by decide)
      have hTenth : 10 ^ (m + (digits.length + 1)) / 10 =
          10 ^ (m + digits.length) := by
        rw [← Nat.add_assoc, pow_succ,
          Nat.mul_div_cancel _ (by decide)]
      rw [List.length_cons, fractionLoop, isdigit_eq,
        if_pos ⟨hDigits.1, hMore⟩, hDistance, hWrap, hTenth,
        ih hDigits.2 hNext, hValue, pow_succ]
      congr 1
      ring

/- The decimals are read as millionths. -/
theorem microseconds_text
    (x : Clock)
    {before : List UInt8}
    (hLength : before.length = 6) :
    (if peek ((before ++ point x.decimals x.fraction).drop 6) =
        byte '.' then
      i32 (u32 ((fractionLoop
          ((before ++ point x.decimals x.fraction).drop 7)
            0 1000000).1 *
        (fractionLoop
          ((before ++ point x.decimals x.fraction).drop 7)
            0 1000000).2))
    else
      0) =
      x.fraction * 10 ^ (6 - x.decimals) := by
  have hDecimals := x.hDecimals
  have hFraction := x.hFraction
  have hPow : 10 ^ x.decimals * 10 ^ (6 - x.decimals) =
      10 ^ 6 := by
    rw [← pow_add, Nat.add_sub_cancel' hDecimals]
  have hProduct : x.fraction * 10 ^ (6 - x.decimals) <
      10 ^ 6 := by
    rw [← hPow]
    exact Nat.mul_lt_mul_of_pos_right hFraction
      (Nat.pow_pos (by decide))
  have hSmall : 10 ^ x.decimals ≤ 10 ^ 6 :=
    Nat.pow_le_pow_right (by decide) hDecimals
  rw [List.drop_left' hLength]
  unfold point
  by_cases hNone : x.decimals = 0
  · rw [hNone, pow_zero] at hFraction
    have hZero : x.fraction = 0 := by omega
    rw [if_pos hNone, hZero]
    simp [peek, byte]
  · have hDrop : (before ++
          byte '.' :: padded x.decimals x.fraction).drop 7 =
        padded x.decimals x.fraction := by
      rw [List.drop_append, hLength,
        List.drop_of_length_le (by omega)]
      rfl
    have hRead := @fractionLoop_digits
      (padded x.decimals x.fraction)
      (fun _ hMem => isDigit_of_mem_padded hMem) 0
      (by rw [value_padded_of_lt hFraction]; omega)
      (6 - x.decimals)
    rw [length_padded, Nat.sub_add_cancel hDecimals,
      value_padded_of_lt hFraction, Nat.zero_mul,
      Nat.zero_add] at hRead
    have hCast : (x.fraction : Int) *
        (10 ^ (6 - x.decimals) : Nat) =
          ((x.fraction * 10 ^ (6 - x.decimals) : Nat) :
            Int) := by
      push_cast
      ring
    have hPeek : peek (byte '.' ::
        padded x.decimals x.fraction) = byte '.' := rfl
    rw [if_neg hNone, hDrop, if_pos hPeek,
      show (1000000 : Nat) = 10 ^ 6 from rfl, hRead, i32_u32,
      hCast, i32_of_bounds (by omega) (by omega)]
    push_cast
    ring

theorem scanTime_text
    (x : Clock) :
    scanTime (some x.text) = some x.value := by
  have hSix := sixDigits_padded x.hours x.minutes x.seconds
    (point x.decimals x.fraction)
  have hParts := twoDigits_parts x.hours x.minutes x.seconds
    (point x.decimals x.fraction)
  have hField := isfield_peek_padded x.hours
    (padded 2 x.minutes ++ padded 2 x.seconds ++
      point x.decimals x.fraction)
  rw [← List.append_assoc, ← List.append_assoc] at hField
  have hLength : (padded 2 x.hours ++ padded 2 x.minutes ++
      padded 2 x.seconds).length = 6 := by
    rw [List.length_append, List.length_append,
      length_padded, length_padded, length_padded]
  unfold scanTime Clock.text Clock.value
  simp only
  rw [hField, hSix, hParts.1, hParts.2.1, hParts.2.2,
    microseconds_text x hLength]
  rfl

end Minmea

------------------------------------------------------------
-- Reading Written Fields
------------------------------------------------------------

namespace Minmea

def fixedValue (x : Option Fixed) : MinmeaFloat :=
  (x.map Fixed.value).getD ⟨0, 0⟩

def numberValue (x : Option Number) : Int :=
  (x.map Number.value).getD 0

def clockValue (x : Option Clock) : MinmeaTime :=
  (x.map Clock.value).getD ⟨-1, -1, -1, -1⟩

def dayValue (x : Option Day) : MinmeaDate :=
  (x.map Day.value).getD ⟨-1, -1, -1⟩

def letterValue (x : Option Letter) : UInt8 :=
  (x.map Subtype.val).getD 0

/- Zero where no side is given. -/
def directionValue (x : Option Bool) : Int :=
  (x.map sideValue).getD 0

variable {F : Type}
variable (format : List (Directive F))
variable (fields : List (List UInt8))
variable (isOptional : Bool)
variable (state : F × Locals)

/- A field that the conversion accepts is stored. -/
theorem readFields_convert
    {α : Type}
    {scan : Option (List UInt8) → Option α}
    {field : List UInt8}
    {value : α}
    (hScan : scan (some field) = some value)
    (arg : Arg F α) :
    readFields (.convert scan arg :: format)
        (field :: fields) isOptional state =
      readFields format fields isOptional
        (arg.store value state) := by
  rw [readFields]
  simp [hScan]

@[simp]
theorem readFields_f
    (arg : Arg F MinmeaFloat)
    (x : Option Fixed) :
    readFields (.f arg :: format)
        (blankOr Fixed.text x :: fields) isOptional state =
      readFields format fields isOptional
        (arg.store (fixedValue x) state) := by
  apply readFields_convert
  cases x with
  | none => decide
  | some x => exact scanFloat_text x

@[simp]
theorem readFields_i
    (arg : Arg F Int)
    (x : Option Number) :
    readFields (.i arg :: format)
        (blankOr Number.text x :: fields) isOptional state =
      readFields format fields isOptional
        (arg.store (numberValue x) state) := by
  apply readFields_convert
  cases x with
  | none => decide
  | some x => exact scanInt_text x

@[simp]
theorem readFields_T
    (arg : Arg F MinmeaTime)
    (x : Option Clock) :
    readFields (.T arg :: format)
        (blankOr Clock.text x :: fields) isOptional state =
      readFields format fields isOptional
        (arg.store (clockValue x) state) := by
  apply readFields_convert
  cases x with
  | none => decide
  | some x => exact scanTime_text x

@[simp]
theorem readFields_D
    (arg : Arg F MinmeaDate)
    (x : Option Day) :
    readFields (.D arg :: format)
        (blankOr Day.text x :: fields) isOptional state =
      readFields format fields isOptional
        (arg.store (dayValue x) state) := by
  apply readFields_convert
  cases x with
  | none => decide
  | some x => exact scanDate_text x

@[simp]
theorem readFields_c
    (arg : Arg F UInt8)
    (x : Option Letter) :
    readFields (.c arg :: format)
        (blankOr letterText x :: fields) isOptional state =
      readFields format fields isOptional
        (arg.store (letterValue x) state) := by
  apply readFields_convert
  cases x with
  | none => decide
  | some x =>
      simp [blankOr, letterText, letterValue, scanChar, peek,
        x.property]

@[simp]
theorem readFields_letter
    (arg : Arg F UInt8)
    (x : Letter) :
    readFields (.c arg :: format) (letterText x :: fields)
        isOptional state =
      readFields format fields isOptional
        (arg.store x.val state) :=
  readFields_c format fields isOptional state arg (some x)

/- Behind the last field, the optional ones are blank. -/
@[simp]
theorem readFields_c_nil
    (arg : Arg F UInt8) :
    readFields (.c arg :: format) [] true state =
      readFields format [] true (arg.store 0 state) := by
  rfl

@[simp]
theorem readFields_i_nil
    (arg : Arg F Int) :
    readFields (.i arg :: format) [] true state =
      readFields format [] true (arg.store 0 state) := by
  rfl

@[simp]
theorem readFields_optional :
    readFields (.optional :: format) fields isOptional state =
      readFields format fields true state := by
  rfl

@[simp]
theorem readFields_ignore
    (field : List UInt8) :
    readFields (.ignore :: format) (field :: fields)
        isOptional state =
      readFields format fields isOptional state := by
  rfl

@[simp]
theorem readFields_nil :
    readFields [] fields isOptional state =
      (true, state) := by
  rw [readFields]

/- The letters of a hemisphere, or none. -/
theorem readFields_d
    (arg : Arg F Int)
    {first second : Char}
    (hFirst : scanDirection (some [byte first]) = some 1)
    (hSecond : scanDirection (some [byte second]) = some (-1))
    (x : Option Bool) :
    readFields (.d arg :: format)
        (blankOr (sideText first second) x :: fields)
        isOptional state =
      readFields format fields isOptional
        (arg.store (directionValue x) state) := by
  apply readFields_convert
  rcases x with _ | _ | _
  · rfl
  · exact hFirst
  · exact hSecond

@[simp]
theorem readFields_northSouth
    (arg : Arg F Int)
    (x : Option Bool) :
    readFields (.d arg :: format)
        (blankOr (sideText 'N' 'S') x :: fields)
        isOptional state =
      readFields format fields isOptional
        (arg.store (directionValue x) state) :=
  readFields_d format fields isOptional state arg (by decide)
    (by decide) x

@[simp]
theorem readFields_eastWest
    (arg : Arg F Int)
    (x : Option Bool) :
    readFields (.d arg :: format)
        (blankOr (sideText 'E' 'W') x :: fields)
        isOptional state =
      readFields format fields isOptional
        (arg.store (directionValue x) state) :=
  readFields_d format fields isOptional state arg (by decide)
    (by decide) x

end Minmea
