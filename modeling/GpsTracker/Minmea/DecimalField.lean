import GpsTracker.Minmea.Blank
import GpsTracker.Minmea.WrittenFields

/-
  The decimal fields that `minmea_scan` accepts.

  A field is blank, or a number: spaces, a sign, digits and
  a point with more digits. The sign may also stand behind
  the point. Digits of the fraction that no longer fit end
  the number, and what is behind the first of them is not
  looked at.

  Main declarations:
    * `Minmea.DecimalField`, `Minmea.NineBehindPoint`
    * `Minmea.floatLoop_fraction_iff`
    * `Minmea.floatLoop_whole_iff`
    * `Minmea.scanFloat_iff`
-/

open CString Machine Numeral Decimal Stdlib

------------------------------------------------------------
-- Numbers
------------------------------------------------------------

namespace Minmea

/- The largest value of an `int_least32_t`. -/
def intMax : Int := 2147483647

def IsDigits (text : List UInt8) : Prop :=
  ∀ c ∈ text, isDigit 10 c = true

/- A sign that is written, or none. -/
def signText : Option Bool → List UInt8
  | none => []
  | some false => [byte '+']
  | some true => [byte '-']

/- The sign as the loop keeps it. -/
def signValue : Option Bool → Int
  | none => 0
  | some false => 1
  | some true => -1

def applySign (sign : Option Bool) (n : Nat) : Int :=
  if sign = some true then -n else n

/-
  What the digits of a number are followed by: nothing, or
  a digit that does not fit.
-/
def EndsDigits (v : Int) (more : List UInt8) : Prop :=
  more = [] ∨
    ∃ c rest d, more = c :: rest ∧ digit? c = some d ∧
      d < 10 ∧ intMax < 10 * v + d

/-
  The fields that are accepted, each with what is stored. A
  blank field has the scale 0; `fraction` is as much of the
  digits behind the point as fits.
-/
inductive DecimalField : List UInt8 → MinmeaFloat → Prop
  | blank
      (spaces : Nat) :
      DecimalField (List.replicate spaces (byte ' ')) ⟨0, 0⟩
  | whole
      (spaces : Nat)
      (sign : Option Bool)
      {whole : List UInt8}
      (hDigits : IsDigits whole)
      (hSome : whole ≠ [])
      (hFits : Numeral.value 10 whole ≤ intMax) :
      DecimalField
        (List.replicate spaces (byte ' ') ++
          (signText sign ++ whole))
        ⟨applySign sign (Numeral.value 10 whole), 1⟩
  | point
      (spaces : Nat)
      (sign : Option Bool)
      {whole fraction more : List UInt8}
      (hDigits : IsDigits (whole ++ fraction))
      (hSome : whole ++ fraction ≠ [])
      (hFits : Numeral.value 10 (whole ++ fraction) ≤ intMax)
      (hEnds : EndsDigits
        (Numeral.value 10 (whole ++ fraction)) more) :
      DecimalField
        (List.replicate spaces (byte ' ') ++
          (signText sign ++ (whole ++
            byte '.' :: (fraction ++ more))))
        ⟨applySign sign
          (Numeral.value 10 (whole ++ fraction)),
          10 ^ fraction.length⟩
  | signBehindPoint
      (spaces : Nat)
      (isMinus : Bool)
      {fraction more : List UInt8}
      (hDigits : IsDigits fraction)
      (hSome : fraction ≠ [])
      (hFits : Numeral.value 10 fraction ≤ intMax)
      (hEnds : EndsDigits (Numeral.value 10 fraction) more) :
      DecimalField
        (List.replicate spaces (byte ' ') ++
          byte '.' :: (signText (some isMinus) ++
            (fraction ++ more)))
        ⟨applySign (some isMinus)
          (Numeral.value 10 fraction),
          10 ^ fraction.length⟩

/-
  At most nine characters stand behind a point: as many
  powers of ten as an `int_least32_t` holds.
-/
def NineBehindPoint (text : List UInt8) : Prop :=
  ∀ before behind, text = before ++ byte '.' :: behind →
    behind.length ≤ 9

end Minmea

------------------------------------------------------------
-- Single Characters
------------------------------------------------------------

namespace Minmea

variable {c : UInt8}
variable {rest : List UInt8}
variable {sign v scale : Int}

/-
  A digit that does not fit ends the loop in the fraction,
  and is an error in front of the point.
-/
theorem floatLoop_excess
    {d : Nat}
    (hDigit : digit? c = some d)
    (hLess : d < 10)
    (hStart : 0 ≤ v)
    (hFull : intMax < 10 * v + d) :
    floatLoop (c :: rest) sign v scale =
      if scale ≠ 0 then some (sign, v, scale) else none := by
  have hIs : isDigit 10 c = true :=
    (isDigit_iff 10 c).mpr ⟨d, hDigit, hLess⟩
  have hBounds := (isDigit_decimal_iff c).mp hIs
  have hSub := digit?_eq_sub hIs
  rw [hDigit, Option.some.injEq] at hSub
  have hDistance : (c.toNat : Int) - (byte '0').toNat = d := by
    rw [hSub, show (byte '0').toNat = 48 from rfl]
    omega
  have hNot : v ≠ -1 := by omega
  unfold intMax at hFull
  rw [floatLoop, isfield_of_isDigit hIs, isdigit_eq, hIs]
  simp only [Bool.not_true, Bool.false_eq_true, if_false,
    hNot, and_false, if_true]
  rw [hDistance, if_pos (by omega)]

/- Other characters are an error where they have no place. -/
theorem floatLoop_misplaced
    (hField : isfield c = true)
    (hDigit : isDigit 10 c = false)
    (hSign : c = byte '+' ∨ c = byte '-' →
      sign ≠ 0 ∨ v ≠ -1)
    (hPoint : c = byte '.' → scale ≠ 0)
    (hSpace : c = byte ' ' →
      sign ≠ 0 ∨ v ≠ -1 ∨ scale ≠ 0) :
    floatLoop (c :: rest) sign v scale = none := by
  have hPlus : ¬ (c = byte '+' ∧ sign = 0 ∧ v = -1) := by
    rintro ⟨hc, hZero, hNone⟩
    rcases hSign (Or.inl hc) with hNot | hNot
    · exact hNot hZero
    · exact hNot hNone
  have hMinus : ¬ (c = byte '-' ∧ sign = 0 ∧ v = -1) := by
    rintro ⟨hc, hZero, hNone⟩
    rcases hSign (Or.inr hc) with hNot | hNot
    · exact hNot hZero
    · exact hNot hNone
  have hDot : ¬ (c = byte '.' ∧ scale = 0) := fun hBoth =>
    hPoint hBoth.1 hBoth.2
  rw [floatLoop, hField, isdigit_eq, hDigit]
  rw [if_neg (by decide), if_neg hPlus, if_neg hMinus,
    if_neg (by decide), if_neg hDot]
  split
  · next hBlank => exact if_pos (hSpace hBlank)
  · rfl

end Minmea

------------------------------------------------------------
-- Runs of Digits
------------------------------------------------------------

namespace Minmea

variable {c : UInt8}
variable {t : List UInt8}
variable {sign v scale : Int}
variable {r : Int × Int × Int}

/- The value behind more digits. -/
def runValue (v : Int) (digits : List UInt8) : Int :=
  v * 10 ^ digits.length + Numeral.value 10 digits

theorem runValue_nil
    (v : Int) :
    runValue v [] = v := by
  unfold runValue
  rw [List.length_nil, pow_zero, value_nil]
  omega

theorem runValue_cons
    {d : Nat}
    (hDigit : digit? c = some d)
    {digits : List UInt8}
    (hDigits : IsDigits digits) :
    runValue v (c :: digits) =
      runValue (10 * v + d) digits := by
  have hValue := Decimal.value_cons hDigit hDigits
  unfold runValue
  rw [hValue, List.length_cons, pow_succ]
  push_cast
  ring

/- More digits only make it larger. -/
theorem le_runValue
    (hStart : 0 ≤ v)
    (digits : List UInt8) :
    v ≤ runValue v digits := by
  have hPow : (1 : Int) ≤ 10 ^ digits.length :=
    one_le_pow₀ (by norm_num)
  have hValue : (0 : Int) ≤ Numeral.value 10 digits :=
    Int.natCast_nonneg _
  have hMore := Int.mul_le_mul_of_nonneg_left hPow hStart
  unfold runValue
  omega

/-
  The text begins with digits that fit; of their value,
  their number and what follows, something holds.
-/
def ReadsRun
    (v : Int)
    (text : List UInt8)
    (P : Int → Nat → List UInt8 → Prop) : Prop :=
  ∃ digits more,
    text = digits ++ more ∧ IsDigits digits ∧
      runValue v digits ≤ intMax ∧
      P (runValue v digits) digits.length more

variable {P : Int → Nat → List UInt8 → Prop}

theorem readsRun_zero
    (hMax : v ≤ intMax)
    (hHolds : P v 0 t) :
    ReadsRun v t P := by
  refine ⟨[], t, rfl,
    fun _ hc => absurd hc List.not_mem_nil, ?_⟩
  rw [runValue_nil]
  exact ⟨hMax, hHolds⟩

/- Digits are taken, or none is. -/
theorem zero_or_of_readsRun
    (hReads : ReadsRun v t P) :
    P v 0 t ∨
      ∃ c later d, t = c :: later ∧ digit? c = some d ∧
        d < 10 ∧
        ReadsRun (10 * v + (d : Int)) later
          fun value n more => P value (n + 1) more := by
  rcases hReads with
    ⟨digits, more, rfl, hDigits, hFits, hHolds⟩
  cases digits with
  | nil =>
      rw [runValue_nil] at hHolds
      exact Or.inl hHolds
  | cons c later =>
      right
      unfold IsDigits at hDigits
      rw [List.forall_mem_cons] at hDigits
      rcases (isDigit_iff 10 c).mp hDigits.1 with
        ⟨d, hd, hLess⟩
      rw [runValue_cons hd hDigits.2] at hFits hHolds
      exact ⟨c, later ++ more, d, rfl, hd, hLess, later, more,
        rfl, hDigits.2, hFits, hHolds⟩

theorem readsRun_nil_iff
    (hMax : v ≤ intMax) :
    ReadsRun v [] P ↔ P v 0 [] := by
  constructor
  · intro hReads
    rcases zero_or_of_readsRun hReads with
      hZero | ⟨_, _, _, hCons, _⟩
    · exact hZero
    · cases hCons
  · exact readsRun_zero hMax

theorem readsRun_other_iff
    (hMax : v ≤ intMax)
    (hOther : isDigit 10 c = false) :
    ReadsRun v (c :: t) P ↔ P v 0 (c :: t) := by
  constructor
  · intro hReads
    rcases zero_or_of_readsRun hReads with
      hZero | ⟨c', _, d, hCons, hd, hLess, _⟩
    · exact hZero
    · cases hCons
      rw [(isDigit_iff 10 c).mpr ⟨d, hd, hLess⟩] at hOther
      cases hOther
  · exact readsRun_zero hMax

theorem readsRun_digit_iff
    (hMax : v ≤ intMax)
    {d : Nat}
    (hd : digit? c = some d)
    (hLess : d < 10) :
    ReadsRun v (c :: t) P ↔
      P v 0 (c :: t) ∨
        ReadsRun (10 * v + (d : Int)) t
          fun value n more => P value (n + 1) more := by
  constructor
  · intro hReads
    rcases zero_or_of_readsRun hReads with
      hZero | ⟨c', later, d', hCons, hd', _, hLater⟩
    · exact Or.inl hZero
    · cases hCons
      rw [hd] at hd'
      cases hd'
      exact Or.inr hLater
  · rintro (hZero |
      ⟨digits, more, rfl, hDigits, hFits, hHolds⟩)
    · exact readsRun_zero hMax hZero
    · have hIs := (isDigit_iff 10 c).mpr ⟨d, hd, hLess⟩
      refine ⟨c :: digits, more, rfl,
        List.forall_mem_cons.mpr ⟨hIs, hDigits⟩, ?_⟩
      rw [runValue_cons hd hDigits]
      exact ⟨hFits, hHolds⟩

theorem not_readsRun_of_large
    (hStart : 0 ≤ v)
    (hLarge : intMax < v) :
    ¬ ReadsRun v t P := by
  rintro ⟨digits, _, _, _, hFits, _⟩
  have hLe := le_runValue hStart digits
  omega

end Minmea

------------------------------------------------------------
-- Both Parts of a Number
------------------------------------------------------------

namespace Minmea

variable {c : UInt8}
variable {t : List UInt8}
variable {sign v scale : Int}
variable {r : Int × Int × Int}

theorem endsDigits_cons_iff
    {more : List UInt8} :
    EndsDigits v (c :: more) ↔
      ∃ d, digit? c = some d ∧ d < 10 ∧
        intMax < 10 * v + (d : Int) := by
  constructor
  · rintro (hNil | ⟨c', rest, d, hSplit, hd, hLess, hFull⟩)
    · cases hNil
    · cases hSplit
      exact ⟨d, hd, hLess, hFull⟩
  · rintro ⟨d, hd, hLess, hFull⟩
    exact Or.inr ⟨c, more, d, rfl, hd, hLess, hFull⟩

/- A digit that fits is read. -/
theorem floatLoop_next
    {d : Nat}
    (hd : digit? c = some d)
    (hLess : d < 10)
    (hStart : 0 ≤ v)
    (hFits : ¬ intMax < 10 * v + d)
    (hScale : 0 ≤ scale)
    (hSmall : scale * 10 < 2 ^ 31) :
    floatLoop (c :: t) sign v scale =
      floatLoop t sign (10 * v + d) (scale * 10) := by
  have hValue : max v 0 * 10 + (d : Int) = 10 * v + d := by
    omega
  have hNext : (if scale ≠ 0 then i32 (scale * 10)
      else scale) = scale * 10 := by
    split
    · exact i32_of_bounds (by omega) hSmall
    · omega
  unfold intMax at hFits
  rw [floatLoop_digit hd hLess _ (by omega) (by omega), hNext,
    hValue]

/- The fraction is read up to a digit that does not fit. -/
theorem floatLoop_fraction_iff
    (hText : IsText t)
    (hStart : 0 ≤ v)
    (hMax : v ≤ intMax)
    (hScale : 0 < scale)
    (hSmall : scale * 10 ^ t.length < 2 ^ 31) :
    floatLoop t sign v scale = some r ↔
      ReadsRun v t fun value n more =>
        EndsDigits value more ∧
          r = (sign, value, scale * 10 ^ n) := by
  induction t generalizing v scale with
  | nil =>
      rw [readsRun_nil_iff hMax, floatLoop, pow_zero,
        Int.mul_one, Option.some.injEq]
      exact ⟨fun hr => ⟨Or.inl rfl, hr.symm⟩,
        fun hBoth => hBoth.2.symm⟩
  | cons c t ih =>
      unfold IsText at hText
      rw [List.forall_mem_cons] at hText
      cases hIs : isDigit 10 c with
      | false =>
          rw [floatLoop_misplaced hText.1 hIs
              (fun _ => Or.inr (by omega)) (fun _ => by omega)
              (fun _ => Or.inr (Or.inl (by omega))),
            readsRun_other_iff hMax hIs, endsDigits_cons_iff]
          refine iff_of_false (by simp) ?_
          rintro ⟨⟨d, hd, hLess, _⟩, _⟩
          rw [(isDigit_iff 10 c).mpr ⟨d, hd, hLess⟩] at hIs
          cases hIs
      | true =>
          rcases (isDigit_iff 10 c).mp hIs with ⟨d, hd, hLess⟩
          rw [readsRun_digit_iff hMax hd hLess,
            endsDigits_cons_iff]
          by_cases hFull : intMax < 10 * v + d
          · rw [floatLoop_excess hd hLess hStart hFull,
              if_pos (by omega), Option.some.injEq, pow_zero,
              Int.mul_one]
            have hNone := @not_readsRun_of_large t
              (10 * v + d) (fun value n more =>
                EndsDigits value more ∧
                  r = (sign, value, scale * 10 ^ (n + 1)))
              (by omega) hFull
            constructor
            · exact fun hr =>
                Or.inl ⟨⟨d, hd, hLess, hFull⟩, hr.symm⟩
            · rintro (hZero | hMore)
              · exact hZero.2.symm
              · exact absurd hMore hNone
          · have hPow : (1 : Int) ≤ 10 ^ t.length :=
              one_le_pow₀ (by norm_num)
            rw [List.length_cons, pow_succ] at hSmall
            have hTen : scale * 10 < 2 ^ 31 := by
              nlinarith
            rw [floatLoop_next hd hLess hStart hFull
              (by omega) hTen, ih hText.2 (by omega) (by omega)
                (by omega) (by linarith [hSmall])]
            have hNoEnd : ¬ ∃ d', digit? c = some d' ∧
                d' < 10 ∧ intMax < 10 * v + (d' : Int) := by
              rintro ⟨d', hd', _, hOver⟩
              rw [hd] at hd'
              cases hd'
              exact hFull hOver
            have hPower (n : Nat) :
                scale * 10 * 10 ^ n = scale * 10 ^ (n + 1) := by
              ring
            simp only [hNoEnd, false_and, false_or, hPower]

/- The digits in front of the point, and the point. -/
theorem floatLoop_whole_iff
    (hText : IsText t)
    (hStart : 0 ≤ v)
    (hMax : v ≤ intMax) :
    floatLoop t sign v 0 = some r ↔
      ReadsRun v t fun value _ more =>
        more = [] ∧ r = (sign, value, 0) ∨
          ∃ behind, more = byte '.' :: behind ∧
            floatLoop behind sign value 1 = some r := by
  induction t generalizing v with
  | nil =>
      rw [readsRun_nil_iff hMax, floatLoop, Option.some.injEq]
      constructor
      · exact fun hr => Or.inl ⟨rfl, hr.symm⟩
      · rintro (hBoth | ⟨_, hCons, _⟩)
        · exact hBoth.2.symm
        · cases hCons
  | cons c t ih =>
      unfold IsText at hText
      rw [List.forall_mem_cons] at hText
      cases hIs : isDigit 10 c with
      | false =>
          rw [readsRun_other_iff hMax hIs]
          by_cases hPoint : c = byte '.'
          · subst hPoint
            rw [floatLoop_point]
            simp
          · rw [floatLoop_misplaced hText.1 hIs
              (fun _ => Or.inr (by omega))
              (fun hc => absurd hc hPoint)
              (fun _ => Or.inr (Or.inl (by omega)))]
            simp [hPoint]
      | true =>
          rcases (isDigit_iff 10 c).mp hIs with ⟨d, hd, hLess⟩
          have hNotPoint : c ≠ byte '.' := by
            rintro rfl
            exact absurd hIs (by decide)
          rw [readsRun_digit_iff hMax hd hLess]
          simp only [List.cons_ne_nil, false_and,
            List.cons.injEq, hNotPoint, exists_false, or_false,
            false_or]
          by_cases hFull : intMax < 10 * v + d
          · rw [floatLoop_excess hd hLess hStart hFull,
              if_neg (by simp)]
            exact iff_of_false (by simp)
              (not_readsRun_of_large (by omega) hFull)
          · rw [floatLoop_next hd hLess hStart hFull
              (le_refl 0) (by decide), Int.zero_mul,
              ih hText.2 (by omega) (by omega)]

end Minmea

------------------------------------------------------------
-- In Front of the Digits
------------------------------------------------------------

namespace Minmea

variable {c : UInt8}
variable {t : List UInt8}
variable {s scale : Int}
variable {r : Int × Int × Int}

/- The mark for "no digit yet" counts as zero. -/
theorem floatLoop_first
    (hDigit : isDigit 10 c = true) :
    floatLoop (c :: t) s (-1) scale =
      floatLoop (c :: t) s 0 scale := by
  rcases (isDigit_iff 10 c).mp hDigit with ⟨d, hd, hLess⟩
  rw [floatLoop_digit hd hLess _ (by omega) (by omega),
    floatLoop_digit hd hLess _ (by omega) (by omega)]
  rfl

theorem floatLoop_sign
    (sign : Option Bool)
    (t : List UInt8)
    (scale : Int) :
    floatLoop (signText sign ++ t) 0 (-1) scale =
      floatLoop t (signValue sign) (-1) scale := by
  cases sign with
  | none => rfl
  | some isMinus =>
      cases isMinus with
      | false =>
          show floatLoop (byte '+' :: t) 0 (-1) scale = _
          rw [floatLoop]
          rfl
      | true =>
          show floatLoop (byte '-' :: t) 0 (-1) scale = _
          rw [floatLoop]
          rfl

theorem floatLoop_spaces
    (spaces : Nat)
    (t : List UInt8) :
    floatLoop (List.replicate spaces (byte ' ') ++ t)
        0 (-1) 0 =
      floatLoop t 0 (-1) 0 := by
  induction spaces with
  | zero => rfl
  | succ spaces ih =>
      rw [List.replicate_succ, List.cons_append, ← ih,
        floatLoop]
      rfl

/- What may stand there, if there is a result at all. -/
theorem front_cases
    (hField : isfield c = true)
    (hLoop : floatLoop (c :: t) s (-1) scale = some r) :
    isDigit 10 c = true ∨
      (s = 0 ∧ ∃ isMinus, [c] = signText (some isMinus)) ∨
      (c = byte '.' ∧ scale = 0) ∨
      (c = byte ' ' ∧ s = 0 ∧ scale = 0) := by
  by_contra hNone
  simp only [not_or, not_and, not_exists] at hNone
  rcases hNone with ⟨hDigit, hSign, hPoint, hSpace⟩
  rw [floatLoop_misplaced hField
    (Bool.eq_false_iff.mpr hDigit)] at hLoop
  · cases hLoop
  · intro hc
    left
    intro hZero
    rcases hc with rfl | rfl
    · exact hSign hZero false rfl
    · exact hSign hZero true rfl
  · exact hPoint
  · intro hc
    by_cases hZero : s = 0
    · exact Or.inr (Or.inr (hSpace hc hZero))
    · exact Or.inl hZero

/- A blank field that is accepted holds spaces only. -/
theorem eq_spaces_of_floatLoop
    (hText : IsText t)
    (hLoop : floatLoop t s (-1) scale = some (0, -1, 0)) :
    s = 0 ∧ scale = 0 ∧
      ∃ spaces, t = List.replicate spaces (byte ' ') := by
  induction t generalizing s scale with
  | nil =>
      cases hLoop
      exact ⟨rfl, rfl, 0, rfl⟩
  | cons c t ih =>
      have hBlank := ((floatLoop_value (le_refl (-1))
        hLoop).mp rfl).2
      unfold IsText at hText
      rw [List.forall_mem_cons] at hText
      rcases front_cases hText.1 hLoop with
        hDigit | ⟨rfl, isMinus, hSign⟩ | ⟨rfl, rfl⟩ |
          ⟨rfl, rfl, rfl⟩
      · rw [blank_of_isdigit hText.1
          ((isdigit_eq c).trans hDigit)] at hBlank
        cases hBlank
      · have hCons : c :: t = signText (some isMinus) ++ t := by
          rw [← hSign]
          rfl
        rw [hCons, floatLoop_sign] at hLoop
        have hZero := (ih hText.2 hLoop).1
        cases isMinus <;> cases hZero
      · rw [floatLoop_point] at hLoop
        have hZero := (ih hText.2 hLoop).2.1
        cases hZero
      · have hRest : floatLoop t 0 (-1) 0 = some (0, -1, 0) :=
          (floatLoop_spaces 1 t).symm.trans hLoop
        rcases ih hText.2 hRest with ⟨_, _, spaces, rfl⟩
        exact ⟨rfl, rfl, spaces + 1, rfl⟩

end Minmea

------------------------------------------------------------
-- Accepted Fields
------------------------------------------------------------

namespace Minmea

variable {c : UInt8}
variable {t : List UInt8}
variable {r : Int × Int × Int}

/- What is stored for sign, value and scale of a number. -/
def accepted (r : Int × Int × Int) : MinmeaFloat :=
  ⟨if r.1 ≠ 0 then r.2.1 * r.1 else r.2.1,
    if r.2.2 = 0 then 1 else r.2.2⟩

theorem accepted_eq
    (sign : Option Bool)
    (n : Nat)
    (scale : Int) :
    accepted (signValue sign, (n : Int), scale) =
      ⟨applySign sign n, if scale = 0 then 1 else scale⟩ := by
  unfold accepted applySign
  rcases sign with _ | isMinus
  · rfl
  · cases isMinus <;> simp [signValue]

theorem scale_eq
    (n : Nat) :
    (if (10 : Int) ^ n = 0 then 1 else (10 : Int) ^ n) =
      10 ^ n :=
  if_neg (pow_ne_zero n (by norm_num))

theorem NineBehindPoint.suffix
    {front : List UInt8}
    (hNine : NineBehindPoint (front ++ t)) :
    NineBehindPoint t := by
  intro before behind hSplit
  apply hNine (front ++ before) behind
  rw [hSplit, List.append_assoc]

theorem pow_nine
    {n : Nat}
    (hn : n ≤ 9) :
    (1 : Int) * 10 ^ n < 2 ^ 31 := by
  have hPow : (10 : Int) ^ n ≤ 10 ^ 9 :=
    pow_le_pow_right₀ (by norm_num) hn
  omega

theorem runValue_value
    {whole fraction : List UInt8}
    (hFraction : IsDigits fraction) :
    runValue (Numeral.value 10 whole) fraction =
      Numeral.value 10 (whole ++ fraction) := by
  rw [Decimal.value_append hFraction]
  unfold runValue
  push_cast
  rfl

/- The fraction behind some digits of the whole part. -/
theorem exists_fraction_of_loop
    (hText : IsText t)
    (hNine : t.length ≤ 9)
    {whole : List UInt8}
    (hFits : Numeral.value 10 whole ≤ intMax)
    {s : Int}
    (hLoop : floatLoop t s (Numeral.value 10 whole) 1 =
      some r) :
    ∃ fraction more, t = fraction ++ more ∧
      IsDigits fraction ∧
      Numeral.value 10 (whole ++ fraction) ≤ intMax ∧
      EndsDigits (Numeral.value 10 (whole ++ fraction)) more ∧
      r = (s, (Numeral.value 10 (whole ++ fraction) : Int),
        10 ^ fraction.length) := by
  rcases (floatLoop_fraction_iff hText (Int.natCast_nonneg _)
      hFits Int.one_pos (pow_nine hNine)).mp hLoop with
    ⟨fraction, more, hSplit, hDigits, hMax, hEnds, hr⟩
  rw [runValue_value hDigits] at hMax hEnds hr
  rw [Int.one_mul] at hr
  exact ⟨fraction, more, hSplit, hDigits, hMax, hEnds, hr⟩

/- And back. -/
theorem floatLoop_of_fraction
    {whole fraction more : List UInt8}
    (hText : IsText (fraction ++ more))
    (hNine : (fraction ++ more).length ≤ 9)
    (hDigits : IsDigits fraction)
    (hFits : Numeral.value 10 (whole ++ fraction) ≤ intMax)
    (hEnds : EndsDigits
      (Numeral.value 10 (whole ++ fraction)) more)
    (s : Int) :
    floatLoop (fraction ++ more) s (Numeral.value 10 whole) 1 =
      some (s, (Numeral.value 10 (whole ++ fraction) : Int),
        10 ^ fraction.length) := by
  have hRun := @runValue_value whole fraction hDigits
  have hWhole := @le_runValue (Numeral.value 10 whole)
    (Int.natCast_nonneg _) fraction
  rw [hRun] at hWhole
  apply (floatLoop_fraction_iff hText (Int.natCast_nonneg _)
    (hWhole.trans hFits) Int.one_pos (pow_nine hNine)).mpr
  refine ⟨fraction, more, rfl, hDigits, ?_⟩
  rw [hRun]
  refine ⟨hFits, hEnds, ?_⟩
  rw [Int.one_mul]

/- Behind a point there are digits, or a sign first. -/
theorem behind_point_cases
    (hText : IsText t)
    (hNine : t.length ≤ 9)
    {sign : Option Bool}
    (hLoop : floatLoop t (signValue sign) (-1) 1 = some r)
    (hSet : r.2.1 ≠ -1) :
    (∃ fraction more, t = fraction ++ more ∧
        fraction ≠ [] ∧ IsDigits fraction ∧
        Numeral.value 10 fraction ≤ intMax ∧
        EndsDigits (Numeral.value 10 fraction) more ∧
        r = (signValue sign,
          (Numeral.value 10 fraction : Int),
            10 ^ fraction.length)) ∨
      (sign = none ∧ ∃ isMinus later,
        t = signText (some isMinus) ++ later ∧
        floatLoop later (signValue (some isMinus)) (-1) 1 =
          some r) := by
  cases t with
  | nil =>
      cases hLoop
      exact absurd rfl hSet
  | cons c t =>
      have hField := hText c List.mem_cons_self
      rcases front_cases hField hLoop with
        hDigit | ⟨hZero, isMinus, hSign⟩ | ⟨_, hOne⟩ |
          ⟨_, _, hOne⟩
      · left
        rw [floatLoop_first hDigit] at hLoop
        rcases @exists_fraction_of_loop _ r hText hNine []
            (by decide) _ hLoop with
          ⟨fraction, more, hSplit, hDigits, hFits, hEnds, hr⟩
        refine ⟨fraction, more, hSplit, ?_, hDigits, hFits,
          hEnds, hr⟩
        rintro rfl
        -- The first digit always fits.
        rw [List.nil_append] at hSplit hEnds
        rw [← hSplit, endsDigits_cons_iff] at hEnds
        rcases hEnds with ⟨d, _, hLess, hFull⟩
        rw [value_nil] at hFull
        unfold intMax at hFull
        omega
      · right
        have hCons : c :: t = signText (some isMinus) ++ t := by
          rw [← hSign]
          rfl
        have hNone : sign = none := by
          rcases sign with _ | other
          · rfl
          · cases other <;> cases hZero
        subst hNone
        refine ⟨rfl, isMinus, t, hCons, ?_⟩
        rw [hCons] at hLoop
        rwa [← floatLoop_sign]
      · cases hOne
      · cases hOne

/- A number whose first character is a point. -/
theorem field_of_point
    (hText : IsText t)
    (hNine : t.length ≤ 9)
    (spaces : Nat)
    {sign : Option Bool}
    (hLoop : floatLoop t (signValue sign) (-1) 1 = some r)
    (hSet : r.2.1 ≠ -1) :
    DecimalField
      (List.replicate spaces (byte ' ') ++
        (signText sign ++ byte '.' :: t))
      (accepted r) := by
  rcases behind_point_cases hText hNine hLoop hSet with
    ⟨fraction, more, rfl, hSome, hDigits, hFits, hEnds, rfl⟩ |
      ⟨rfl, isMinus, later, rfl, hLater⟩
  · rw [accepted_eq, scale_eq]
    exact @DecimalField.point spaces sign [] fraction more
      hDigits hSome hFits hEnds
  · have hLaterText : IsText later := fun c hc =>
      hText c (List.mem_append_right _ hc)
    have hLaterNine : later.length ≤ 9 := by
      rw [List.length_append] at hNine
      omega
    rcases behind_point_cases hLaterText hLaterNine hLater
        hSet with
      ⟨fraction, more, rfl, hSome, hDigits, hFits, hEnds, rfl⟩ |
        ⟨hNone, _⟩
    · rw [accepted_eq, scale_eq]
      exact .signBehindPoint spaces isMinus hDigits hSome hFits
        hEnds
    · cases hNone

/- A number whose first character is a digit. -/
theorem field_of_digit
    (hText : IsText (c :: t))
    (hNine : NineBehindPoint (c :: t))
    (hDigit : isDigit 10 c = true)
    (spaces : Nat)
    {sign : Option Bool}
    (hLoop : floatLoop (c :: t) (signValue sign) (-1) 0 =
      some r) :
    DecimalField
      (List.replicate spaces (byte ' ') ++
        (signText sign ++ c :: t))
      (accepted r) := by
  rw [floatLoop_first hDigit] at hLoop
  rcases (floatLoop_whole_iff hText (le_refl 0)
      (by decide)).mp hLoop with
    ⟨whole, more, hSplit, hWhole, hFits, hMore⟩
  have hRun : runValue 0 whole = Numeral.value 10 whole :=
    @runValue_value [] whole hWhole
  rw [hRun] at hFits hMore
  have hSome : whole ≠ [] := by
    rintro rfl
    rw [List.nil_append] at hSplit
    rcases hMore with ⟨rfl, _⟩ | ⟨behind, rfl, _⟩
    · cases hSplit
    · cases hSplit
      exact absurd hDigit (by decide)
  rcases hMore with ⟨rfl, rfl⟩ | ⟨behind, rfl, hBehind⟩
  · rw [hSplit, List.append_nil, accepted_eq]
    exact .whole spaces sign hWhole hSome hFits
  · have hBehindText : IsText behind := fun c hc => by
      apply hText
      rw [hSplit]
      exact List.mem_append_right _ (List.mem_cons_of_mem _ hc)
    rcases exists_fraction_of_loop hBehindText
        (hNine whole behind hSplit) hFits hBehind with
      ⟨fraction, more, rfl, hFraction, hMax, hEnds, rfl⟩
    rw [hSplit, accepted_eq, scale_eq]
    exact .point spaces sign
      (List.forall_mem_append.mpr ⟨hWhole, hFraction⟩)
      (List.append_ne_nil_of_left_ne_nil hSome _) hMax hEnds

end Minmea

------------------------------------------------------------
-- The Conversion
------------------------------------------------------------

namespace Minmea

variable {t text : List UInt8}
variable {r : Int × Int × Int}

/- A number behind its sign. -/
theorem field_of_signed
    (hText : IsText t)
    (hNine : NineBehindPoint t)
    (spaces : Nat)
    (isMinus : Bool)
    (hLoop : floatLoop t (signValue (some isMinus)) (-1) 0 =
      some r)
    (hSet : r.2.1 ≠ -1) :
    DecimalField
      (List.replicate spaces (byte ' ') ++
        (signText (some isMinus) ++ t))
      (accepted r) := by
  have hSigned : signValue (some isMinus) ≠ 0 := by
    cases isMinus <;> decide
  cases t with
  | nil =>
      cases hLoop
      exact absurd rfl hSet
  | cons c t =>
      rcases front_cases (hText c List.mem_cons_self) hLoop with
        hDigit | ⟨hZero, _⟩ | ⟨rfl, _⟩ | ⟨_, hZero, _⟩
      · exact field_of_digit hText hNine hDigit spaces hLoop
      · exact absurd hZero hSigned
      · rw [floatLoop_point] at hLoop
        exact field_of_point
          (fun c hc => hText c (List.mem_cons_of_mem _ hc))
          (hNine [] t rfl) spaces hLoop hSet
      · exact absurd hZero hSigned

/- A number behind any number of spaces. -/
theorem field_of_floatLoop
    (hText : IsText t)
    (hNine : NineBehindPoint t)
    (spaces : Nat)
    (hLoop : floatLoop t 0 (-1) 0 = some r)
    (hSet : r.2.1 ≠ -1) :
    DecimalField (List.replicate spaces (byte ' ') ++ t)
      (accepted r) := by
  induction t generalizing spaces with
  | nil =>
      cases hLoop
      exact absurd rfl hSet
  | cons c t ih =>
      have hRest : IsText t := fun c hc =>
        hText c (List.mem_cons_of_mem _ hc)
      have hRestNine : NineBehindPoint t :=
        @NineBehindPoint.suffix t [c] hNine
      rcases front_cases (hText c List.mem_cons_self) hLoop with
        hDigit | ⟨_, isMinus, hSign⟩ | ⟨rfl, _⟩ | ⟨rfl, _, _⟩
      · exact @field_of_digit c t r hText hNine hDigit spaces
          none hLoop
      · have hCons : c :: t = signText (some isMinus) ++ t := by
          rw [← hSign]
          rfl
        rw [hCons, floatLoop_sign] at hLoop
        rw [hCons]
        exact field_of_signed hRest hRestNine spaces isMinus
          hLoop hSet
      · rw [floatLoop_point] at hLoop
        exact @field_of_point t r hRest (hNine [] t rfl) spaces
          none hLoop hSet
      · have hLater : floatLoop t 0 (-1) 0 = some r :=
          (floatLoop_spaces 1 t).symm.trans hLoop
        have hField := ih hRest hRestNine (spaces + 1) hLater
        rw [List.replicate_succ', List.append_assoc] at hField
        exact hField

/- What the conversion makes of the result of its loop. -/
theorem scanFloat_eq_some_iff
    {x : MinmeaFloat} :
    scanFloat (some text) = some x ↔
      ∃ r, floatLoop text 0 (-1) 0 = some r ∧
        (r = (0, -1, 0) ∧ x = ⟨0, 0⟩ ∨
          r.2.1 ≠ -1 ∧ x = accepted r) := by
  unfold scanFloat
  rw [Option.getD_some]
  cases floatLoop text 0 (-1) 0 with
  | none => simp
  | some r =>
      rcases r with ⟨sign, value, scale⟩
      simp only [Option.some.injEq, exists_eq_left',
        Prod.mk.injEq]
      by_cases hSet : value = -1
      · by_cases hMarked : sign ≠ 0 ∨ scale ≠ 0
        · rw [if_pos ⟨hMarked, hSet⟩]
          refine iff_of_false (by simp) ?_
          rintro (⟨⟨hSign, _, hScale⟩, _⟩ | ⟨hNot, _⟩)
          · rcases hMarked with hMarked | hMarked
            · exact hMarked hSign
            · exact hMarked hScale
          · exact hNot hSet
        · rw [if_neg (fun hBoth => hMarked hBoth.1),
            if_pos hSet, Option.some.injEq]
          simp only [not_or, not_not] at hMarked
          simp [hMarked.1, hMarked.2, hSet, eq_comm]
      · rw [if_neg (fun hBoth => hSet hBoth.2), if_neg hSet,
          Option.some.injEq]
        simp [hSet, accepted, eq_comm]

/- The value of a number is never the mark for none. -/
theorem scanFloat_of_number
    {sign : Option Bool}
    {n : Nat}
    {scale : Int}
    (hLoop : floatLoop text 0 (-1) 0 =
      some (signValue sign, (n : Int), scale)) :
    scanFloat (some text) = some ⟨applySign sign n,
      if scale = 0 then 1 else scale⟩ := by
  have hSet : (n : Int) ≠ -1 := by omega
  exact scanFloat_eq_some_iff.mpr
    ⟨_, hLoop, Or.inr ⟨hSet, (accepted_eq sign n scale).symm⟩⟩

/- The digits behind a point that nothing stands in front of. -/
theorem floatLoop_bare_fraction
    {fraction more : List UInt8}
    (hText : IsText (fraction ++ more))
    (hNine : (fraction ++ more).length ≤ 9)
    (hSome : fraction ≠ [])
    (hDigits : IsDigits fraction)
    (hFits : Numeral.value 10 fraction ≤ intMax)
    (hEnds : EndsDigits (Numeral.value 10 fraction) more)
    (s : Int) :
    floatLoop (fraction ++ more) s (-1) 1 =
      some (s, (Numeral.value 10 fraction : Int),
        10 ^ fraction.length) := by
  have hLoop := @floatLoop_of_fraction [] fraction more hText
    hNine hDigits hFits hEnds s
  rcases List.exists_cons_of_ne_nil hSome with ⟨c, digits, rfl⟩
  rw [List.cons_append, floatLoop_first
    (hDigits c List.mem_cons_self)]
  exact hLoop

theorem isText_append_right
    {front : List UInt8}
    (hText : IsText (front ++ t)) :
    IsText t := fun c hc =>
  hText c (List.mem_append_right _ hc)

/- Whole digits, or none, in front of a point. -/
theorem floatLoop_point_number
    {sign : Option Bool}
    {whole fraction more : List UInt8}
    (hText : IsText (whole ++ byte '.' :: (fraction ++ more)))
    (hNine : (fraction ++ more).length ≤ 9)
    (hDigits : IsDigits (whole ++ fraction))
    (hSome : whole ++ fraction ≠ [])
    (hFits : Numeral.value 10 (whole ++ fraction) ≤ intMax)
    (hEnds : EndsDigits
      (Numeral.value 10 (whole ++ fraction)) more) :
    floatLoop (whole ++ byte '.' :: (fraction ++ more))
        (signValue sign) (-1) 0 =
      some (signValue sign,
        (Numeral.value 10 (whole ++ fraction) : Int),
          10 ^ fraction.length) := by
  have hBehind : IsText (fraction ++ more) := fun c hc =>
    isText_append_right hText c (List.mem_cons_of_mem _ hc)
  unfold IsDigits at hDigits
  rw [List.forall_mem_append] at hDigits
  by_cases hWhole : whole = []
  · subst hWhole
    rw [List.nil_append, floatLoop_point]
    exact floatLoop_bare_fraction hBehind hNine hSome
      hDigits.2 hFits hEnds _
  · have hFirst := @le_runValue (Numeral.value 10 whole)
      (Int.natCast_nonneg _) fraction
    rw [runValue_value hDigits.2] at hFirst
    unfold intMax at hFits
    rw [floatLoop_whole hDigits.1 hWhole _ (by omega),
      floatLoop_point]
    exact floatLoop_of_fraction hBehind hNine hDigits.2 hFits
      hEnds _

/-
  A field is accepted exactly when it has one of the forms,
  and what is stored is the number that is written there.
-/
theorem scanFloat_iff
    (hText : IsText text)
    (hNine : NineBehindPoint text)
    {x : MinmeaFloat} :
    scanFloat (some text) = some x ↔ DecimalField text x := by
  constructor
  · intro hScan
    rcases scanFloat_eq_some_iff.mp hScan with
      ⟨r, hLoop, ⟨rfl, rfl⟩ | ⟨hSet, rfl⟩⟩
    · rcases eq_spaces_of_floatLoop hText hLoop with
        ⟨_, _, spaces, rfl⟩
      exact .blank spaces
    · exact field_of_floatLoop hText hNine 0 hLoop hSet
  · intro hField
    cases hField with
    | blank spaces =>
        have hLoop := floatLoop_spaces spaces []
        rw [List.append_nil] at hLoop
        exact scanFloat_eq_some_iff.mpr
          ⟨_, hLoop, Or.inl ⟨rfl, rfl⟩⟩
    | @whole spaces sign whole hDigits hSome hFits =>
        unfold intMax at hFits
        have hRead := @floatLoop_whole whole hDigits hSome []
          (signValue sign) (by omega)
        rw [List.append_nil] at hRead
        refine @scanFloat_of_number _ sign _ 0 ?_
        rw [floatLoop_spaces, floatLoop_sign, hRead]
        rfl
    | @point spaces sign whole fraction more hDigits hSome hFits
        hEnds =>
        rw [← scale_eq]
        apply scanFloat_of_number
        rw [floatLoop_spaces, floatLoop_sign]
        apply floatLoop_point_number
          (isText_append_right (isText_append_right hText))
          ?_ hDigits hSome hFits hEnds
        apply hNine (List.replicate spaces (byte ' ') ++
          (signText sign ++ whole))
        simp only [List.append_assoc]
    | @signBehindPoint spaces isMinus fraction more hDigits
        hSome hFits hEnds =>
        have hLength := hNine _ _ rfl
        rw [List.length_append] at hLength
        have hSigned : IsText (signText (some isMinus) ++
            (fraction ++ more)) := fun c hc =>
          isText_append_right hText c
            (List.mem_cons_of_mem _ hc)
        rw [← scale_eq]
        apply scanFloat_of_number
        rw [floatLoop_spaces, floatLoop_point, floatLoop_sign]
        exact floatLoop_bare_fraction
          (isText_append_right hSigned) (by omega) hSome hDigits
          hFits hEnds _

theorem nineBehindPoint_of_dropWhile
    (hShort : (text.dropWhile (· != byte '.')).length ≤ 10) :
    NineBehindPoint text := by
  rintro before behind rfl
  rw [List.dropWhile_append] at hShort
  split at hShort
  · rw [List.dropWhile_cons_of_neg (by simp)] at hShort
    rw [List.length_cons] at hShort
    omega
  · rw [List.length_append, List.length_cons] at hShort
    omega

/-
  A digit that no longer fits ends the number, and a letter
  behind it is not looked at.
-/
theorem scanFloat_iff_long_fraction :
    scanFloat (some (ascii " -21474836.478x")) =
      some ⟨-2147483647, 100⟩ := by
  apply (scanFloat_iff (by unfold IsText; decide +kernel)
    (nineBehindPoint_of_dropWhile (by decide))).mpr
  have hEnds : EndsDigits
      (Numeral.value 10 (ascii "21474836" ++ ascii "47"))
      (ascii "8x") :=
    endsDigits_cons_iff.mpr
      ⟨8, by decide, by decide, by decide⟩
  exact @DecimalField.point 1 (some true) (ascii "21474836")
    (ascii "47") (ascii "8x") (by unfold IsDigits; decide +kernel)
    (by decide) (by decide) hEnds

end Minmea
