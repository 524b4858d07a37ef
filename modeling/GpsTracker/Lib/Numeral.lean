import GpsTracker.Lib.CString
import Mathlib.Data.Nat.Digits.Defs

/-
  Integer numerals of C, and the longest one that begins a
  text.

  A form is a relation between strings and their values. A
  text is read by the longest prefix of the form; a numeral
  is an optional sign and a magnitude, whose digits may have
  a base prefix.

  Main declarations:
    * `Munch.Reads`, `Munch.ReadsLongest`, `Munch.Run`
    * `Munch.readsLongest_run_iff`
    * `Numeral.Magnitude`, `Numeral.Signed`
    * `Numeral.readsLongest_signed_iff`
    * `Numeral.readsLongest_magnitude_iff`
    * `Numeral.readsLongest_magnitude_hexStart_iff`
    * `Numeral.readsLongest_magnitude_barePrefix_iff`
-/

------------------------------------------------------------
-- The Longest Prefix
------------------------------------------------------------

namespace Munch

variable {α β γ : Type}

/- A prefix of the form, with its value, before `rest`. -/
def Reads
    (form : List α → β → Prop)
    (text : List α)
    (value : β)
    (rest : List α) : Prop :=
  ∃ part, text = part ++ rest ∧ form part value

/- No prefix of the form is longer. -/
def ReadsLongest
    (form : List α → β → Prop)
    (text : List α)
    (value : β)
    (rest : List α) : Prop :=
  Reads form text value rest ∧
    ∀ value' rest', Reads form text value' rest' →
      rest.length ≤ rest'.length

/-
  Two readings that correspond, up to a change of the value,
  are longest together.
-/
theorem readsLongest_iff_of_reads_iff
    {form : List α → β → Prop}
    {form' : List α → γ → Prop}
    {text text' : List α}
    (f : γ → β)
    (hReads : ∀ value rest,
      Reads form text value rest ↔
        ∃ value', Reads form' text' value' rest ∧
          value = f value')
    {value : β}
    {rest : List α} :
    ReadsLongest form text value rest ↔
      ∃ value', ReadsLongest form' text' value' rest ∧
        value = f value' := by
  have hLonger (rest : List α) :
      (∀ value' rest', Reads form text value' rest' →
          rest.length ≤ rest'.length) ↔
        ∀ value' rest', Reads form' text' value' rest' →
          rest.length ≤ rest'.length := by
    constructor
    · intro hAll value' rest' hOther
      exact hAll (f value') rest'
        ((hReads _ _).mpr ⟨value', hOther, rfl⟩)
    · intro hAll value' rest' hOther
      rcases (hReads _ _).mp hOther with ⟨value'', hRead, _⟩
      exact hAll value'' rest' hRead
  unfold ReadsLongest
  rw [hReads, hLonger]
  constructor
  · rintro ⟨⟨value', hRead, hValue⟩, hAll⟩
    exact ⟨value', ⟨hRead, hAll⟩, hValue⟩
  · rintro ⟨value', ⟨hRead, hAll⟩, hValue⟩
    exact ⟨⟨value', hRead, hValue⟩, hAll⟩

/- Texts with the same readings are read alike. -/
theorem readsLongest_congr
    {form form' : List α → β → Prop}
    {text text' : List α}
    (hReads : ∀ value rest,
      Reads form text value rest ↔
        Reads form' text' value rest)
    {value : β}
    {rest : List α} :
    ReadsLongest form text value rest ↔
      ReadsLongest form' text' value rest := by
  simp only [ReadsLongest, hReads]

/- A non-empty run of characters of one class. -/
def Run
    (accepts : α → Bool)
    (f : List α → β)
    (part : List α)
    (value : β) : Prop :=
  part ≠ [] ∧ (∀ a ∈ part, accepts a = true) ∧
    value = f part

variable {accepts : α → Bool}
variable {f : List α → β}
variable {text rest : List α}
variable {value : β}

/- What the class accepts at the start of the text is read. -/
theorem reads_takeWhile
    (hRun : text.takeWhile accepts ≠ []) :
    Reads (Run accepts f) text (f (text.takeWhile accepts))
      (text.dropWhile accepts) :=
  ⟨text.takeWhile accepts,
    List.takeWhile_append_dropWhile.symm, hRun,
    fun _ hMem => List.mem_takeWhile_imp hMem, rfl⟩

/- A run ends inside the characters accepted, or with them. -/
theorem Reads.takeWhile_eq
    (hReads : Reads (Run accepts f) text value rest) :
    ∃ part, part ≠ [] ∧ value = f part ∧
      text.takeWhile accepts =
        part ++ rest.takeWhile accepts ∧
      text.dropWhile accepts = rest.dropWhile accepts := by
  rcases hReads with ⟨part, rfl, hNonempty, hAll, hValue⟩
  exact ⟨part, hNonempty, hValue,
    List.takeWhile_append_of_pos hAll,
    List.dropWhile_append_of_pos hAll⟩

theorem not_reads_run
    (hRun : text.takeWhile accepts = []) :
    ¬ Reads (Run accepts f) text value rest := by
  intro hReads
  rcases hReads.takeWhile_eq with ⟨part, hPart, _, hTake, _⟩
  rw [hRun] at hTake
  exact hPart (List.append_eq_nil_iff.mp hTake.symm).1

/- The longest run is all that the class accepts. -/
theorem readsLongest_run_iff
    (hRun : text.takeWhile accepts ≠ []) :
    ReadsLongest (Run accepts f) text value rest ↔
      value = f (text.takeWhile accepts) ∧
        rest = text.dropWhile accepts := by
  constructor
  · rintro ⟨hReads, hLongest⟩
    rcases hReads.takeWhile_eq with
      ⟨part, _, hValue, hTake, hDrop⟩
    have hLe := hLongest _ _ (reads_takeWhile hRun)
    have hSplit := congrArg List.length
      (@List.takeWhile_append_dropWhile _ accepts rest)
    rw [List.length_append, ← hDrop] at hSplit
    have hNone : rest.takeWhile accepts = [] :=
      List.eq_nil_of_length_eq_zero (by omega)
    have hRest := @List.takeWhile_append_dropWhile
      _ accepts rest
    rw [hNone, List.nil_append, ← hDrop] at hRest
    rw [hNone, List.append_nil] at hTake
    exact ⟨by rw [hValue, hTake], hRest.symm⟩
  · rintro ⟨rfl, rfl⟩
    refine ⟨reads_takeWhile hRun, ?_⟩
    intro value' rest' hOther
    rcases hOther.takeWhile_eq with ⟨_, _, _, _, hDrop⟩
    rw [hDrop]
    exact (List.dropWhile_suffix _).length_le

end Munch

------------------------------------------------------------
-- Numerals
------------------------------------------------------------

namespace Numeral

open Munch

/- The value of a digit or a letter, in any base. -/
def digit? (ch : UInt8) : Option Nat :=
  ((ascii "0123456789abcdefghijklmnopqrstuvwxyz").idxOf?
      ch).or
    ((ascii "0123456789ABCDEFGHIJKLMNOPQRSTUVWXYZ").idxOf?
      ch)

/- A character with a value below the base. -/
def isDigit
    (base : Nat)
    (ch : UInt8) : Bool :=
  (digit? ch).any (· < base)

/- The value of a string of digits, the last one lowest. -/
def value
    (base : Nat)
    (digits : List UInt8) : Nat :=
  Nat.ofDigits base (digits.reverse.filterMap digit?)

/- A non-empty string of digits. -/
abbrev Digits (base : Nat) :
    List UInt8 → Nat → Prop :=
  Run (isDigit base) (value base)

/-
  Numerals without a sign. Base 0 reads the base off the
  numeral, and in base 16 the prefix may stand, too.
-/
inductive Magnitude
    (base : Nat)
    (part : List UInt8)
    (n : Nat) : Prop where
  | digits
      (hBase : base ≠ 0)
      (hDigits : Digits base part n)
  | decimal
      (hBase : base = 0)
      (hHead : part.head? ≠ some (byte '0'))
      (hDigits : Digits 10 part n)
  | octal
      (hBase : base = 0)
      (hHead : part.head? = some (byte '0'))
      (hDigits : Digits 8 part n)
  | hexadecimal
      (x : UInt8)
      (digits : List UInt8)
      (hBase : base = 0 ∨ base = 16)
      (hPrefix : x = byte 'x' ∨ x = byte 'X')
      (hPart : part = byte '0' :: x :: digits)
      (hDigits : Digits 16 digits n)

/- A string of the form, with a sign or without one. -/
inductive Signed
    (form : List UInt8 → Nat → Prop) :
    List UInt8 → Int → Prop where
  | plain
      {part : List UInt8}
      {n : Nat}
      (hForm : form part n) :
      Signed form part n
  | plus
      {part : List UInt8}
      {n : Nat}
      (hForm : form part n) :
      Signed form (byte '+' :: part) n
  | minus
      {part : List UInt8}
      {n : Nat}
      (hForm : form part n) :
      Signed form (byte '-' :: part) (-n)

theorem value_append
    (base : Nat)
    (digits : List UInt8)
    {ch : UInt8}
    {d : Nat}
    (hDigit : digit? ch = some d) :
    value base (digits ++ [ch]) =
      value base digits * base + d := by
  rw [value, List.reverse_append, List.reverse_singleton,
    List.singleton_append, List.filterMap_cons_some hDigit,
    Nat.ofDigits_cons, value]
  simp [Nat.mul_comm, Nat.add_comm]

end Numeral

------------------------------------------------------------
-- Signs
------------------------------------------------------------

namespace Numeral

open Munch

/- The text begins with a minus sign. -/
def negative (text : List UInt8) : Bool :=
  text.head? = some (byte '-')

/- The text behind its sign, if it begins with one. -/
def unsigned : List UInt8 → List UInt8
| [] => []
| ch :: text =>
    if ch = byte '-' ∨ ch = byte '+' then text
    else ch :: text

theorem length_unsigned_le
    (text : List UInt8) :
    (unsigned text).length ≤ text.length := by
  cases text with
  | nil => exact le_refl 0
  | cons ch text =>
      rw [unsigned]
      split
      · exact Nat.le_succ _
      · exact le_refl _

/- The number with this sign and magnitude. -/
def signed
    (isNegative : Bool)
    (n : Nat) : Int :=
  if isNegative then -n else n

/-
  A sign is no beginning of the form: the text is read
  behind its sign.
-/
theorem reads_signed_iff
    {form : List UInt8 → Nat → Prop}
    (hNil : ∀ n, ¬ form [] n)
    (hSign : ∀ ch part n, form (ch :: part) n →
      ch ≠ byte '-' ∧ ch ≠ byte '+')
    {text rest : List UInt8}
    {v : Int} :
    Reads (Signed form) text v rest ↔
      ∃ n, Reads form (unsigned text) n rest ∧
        v = signed (negative text) n := by
  constructor
  · rintro ⟨part, rfl, hSigned⟩
    cases hSigned with
    | plain hForm =>
        rename_i n
        cases part with
        | nil => exact absurd hForm (hNil n)
        | cons ch part =>
            have hCh := hSign ch part n hForm
            refine ⟨n, ⟨ch :: part, ?_, hForm⟩, ?_⟩
            · simp [unsigned, hCh.1, hCh.2]
            · simp [negative, signed, hCh.1]
    | plus hForm =>
        rename_i part n
        refine ⟨n, ⟨part, ?_, hForm⟩, ?_⟩
        · simp [unsigned]
        · simp [negative, signed, byte]
    | minus hForm =>
        rename_i part n
        refine ⟨n, ⟨part, ?_, hForm⟩, ?_⟩
        · simp [unsigned]
        · simp [negative, signed]
  · rintro ⟨n, ⟨part, hText, hForm⟩, rfl⟩
    cases text with
    | nil =>
        obtain rfl : part = [] :=
          (List.append_eq_nil_iff.mp hText.symm).1
        exact absurd hForm (hNil n)
    | cons ch text =>
        rw [unsigned] at hText
        by_cases hMinus : ch = byte '-'
        · subst hMinus
          rw [if_pos (Or.inl rfl)] at hText
          refine ⟨byte '-' :: part, by rw [hText]; rfl, ?_⟩
          simpa [negative, signed] using Signed.minus hForm
        · by_cases hPlus : ch = byte '+'
          · subst hPlus
            rw [if_pos (Or.inr rfl)] at hText
            refine ⟨byte '+' :: part, by rw [hText]; rfl, ?_⟩
            simpa [negative, signed, hMinus] using
              Signed.plus hForm
          · rw [if_neg (by simp [hMinus, hPlus])] at hText
            refine ⟨part, hText, ?_⟩
            simpa [negative, signed, hMinus] using
              Signed.plain hForm

end Numeral

------------------------------------------------------------
-- Magnitudes
------------------------------------------------------------

namespace Numeral

open Munch

theorem isDigit_zero
    {base : Nat}
    (hBase : 0 < base) :
    isDigit base (byte '0') = true := by
  have hDigit : digit? (byte '0') = some 0 := by decide
  simp [isDigit, hDigit, hBase]

theorem value_zero
    (base : Nat) :
    value base [byte '0'] = 0 := by
  have hDigit : digit? (byte '0') = some 0 := by decide
  simp [value, hDigit]

/- A sign is no digit in any base. -/
theorem ne_sign_of_isDigit
    {base : Nat}
    {ch : UInt8}
    (hDigit : isDigit base ch = true) :
    ch ≠ byte '-' ∧ ch ≠ byte '+' := by
  have hMinus : digit? (byte '-') = none := by decide
  have hPlus : digit? (byte '+') = none := by decide
  constructor
  · rintro rfl
    simp [isDigit, hMinus] at hDigit
  · rintro rfl
    simp [isDigit, hPlus] at hDigit

/- The letter of the prefix is no digit up to base 16. -/
theorem isDigit_letter
    {base : Nat}
    {x : UInt8}
    (hBase : base ≤ 16)
    (hPrefix : x = byte 'x' ∨ x = byte 'X') :
    isDigit base x = false := by
  have hLower : digit? (byte 'x') = some 33 := by decide
  have hUpper : digit? (byte 'X') = some 33 := by decide
  rcases hPrefix with rfl | rfl
  · simp [isDigit, hLower]
    omega
  · simp [isDigit, hUpper]
    omega

theorem not_magnitude_nil
    {base n : Nat} :
    ¬ Magnitude base [] n := by
  intro hMagnitude
  cases hMagnitude with
  | digits _ hDigits => exact hDigits.1 rfl
  | decimal _ _ hDigits => exact hDigits.1 rfl
  | octal _ _ hDigits => exact hDigits.1 rfl
  | hexadecimal _ _ _ _ hPart => cases hPart

theorem ne_sign_of_magnitude
    {base n : Nat}
    {ch : UInt8}
    {part : List UInt8}
    (hMagnitude : Magnitude base (ch :: part) n) :
    ch ≠ byte '-' ∧ ch ≠ byte '+' := by
  cases hMagnitude with
  | digits _ hDigits =>
      exact ne_sign_of_isDigit
        (hDigits.2.1 ch List.mem_cons_self)
  | decimal _ _ hDigits =>
      exact ne_sign_of_isDigit
        (hDigits.2.1 ch List.mem_cons_self)
  | octal _ _ hDigits =>
      exact ne_sign_of_isDigit
        (hDigits.2.1 ch List.mem_cons_self)
  | hexadecimal _ _ _ _ hPart =>
      cases hPart
      decide

theorem reads_signed_magnitude_iff
    {base : Nat}
    {text rest : List UInt8}
    {v : Int} :
    Reads (Signed (Magnitude base)) text v rest ↔
      ∃ n, Reads (Magnitude base) (unsigned text) n rest ∧
        v = signed (negative text) n :=
  reads_signed_iff
    (fun _ => not_magnitude_nil)
    (fun _ _ _ => ne_sign_of_magnitude)

/- The longest numeral is the longest magnitude, signed. -/
theorem readsLongest_signed_iff
    {base : Nat}
    {text rest : List UInt8}
    {v : Int} :
    ReadsLongest (Signed (Magnitude base)) text v rest ↔
      ∃ n, ReadsLongest (Magnitude base) (unsigned text) n
          rest ∧
        v = signed (negative text) n :=
  readsLongest_iff_of_reads_iff (signed (negative text))
    (fun _ _ => reads_signed_magnitude_iff)

/- The base of a numeral that has no base prefix. -/
def radix
    (base : Nat)
    (text : List UInt8) : Nat :=
  if base = 0 then
    if text.head? = some (byte '0') then 8 else 10
  else
    base

/- The text begins with a base prefix that the base admits. -/
def HexStart
    (base : Nat)
    (text : List UInt8) : Prop :=
  (base = 0 ∨ base = 16) ∧
    ∃ x rest,
      text = byte '0' :: x :: rest ∧
        (x = byte 'x' ∨ x = byte 'X')

theorem reads_magnitude_iff
    {base : Nat}
    {text rest : List UInt8}
    {n : Nat}
    (hNot : ¬ HexStart base text) :
    Reads (Magnitude base) text n rest ↔
      Reads (Digits (radix base text)) text n rest := by
  constructor
  · rintro ⟨part, rfl, hMagnitude⟩
    cases hMagnitude with
    | digits hBase hDigits =>
        refine ⟨part, rfl, ?_⟩
        rwa [radix, if_neg hBase]
    | decimal hBase hHead hDigits =>
        refine ⟨part, rfl, ?_⟩
        rwa [radix, if_pos hBase, List.head?_append_of_ne_nil
          _ hDigits.1, if_neg hHead]
    | octal hBase hHead hDigits =>
        refine ⟨part, rfl, ?_⟩
        rwa [radix, if_pos hBase, List.head?_append_of_ne_nil
          _ hDigits.1, if_pos hHead]
    | hexadecimal x digits hBase hPrefix hPart hDigits =>
        subst hPart
        exact absurd ⟨hBase, x, digits ++ rest, rfl, hPrefix⟩
          hNot
  · rintro ⟨part, rfl, hDigits⟩
    refine ⟨part, rfl, ?_⟩
    rw [radix, List.head?_append_of_ne_nil _ hDigits.1]
      at hDigits
    by_cases hBase : base = 0
    · rw [if_pos hBase] at hDigits
      by_cases hHead : part.head? = some (byte '0')
      · rw [if_pos hHead] at hDigits
        exact Magnitude.octal hBase hHead hDigits
      · rw [if_neg hHead] at hDigits
        exact Magnitude.decimal hBase hHead hDigits
    · rw [if_neg hBase] at hDigits
      exact Magnitude.digits hBase hDigits

/- A text without a base prefix is read digit by digit. -/
theorem readsLongest_magnitude_iff
    {base : Nat}
    {text rest : List UInt8}
    {n : Nat}
    (hNot : ¬ HexStart base text)
    (hRun : text.takeWhile (isDigit (radix base text)) ≠ []) :
    ReadsLongest (Magnitude base) text n rest ↔
      n = value (radix base text)
          (text.takeWhile (isDigit (radix base text))) ∧
        rest = text.dropWhile (isDigit (radix base text)) :=
  (readsLongest_congr
      (fun _ _ => reads_magnitude_iff hNot)).trans
    (readsLongest_run_iff hRun)

end Numeral

------------------------------------------------------------
-- Base Prefixes
------------------------------------------------------------

namespace Numeral

open Munch

variable {base n : Nat}
variable {x : UInt8}
variable {text rest : List UInt8}

/- Without its letter the prefix is the numeral "0". -/
theorem digits_before_letter
    {b : Nat}
    (hBase : b ≤ 16)
    (hPrefix : x = byte 'x' ∨ x = byte 'X')
    {part : List UInt8}
    (hText : byte '0' :: x :: text = part ++ rest)
    (hDigits : Digits b part n) :
    n = 0 ∧ rest = x :: text := by
  rcases hDigits with ⟨hNonempty, hAll, rfl⟩
  cases part with
  | nil => exact absurd rfl hNonempty
  | cons ch part =>
      rw [List.cons_append, List.cons.injEq] at hText
      rcases hText with ⟨rfl, hText⟩
      cases part with
      | nil => exact ⟨value_zero b, hText.symm⟩
      | cons ch part =>
          rw [List.cons_append, List.cons.injEq] at hText
          rcases hText with ⟨rfl, hText⟩
          have hDigit := hAll x (by simp)
          rw [isDigit_letter hBase hPrefix] at hDigit
          cases hDigit

/- A prefix is read whole, with its digits, or as "0". -/
theorem reads_magnitude_hexStart_iff
    (hBase : base = 0 ∨ base = 16)
    (hPrefix : x = byte 'x' ∨ x = byte 'X') :
    Reads (Magnitude base) (byte '0' :: x :: text) n rest ↔
      (n = 0 ∧ rest = x :: text) ∨
        Reads (Digits 16) text n rest := by
  constructor
  · rintro ⟨part, hText, hMagnitude⟩
    cases hMagnitude with
    | digits hNonzero hDigits =>
        have hSixteen := hBase.resolve_left hNonzero
        exact Or.inl (digits_before_letter
          (Nat.le_of_eq hSixteen) hPrefix hText hDigits)
    | decimal _ _ hDigits =>
        exact Or.inl (digits_before_letter (by decide)
          hPrefix hText hDigits)
    | octal _ _ hDigits =>
        exact Or.inl (digits_before_letter (by decide)
          hPrefix hText hDigits)
    | hexadecimal x' digits _ _ hPart hDigits =>
        subst hPart
        simp only [List.cons_append, List.cons.injEq,
          true_and] at hText
        exact Or.inr ⟨digits, hText.2, hDigits⟩
  · rintro (⟨rfl, rfl⟩ | ⟨digits, rfl, hDigits⟩)
    · refine ⟨[byte '0'], rfl, ?_⟩
      have hZero (b : Nat) (hb : 0 < b) :
          Digits b [byte '0'] 0 :=
        ⟨by simp, by simpa using isDigit_zero hb,
          (value_zero b).symm⟩
      rcases hBase with hAuto | hSixteen
      · exact Magnitude.octal hAuto rfl (hZero 8 (by decide))
      · exact Magnitude.digits (by omega)
          (hZero base (by omega))
    · exact ⟨byte '0' :: x :: digits, rfl,
        Magnitude.hexadecimal x digits hBase hPrefix rfl
          hDigits⟩

/- A prefix with digits behind it is read with them. -/
theorem readsLongest_magnitude_hexStart_iff
    (hBase : base = 0 ∨ base = 16)
    (hPrefix : x = byte 'x' ∨ x = byte 'X')
    (hRun : text.takeWhile (isDigit 16) ≠ []) :
    ReadsLongest (Magnitude base)
        (byte '0' :: x :: text) n rest ↔
      n = value 16 (text.takeWhile (isDigit 16)) ∧
        rest = text.dropWhile (isDigit 16) := by
  have hReads (n : Nat) (rest : List UInt8) :=
    @reads_magnitude_hexStart_iff base n x text rest
      hBase hPrefix
  have hShorter : (text.dropWhile (isDigit 16)).length ≤
      text.length :=
    (List.dropWhile_suffix _).length_le
  rw [← readsLongest_run_iff hRun]
  constructor
  · rintro ⟨hRead, hLongest⟩
    rcases (hReads n rest).mp hRead with ⟨_, rfl⟩ | hRead
    · have hLe := hLongest _ _
        ((hReads _ _).mpr (Or.inr (reads_takeWhile hRun)))
      rw [List.length_cons] at hLe
      omega
    · refine ⟨hRead, fun n' rest' hOther => ?_⟩
      exact hLongest n' rest'
        ((hReads n' rest').mpr (Or.inr hOther))
  · rintro ⟨hRead, hLongest⟩
    refine ⟨(hReads n rest).mpr (Or.inr hRead), ?_⟩
    intro n' rest' hOther
    rcases (hReads n' rest').mp hOther with ⟨_, rfl⟩ | hOther
    · have hLe := hLongest _ _ (reads_takeWhile hRun)
      rw [List.length_cons]
      omega
    · exact hLongest n' rest' hOther

/- A prefix with no digit behind it is read as "0". -/
theorem readsLongest_magnitude_barePrefix_iff
    (hBase : base = 0 ∨ base = 16)
    (hPrefix : x = byte 'x' ∨ x = byte 'X')
    (hRun : text.takeWhile (isDigit 16) = []) :
    ReadsLongest (Magnitude base)
        (byte '0' :: x :: text) n rest ↔
      n = 0 ∧ rest = x :: text := by
  have hReads (n : Nat) (rest : List UInt8) :
      Reads (Magnitude base) (byte '0' :: x :: text) n rest ↔
        n = 0 ∧ rest = x :: text := by
    rw [reads_magnitude_hexStart_iff hBase hPrefix]
    have hNone : ¬ Reads (Digits 16) text n rest :=
      not_reads_run hRun
    simp [hNone]
  rw [ReadsLongest, hReads]
  constructor
  · exact fun hRead => hRead.1
  · intro hRead
    refine ⟨hRead, fun n' rest' hOther => ?_⟩
    rw [((hReads n' rest').mp hOther).2, hRead.2]

end Numeral
