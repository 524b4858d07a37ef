import GpsTracker.Lib.Decimal
import GpsTracker.Lib.Xor
import GpsTracker.Minmea.Scan
import GpsTracker.Utils.Strtol

/-
  What `minmea_check` accepts.

  A sentence is a '$', printable characters, a '*' with the
  checksum of these characters in two digits, and a newline.
  The checksum is the one of `minmea_checksum`; it may be
  absent unless the check is strict.

  Main declarations:
    * `Minmea.checksum`
    * `Minmea.WellFormed`
    * `Minmea.check_append_iff`, `Minmea.check_iff`
-/

open CString Stdlib

------------------------------------------------------------
-- The Loops
------------------------------------------------------------

namespace Minmea

/- The loop of `minmea_checksum`. -/
def rawChecksumLoop :
    List UInt8 → UInt8 → UInt8
| [], checksum => checksum
| c :: sentence, checksum =>
    if c ≠ byte '*' then
      rawChecksumLoop sentence (checksum ^^^ c)
    else
      checksum

/- `minmea_checksum` -/
def checksum (sentence : List UInt8) : UInt8 :=
  if peek sentence = byte '$' then
    rawChecksumLoop sentence.tail 0
  else
    rawChecksumLoop sentence 0

/- A character that the checksum of a sentence covers. -/
def isBody (c : UInt8) : Bool :=
  c ≠ byte '*' && isprint c

theorem rawChecksumLoop_append
    {body : List UInt8}
    (hStar : byte '*' ∉ body)
    (rest : List UInt8)
    (checksum : UInt8) :
    rawChecksumLoop (body ++ byte '*' :: rest) checksum =
      checksum ^^^ Xor.checksum body := by
  induction body generalizing checksum with
  | nil => simp [rawChecksumLoop, Xor.checksum]
  | cons c body ih =>
      rw [List.mem_cons, not_or] at hStar
      rw [List.cons_append, rawChecksumLoop,
        if_pos (Ne.symm hStar.1), ih hStar.2,
        Xor.checksum_cons, UInt8.xor_assoc]

/- The loop stops at the first other character. -/
theorem checksumLoop_eq
    (sentence : List UInt8)
    (checksum : UInt8) :
    checksumLoop sentence checksum =
      (checksum ^^^ Xor.checksum (sentence.takeWhile isBody),
        sentence.dropWhile isBody) := by
  induction sentence generalizing checksum with
  | nil => simp [checksumLoop, Xor.checksum]
  | cons c sentence ih =>
      rw [checksumLoop]
      by_cases hBody : c ≠ byte '*' ∧ isprint c = true
      · have hTrue : isBody c = true := by
          simpa [isBody] using hBody
        rw [if_pos hBody, ih, List.takeWhile_cons_of_pos hTrue,
          List.dropWhile_cons_of_pos hTrue, Xor.checksum_cons,
          UInt8.xor_assoc]
      · have hFalse : isBody c = false := by
          rw [← Bool.not_eq_true]
          simpa [isBody] using hBody
        have hNot : ¬ isBody c = true := by
          rw [hFalse]
          decide
        rw [if_neg hBody, List.takeWhile_cons_of_neg hNot,
          List.dropWhile_cons_of_neg hNot]
        simp [Xor.checksum]

/- `hex2int` reads the digits of base 16. -/
theorem hex2int_eq
    (c : UInt8) :
    hex2int c =
      if Numeral.isDigit 16 c then
        (((Numeral.digit? c).getD 0 : Nat) : Int)
      else
        -1 := by
  have hAll : ∀ n : Fin 256,
      hex2int (UInt8.ofFin n) =
        if (digitValue? (UInt8.ofFin n)).any (· < 16) then
          (((digitValue? (UInt8.ofFin n)).getD 0 : Nat) : Int)
        else
          -1 := by
    decide +kernel
  rw [Numeral.isDigit, ← digitValue?_eq]
  exact hAll c.toFin

/- A digit of the checksum could stand in the text. -/
theorem isBody_of_isDigit
    {c : UInt8}
    (hDigit : Numeral.isDigit 16 c = true) :
    isBody c = true := by
  have hAll : ∀ n : Fin 256,
      (digitValue? (UInt8.ofFin n)).any (· < 16) = true →
        isBody (UInt8.ofFin n) = true := by
    decide +kernel
  rw [Numeral.isDigit, ← digitValue?_eq] at hDigit
  exact hAll c.toFin hDigit

theorem hex2int_ne_iff
    (c : UInt8) :
    hex2int c ≠ -1 ↔ Numeral.isDigit 16 c = true := by
  rw [hex2int_eq]
  split
  · next hDigit => simp only [hDigit, iff_true]; omega
  · next hNot => simp [hNot]

end Minmea

------------------------------------------------------------
-- Well-Formed Sentences
------------------------------------------------------------

namespace Minmea

/- A sentence may end in a newline. -/
def LineEnd (stop : List UInt8) : Prop :=
  stop = [] ∨ stop = [10] ∨ stop = crlf

/- Two digits that spell a checksum. -/
def Spells
    (high low : UInt8)
    (sum : UInt8) : Prop :=
  Numeral.Digits 16 [high, low] sum.toNat

/-
  A sentence of printable characters, with its checksum in
  front of its end, or without one.
-/
inductive WellFormed
    (strict : Bool)
    (sentence : List UInt8) : Prop where
  | checked
      (body : List UInt8)
      (high low : UInt8)
      (stop : List UInt8)
      (hSentence : sentence = byte '$' ::
        (body ++ byte '*' :: high :: low :: stop))
      (hBody : ∀ c ∈ body, isBody c = true)
      (hSum : Spells high low (checksum sentence))
      (hStop : LineEnd stop)
  | unchecked
      (hStrict : strict = false)
      (body stop : List UInt8)
      (hSentence : sentence = byte '$' :: (body ++ stop))
      (hBody : ∀ c ∈ body, isBody c = true)
      (hStop : LineEnd stop)

/- What may stand behind the characters of a sentence. -/
def Closing
    (strict : Bool)
    (sum : UInt8)
    (left : List UInt8) : Prop :=
  (∃ high low stop, left = byte '*' :: high :: low :: stop ∧
    Spells high low sum ∧ LineEnd stop) ∨
  (strict = false ∧ LineEnd left)

theorem checkEnd_iff
    (stop : List UInt8) :
    checkEnd stop = true ↔ LineEnd stop := by
  simp [checkEnd, LineEnd]

/- A newline begins with no character of a sentence. -/
theorem LineEnd.isBody_peek
    {stop : List UInt8}
    (hStop : LineEnd stop) :
    isBody (peek stop) = false := by
  rcases hStop with rfl | rfl | rfl <;> decide

theorem LineEnd.star_notMem
    {stop : List UInt8}
    (hStop : LineEnd stop) :
    byte '*' ∉ stop := by
  rcases hStop with rfl | rfl | rfl <;> decide

theorem isBody_star : isBody (byte '*') = false := by
  decide

/- The two digits, one by one. -/
theorem spells_iff_digits
    (high low sum : UInt8) :
    Spells high low sum ↔
      ∃ h l, Numeral.digit? high = some h ∧ h < 16 ∧
        Numeral.digit? low = some l ∧ l < 16 ∧
          sum.toNat = h * 16 + l := by
  have hValue {h l : Nat}
      (hHigh : Numeral.digit? high = some h)
      (hLow : Numeral.digit? low = some l) :
      Numeral.value 16 [high, low] = h * 16 + l := by
    rw [show [high, low] = ([] ++ [high]) ++ [low] from rfl,
      Numeral.value_append 16 _ hLow,
      Numeral.value_append 16 _ hHigh]
    simp [Numeral.value]
  unfold Spells Numeral.Digits Munch.Run
  rw [List.forall_mem_cons, List.forall_mem_singleton,
    Numeral.isDigit_iff, Numeral.isDigit_iff]
  constructor
  · rintro ⟨_, ⟨⟨h, hHigh, hh⟩, l, hLow, hl⟩, hSum⟩
    rw [hValue hHigh hLow] at hSum
    exact ⟨h, l, hHigh, hh, hLow, hl, hSum⟩
  · rintro ⟨h, l, hHigh, hh, hLow, hl, hSum⟩
    refine ⟨List.cons_ne_nil _ _,
      ⟨⟨h, hHigh, hh⟩, l, hLow, hl⟩, ?_⟩
    rw [hValue hHigh hLow, hSum]

/- Two digits spell one checksum. -/
theorem Spells.unique
    {high low sum sum' : UInt8}
    (hSum : Spells high low sum)
    (hSum' : Spells high low sum') :
    sum = sum' :=
  UInt8.toNat_inj.mp (hSum.2.2.trans hSum'.2.2.symm)

/- The comparison that `minmea_check` makes. -/
theorem spells_iff
    (high low sum : UInt8) :
    Spells high low sum ↔
      hex2int high ≠ -1 ∧ hex2int low ≠ -1 ∧
        (sum.toNat : Int) =
          hex2int high * 16 + hex2int low := by
  have hHex (c : UInt8) (d : Nat)
      (hDigit : Numeral.digit? c = some d)
      (hd : d < 16) :
      hex2int c = d := by
    have hIs : Numeral.isDigit 16 c = true := by
      simp [Numeral.isDigit, hDigit, hd]
    rw [hex2int_eq, if_pos hIs, hDigit, Option.getD_some]
  have hSome (c : UInt8)
      (hc : hex2int c ≠ -1) :
      ∃ d, Numeral.digit? c = some d ∧ d < 16 := by
    exact (Numeral.isDigit_iff 16 c).mp ((hex2int_ne_iff c).mp hc)
  rw [spells_iff_digits]
  constructor
  · rintro ⟨h, l, hHigh, hh, hLow, hl, hSum⟩
    rw [hHex high h hHigh hh, hHex low l hLow hl]
    omega
  · rintro ⟨hHigh, hLow, hSum⟩
    rcases hSome high hHigh with ⟨h, hh, hhLess⟩
    rcases hSome low hLow with ⟨l, hl, hlLess⟩
    rw [hHex high h hh hhLess, hHex low l hl hlLess] at hSum
    exact ⟨h, l, hh, hhLess, hl, hlLess, by omega⟩

/- What the code does behind the loop. -/
theorem closing_iff
    (strict : Bool)
    (sum : UInt8)
    (left : List UInt8) :
    Closing strict sum left ↔
      if peek left = byte '*' then
        (hex2int (peek left.tail) ≠ -1 ∧
          hex2int (peek left.tail.tail) ≠ -1 ∧
            (sum.toNat : Int) = hex2int (peek left.tail) * 16 +
              hex2int (peek left.tail.tail)) ∧
          LineEnd (left.drop 3)
      else
        strict = false ∧ LineEnd left := by
  rw [← spells_iff]
  split
  · next hStar =>
      have hNul : ∀ c, Numeral.isDigit 16 c = true → c ≠ 0 := by
        rintro c hDigit rfl
        revert hDigit
        decide
      constructor
      · rintro (⟨high, low, stop, rfl, hSum, hStop⟩ |
          ⟨_, hStop⟩)
        · exact ⟨hSum, hStop⟩
        · have hNot := hStop.isBody_peek
          rcases hStop with rfl | rfl | rfl <;>
            exact absurd hStar (by decide)
      · rintro ⟨hSum, hStop⟩
        have hHigh := hNul _ (hSum.2.1 _ List.mem_cons_self)
        have hLow := hNul _ (hSum.2.1 _
          (List.mem_cons_of_mem _ List.mem_cons_self))
        refine Or.inl ?_
        match left, hStar, hSum, hStop, hHigh, hLow with
        | [], hStar, _, _, _, _ => exact absurd hStar (by decide)
        | [_], _, _, _, hHigh, _ => exact absurd rfl hHigh
        | [_, _], _, _, _, _, hLow => exact absurd rfl hLow
        | star :: high :: low :: stop, hStar, hSum, hStop, _, _ =>
            obtain rfl : star = byte '*' := hStar
            exact ⟨high, low, stop, rfl, hSum, hStop⟩
  · next hNot =>
      constructor
      · rintro (⟨high, low, stop, rfl, _⟩ | hPlain)
        · exact absurd rfl hNot
        · exact hPlain
      · exact Or.inr

/- The check of a sentence whose characters end at `left`. -/
theorem check_append_iff
    {body left : List UInt8}
    (hBody : ∀ c ∈ body, isBody c = true)
    (hLeft : isBody (peek left) = false)
    (strict : Bool) :
    check (byte '$' :: (body ++ left)) strict = true ↔
      body.length + left.length + 1 ≤ maxLength + 3 ∧
        Closing strict (Xor.checksum body) left := by
  have hNone : left.takeWhile isBody = [] ∧
      left.dropWhile isBody = left := by
    cases left with
    | nil => exact ⟨rfl, rfl⟩
    | cons c left =>
        have hNot : ¬ isBody c = true := by
          rw [show isBody c = false from hLeft]
          decide
        exact ⟨List.takeWhile_cons_of_neg hNot,
          List.dropWhile_cons_of_neg hNot⟩
  have hLoop : checksumLoop (body ++ left) 0 =
      (Xor.checksum body, left) := by
    rw [checksumLoop_eq, List.takeWhile_append_of_pos hBody,
      List.dropWhile_append_of_pos hBody, hNone.1, hNone.2,
      List.append_nil, UInt8.zero_xor]
  have hHead : peek (byte '$' :: (body ++ left)) =
      byte '$' := rfl
  rw [closing_iff, check, hHead, List.tail_cons, hLoop,
    List.length_cons, List.length_append]
  by_cases hLong : body.length + left.length + 1 >
      maxLength + 3
  · rw [if_pos hLong]
    simp only [Bool.false_eq_true, false_iff, not_and]
    omega
  · have hFits : body.length + left.length + 1 ≤
        maxLength + 3 := by omega
    rw [if_neg hLong, and_iff_right hFits]
    simp only [ne_eq, not_true_eq_false, if_false]
    split
    · rw [← checkEnd_iff]
      split_ifs with hHigh hLow hSum
      · simp [hHigh]
      · simp [hLow]
      · simp [hHigh, hLow, hSum]
      · simp [hSum]
    · rw [← checkEnd_iff]
      cases strict <;> simp

/- The check of a sentence with a checksum. -/
theorem check_checked_iff
    {body : List UInt8}
    (hBody : ∀ c ∈ body, isBody c = true)
    (high low : UInt8)
    (stop : List UInt8)
    (strict : Bool) :
    check (byte '$' ::
        (body ++ byte '*' :: high :: low :: stop)) strict =
          true ↔
      body.length + stop.length + 4 ≤ maxLength + 3 ∧
        Spells high low (Xor.checksum body) ∧
          LineEnd stop := by
  rw [check_append_iff hBody
    (show isBody (peek (byte '*' :: high :: low :: stop)) =
      false from isBody_star)]
  apply and_congr
  · simp only [List.length_cons]
    omega
  · constructor
    · rintro (⟨high', low', stop', hLeft, hSum⟩ | ⟨_, hStop⟩)
      · cases hLeft
        exact hSum
      · exact absurd List.mem_cons_self hStop.star_notMem
    · intro hSum
      exact Or.inl ⟨high, low, stop, rfl, hSum⟩

end Minmea

------------------------------------------------------------
-- Accepted Sentences
------------------------------------------------------------

namespace Minmea

theorem star_notMem
    {body : List UInt8}
    (hBody : ∀ c ∈ body, isBody c = true) :
    byte '*' ∉ body :=
  fun hMem => absurd (hBody _ hMem) (by decide)

/- `minmea_checksum` covers what the check covers. -/
theorem checksum_checked
    {body : List UInt8}
    (hBody : ∀ c ∈ body, isBody c = true)
    (rest : List UInt8) :
    checksum (byte '$' :: (body ++ byte '*' :: rest)) =
      Xor.checksum body := by
  have hHead :
      peek (byte '$' :: (body ++ byte '*' :: rest)) =
        byte '$' := rfl
  rw [checksum, if_pos hHead, List.tail_cons,
    rawChecksumLoop_append (star_notMem hBody),
    UInt8.zero_xor]

theorem peek_dropWhile
    (sentence : List UInt8) :
    isBody (peek (sentence.dropWhile isBody)) = false := by
  cases hLeft : sentence.dropWhile isBody with
  | nil => decide
  | cons c left =>
      have hNot := List.head?_dropWhile_not isBody sentence
      rw [hLeft] at hNot
      simpa [peek] using hNot

/-
  `minmea_check` accepts the well-formed sentences that are
  not too long.
-/
theorem check_iff
    (sentence : List UInt8)
    (strict : Bool) :
    check sentence strict = true ↔
      sentence.length ≤ maxLength + 3 ∧
        WellFormed strict sentence := by
  constructor
  · intro hCheck
    match sentence with
    | [] => exact absurd hCheck (by cases strict <;> decide)
    | first :: rest =>
        have hFirst : first = byte '$' := by
          by_contra hNot
          simp [check, peek, hNot] at hCheck
        subst hFirst
        have hBody : ∀ c ∈ rest.takeWhile isBody,
            isBody c = true :=
          fun _ hMem => List.mem_takeWhile_imp hMem
        have hSplit := @List.takeWhile_append_dropWhile
          _ isBody rest
        rw [← hSplit, check_append_iff hBody
          (peek_dropWhile rest)] at hCheck
        rcases hCheck with ⟨hLength, hClosing⟩
        rw [← List.length_append, hSplit] at hLength
        refine ⟨hLength, ?_⟩
        rcases hClosing with
          ⟨high, low, stop, hLeft, hSum, hStop⟩ |
            ⟨hStrict, hStop⟩
        · rw [hLeft] at hSplit
          rw [← checksum_checked hBody (high :: low :: stop),
            hSplit] at hSum
          exact WellFormed.checked _ high low stop
            (by rw [hSplit]) hBody hSum hStop
        · exact WellFormed.unchecked hStrict _ _
            (by rw [hSplit]) hBody hStop
  · rintro ⟨hLength, hWell⟩
    cases hWell with
    | checked body high low stop hSentence hBody hSum hStop =>
        subst hSentence
        rw [checksum_checked hBody] at hSum
        rw [check_append_iff hBody
          (show isBody (peek (byte '*' :: high :: low :: stop)) =
            false from isBody_star)]
        refine ⟨?_, Or.inl ⟨high, low, stop, rfl, hSum, hStop⟩⟩
        simpa [Nat.add_assoc] using hLength
    | unchecked hStrict body stop hSentence hBody hStop =>
        subst hSentence
        rw [check_append_iff hBody hStop.isBody_peek]
        refine ⟨?_, Or.inr ⟨hStrict, hStop⟩⟩
        simpa [Nat.add_assoc] using hLength

end Minmea
