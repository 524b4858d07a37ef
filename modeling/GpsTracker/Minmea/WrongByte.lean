import GpsTracker.Minmea.Check

/-
  Wrong bytes in a sentence with a checksum.

  The check finds a single wrong byte, with few exceptions:
  a wrong '*' turns the checksum into text, a digit may be
  in the other case, and a NUL may cut the sentence where
  what is left is a sentence, too.

  Main declarations:
    * `Minmea.Undetected`
    * `Minmea.Site`
    * `Minmea.check_change_iff`
-/

open CString Stdlib

------------------------------------------------------------
-- Undetected Changes
------------------------------------------------------------

namespace Minmea

/-
  The bytes that may stand for `old` without being found: a
  checksum that becomes text, where none is required; a
  digit of it in the other case; and a NUL that cuts off the
  checksum or the newline.
-/
inductive Undetected
    (strict : Bool)
    (before : List UInt8)
    (old b : UInt8)
    (after : List UInt8) : Prop where
  | star
      (hStrict : strict = false)
      (hOld : old = byte '*')
      (hPrint : isprint b = true)
  | digit
      (hBehind : byte '*' ∈ before)
      (hDigit : Numeral.isDigit 16 b = true)
      (hSame : Numeral.digit? b = Numeral.digit? old)
  | cut
      (hStrict : strict = false)
      (hNul : b = 0)
      (hFirst : before ≠ [])
      (hText : byte '*' ∉ before)
  | newline
      (hNul : b = 0)
      (hEnd : LineEnd (old :: after))
      (hReturn : 13 ∉ before)

/- A star in the text lets nothing close in front of it. -/
theorem not_closing_of_star
    {strict : Bool}
    {sum b : UInt8}
    {text rest : List UInt8} :
    ¬ Closing strict sum (b :: (text ++ byte '*' :: rest)) := by
  have hStar : byte '*' ∈ text ++ byte '*' :: rest :=
    List.mem_append_right _ List.mem_cons_self
  have hNoDigit {high low : UInt8}
      (hSum : Spells high low sum) :
      high ≠ byte '*' ∧ low ≠ byte '*' := by
    have hDigits := hSum.2.1
    constructor
    · rintro rfl
      exact absurd (hDigits _ List.mem_cons_self) (by decide)
    · rintro rfl
      exact absurd (hDigits _ (List.mem_cons_of_mem _
        List.mem_cons_self)) (by decide)
  rintro (⟨high, low, stop, hLeft, hSum, hStop⟩ | ⟨_, hStop⟩)
  · injection hLeft with _ hText
    rw [hText, List.mem_cons, List.mem_cons] at hStar
    rcases hStar with hHigh | hLow | hRest
    · exact (hNoDigit hSum).1 hHigh.symm
    · exact (hNoDigit hSum).2 hLow.symm
    · exact hStop.star_notMem hRest
  · exact hStop.star_notMem (List.mem_cons_of_mem _ hStar)

/- A wrong character of the text is found. -/
theorem not_check_body
    {first second : List UInt8}
    {old b : UInt8}
    (hBody : ∀ c ∈ first ++ old :: second, isBody c = true)
    {high low : UInt8}
    {stop : List UInt8}
    (hSum : Spells high low
      (Xor.checksum (first ++ old :: second)))
    (hNe : b ≠ old)
    (strict : Bool) :
    ¬ check (byte '$' :: (first ++
        b :: (second ++ byte '*' :: high :: low :: stop)))
      strict = true := by
  rw [List.forall_mem_append, List.forall_mem_cons] at hBody
  rcases hBody with ⟨hFirst, _, hSecond⟩
  by_cases hPrint : isBody b = true
  · have hChanged : ∀ c ∈ first ++ b :: second,
        isBody c = true := by
      rw [List.forall_mem_append, List.forall_mem_cons]
      exact ⟨hFirst, hPrint, hSecond⟩
    have hSplit : first ++
          b :: (second ++ byte '*' :: high :: low :: stop) =
        (first ++ b :: second) ++
          byte '*' :: high :: low :: stop := by
      simp
    rw [hSplit, check_checked_iff hChanged]
    rintro ⟨_, hSum', _⟩
    have hEqual := hSum'.unique hSum
    rw [Xor.checksum_append, Xor.checksum_append,
      Xor.checksum_cons, Xor.checksum_cons,
      UInt8.xor_right_inj, UInt8.xor_left_inj] at hEqual
    exact hNe hEqual
  · rw [check_append_iff hFirst
      (by simpa [peek] using hPrint)]
    exact fun hClosing => not_closing_of_star hClosing.2

/- Without the star the checksum counts as text. -/
theorem check_star_iff
    {body : List UInt8}
    (hBody : ∀ c ∈ body, isBody c = true)
    {high low : UInt8}
    (hDigits : isBody high = true ∧ isBody low = true)
    {stop : List UInt8}
    (hStop : LineEnd stop)
    (hLength : body.length + stop.length + 4 ≤ maxLength + 3)
    {b : UInt8}
    (hNe : b ≠ byte '*')
    (strict : Bool) :
    check (byte '$' :: (body ++ b :: high :: low :: stop))
        strict = true ↔
      strict = false ∧ isprint b = true := by
  by_cases hPrint : isprint b = true
  · have hText : ∀ c ∈ body ++ [b, high, low],
        isBody c = true := by
      intro c hc
      rw [List.mem_append] at hc
      rcases hc with hc | hc
      · exact hBody c hc
      · simp only [List.mem_cons, List.not_mem_nil,
          or_false] at hc
        rcases hc with rfl | rfl | rfl
        · simp [isBody, hNe, hPrint]
        · exact hDigits.1
        · exact hDigits.2
    have hSplit : body ++ b :: high :: low :: stop =
        (body ++ [b, high, low]) ++ stop := by
      simp
    rw [hSplit, check_append_iff hText hStop.isBody_peek]
    constructor
    · rintro ⟨_, ⟨_, _, _, hLeft, _⟩ | ⟨hStrict, _⟩⟩
      · rw [hLeft] at hStop
        exact absurd List.mem_cons_self hStop.star_notMem
      · exact ⟨hStrict, hPrint⟩
    · rintro ⟨hStrict, _⟩
      refine ⟨?_, Or.inr ⟨hStrict, hStop⟩⟩
      simp only [List.length_append, List.length_cons,
        List.length_nil]
      omega
  · have hLeft :
        isBody (peek (b :: high :: low :: stop)) = false := by
      simp [peek, isBody, hPrint]
    rw [check_append_iff hBody hLeft]
    constructor
    · rintro ⟨_, ⟨_, _, _, hStar, _⟩ | ⟨_, hEnd⟩⟩
      · injection hStar with hb
        exact absurd hb hNe
      · rcases hEnd with hEnd | hEnd | hEnd <;> cases hEnd
    · exact fun hBoth => absurd hBoth.2 hPrint

/- A changed digit spells the sum if its value is the same. -/
theorem spells_high_iff
    {high low sum : UInt8}
    (hSum : Spells high low sum)
    (b : UInt8) :
    Spells b low sum ↔
      Numeral.isDigit 16 b = true ∧
        Numeral.digit? b = Numeral.digit? high := by
  rw [Numeral.isDigit_iff]
  rw [spells_iff_digits] at hSum ⊢
  rcases hSum with ⟨h, l, hHigh, hh, hLow, hl, hEqual⟩
  constructor
  · rintro ⟨h', l', hHigh', hh', hLow', hl', hEqual'⟩
    rw [hLow] at hLow'
    cases hLow'
    obtain rfl : h = h' := by omega
    exact ⟨⟨h, hHigh', hh⟩, by rw [hHigh', hHigh]⟩
  · rintro ⟨_, hSame⟩
    rw [hHigh] at hSame
    exact ⟨h, l, hSame, hh, hLow, hl, hEqual⟩

theorem spells_low_iff
    {high low sum : UInt8}
    (hSum : Spells high low sum)
    (b : UInt8) :
    Spells high b sum ↔
      Numeral.isDigit 16 b = true ∧
        Numeral.digit? b = Numeral.digit? low := by
  rw [Numeral.isDigit_iff]
  rw [spells_iff_digits] at hSum ⊢
  rcases hSum with ⟨h, l, hHigh, hh, hLow, hl, hEqual⟩
  constructor
  · rintro ⟨h', l', hHigh', hh', hLow', hl', hEqual'⟩
    rw [hHigh] at hHigh'
    cases hHigh'
    obtain rfl : l = l' := by omega
    exact ⟨⟨l, hLow', hl⟩, by rw [hLow', hLow]⟩
  · rintro ⟨_, hSame⟩
    rw [hLow] at hSame
    exact ⟨h, l, hHigh, hh, hSame, hl, hEqual⟩

/- The newline's characters are no digits. -/
theorem LineEnd.digit?_eq_none
    {stop : List UInt8}
    (hStop : LineEnd stop)
    {c : UInt8}
    (hMem : c ∈ stop) :
    Numeral.digit? c = none := by
  rcases hStop with rfl | rfl | rfl
  · cases hMem
  · rw [List.mem_singleton] at hMem
    rw [hMem]
    decide
  · rw [crlf, List.mem_cons, List.mem_singleton] at hMem
    rcases hMem with rfl | rfl <;> decide

/- The places where a newline may be cut. -/
theorem LineEnd.cut_cases
    {first after : List UInt8}
    {old : UInt8}
    (hStop : LineEnd (first ++ old :: after)) :
    (first = [] ∧ old = 10 ∧ after = []) ∨
      (first = [] ∧ old = 13 ∧ after = [10]) ∨
        first = [13] ∧ old = 10 ∧ after = [] := by
  rcases hStop with hStop | hStop | hStop
  · cases (List.append_eq_nil_iff.mp hStop).2
  · cases first with
    | nil =>
        injection hStop with hOld hAfter
        exact Or.inl ⟨rfl, hOld, hAfter⟩
    | cons _ first =>
        injection hStop with _ hRest
        cases (List.append_eq_nil_iff.mp hRest).2
  · cases first with
    | nil =>
        injection hStop with hOld hAfter
        exact Or.inr (Or.inl ⟨rfl, hOld, hAfter⟩)
    | cons c first =>
        injection hStop with hFirst hRest
        cases first with
        | nil =>
            injection hRest with hOld hAfter
            exact Or.inr (Or.inr ⟨by rw [hFirst], hOld, hAfter⟩)
        | cons _ first =>
            injection hRest with _ hRest
            cases (List.append_eq_nil_iff.mp hRest).2

/- A wrong newline is found. -/
theorem LineEnd.not_change
    {first second : List UInt8}
    {old b : UInt8}
    (hStop : LineEnd (first ++ old :: second))
    (hNe : b ≠ old) :
    ¬ LineEnd (first ++ b :: second) := by
  rcases hStop.cut_cases with
    ⟨rfl, rfl, rfl⟩ | ⟨rfl, rfl, rfl⟩ | ⟨rfl, rfl, rfl⟩ <;>
    simpa [LineEnd, crlf] using hNe

end Minmea

------------------------------------------------------------
-- Wrong Bytes
------------------------------------------------------------

namespace Minmea

/- The place of a byte in a sentence with a checksum. -/
inductive Site
    (body : List UInt8)
    (high low : UInt8)
    (stop before : List UInt8)
    (old : UInt8)
    (after : List UInt8) : Prop where
  | first
      (hBefore : before = [])
      (hOld : old = byte '$')
      (hAfter : after =
        body ++ byte '*' :: high :: low :: stop)
  | body
      (first second : List UInt8)
      (hBody : body = first ++ old :: second)
      (hBefore : before = byte '$' :: first)
      (hAfter : after =
        second ++ byte '*' :: high :: low :: stop)
  | star
      (hBefore : before = byte '$' :: body)
      (hOld : old = byte '*')
      (hAfter : after = high :: low :: stop)
  | high
      (hBefore : before = byte '$' :: (body ++ [byte '*']))
      (hOld : old = high)
      (hAfter : after = low :: stop)
  | low
      (hBefore : before =
        byte '$' :: (body ++ [byte '*', high]))
      (hOld : old = low)
      (hAfter : after = stop)
  | stop
      (first : List UInt8)
      (hStop : stop = first ++ old :: after)
      (hBefore : before =
        byte '$' :: (body ++ byte '*' :: high :: low :: first))

theorem site_of_eq
    {body stop before after : List UInt8}
    {high low old : UInt8}
    (hSentence : before ++ old :: after =
      byte '$' :: (body ++ byte '*' :: high :: low :: stop)) :
    Site body high low stop before old after := by
  cases before with
  | nil =>
      injection hSentence with hOld hAfter
      exact Site.first rfl hOld hAfter
  | cons dollar before =>
      injection hSentence with hDollar hRest
      subst hDollar
      rcases List.append_eq_append_iff.mp hRest with
        ⟨second, hBody, hAfter⟩ | ⟨middle, hBefore, hTail⟩
      · cases second with
        | nil =>
            injection hAfter with hOld hAfter
            rw [List.append_nil] at hBody
            exact Site.star (by rw [hBody]) hOld hAfter
        | cons c second =>
            injection hAfter with hOld hAfter
            subst hOld
            exact Site.body _ _ hBody rfl hAfter
      · match middle with
        | [] =>
            injection hTail with hOld hAfter
            rw [List.append_nil] at hBefore
            exact Site.star (by rw [hBefore]) hOld.symm
              hAfter.symm
        | [_] =>
            injection hTail with hStar hTail
            injection hTail with hOld hAfter
            subst hStar
            exact Site.high (by rw [hBefore]) hOld.symm
              hAfter.symm
        | [_, _] =>
            injection hTail with hStar hTail
            injection hTail with hHigh hTail
            injection hTail with hOld hAfter
            subst hStar hHigh
            exact Site.low (by rw [hBefore]) hOld.symm
              hAfter.symm
        | _ :: _ :: _ :: first =>
            injection hTail with hStar hTail
            injection hTail with hHigh hTail
            injection hTail with hLow hTail
            subst hStar hHigh hLow
            exact Site.stop first hTail (by rw [hBefore])

/- A sentence that ends in its text. -/
theorem check_text_iff
    {text : List UInt8}
    (hText : ∀ c ∈ text, isBody c = true)
    (hFits : text.length + 1 ≤ maxLength + 3)
    (strict : Bool) :
    check (byte '$' :: text) strict = true ↔
      strict = false := by
  have hEnd : LineEnd [] := Or.inl rfl
  have hIff := check_append_iff hText hEnd.isBody_peek strict
  rw [List.append_nil] at hIff
  rw [hIff]
  constructor
  · rintro ⟨_, ⟨_, _, _, hLeft, _⟩ | ⟨hStrict, _⟩⟩
    · cases hLeft
    · exact hStrict
  · exact fun hStrict => ⟨hFits, Or.inr ⟨hStrict, hEnd⟩⟩

/- A sentence that ends in its checksum. -/
theorem not_check_of_short
    {body digits : List UInt8}
    (hBody : ∀ c ∈ body, isBody c = true)
    (hDigits : digits.length < 2)
    (strict : Bool) :
    ¬ check (byte '$' :: (body ++ byte '*' :: digits))
      strict = true := by
  rw [check_append_iff hBody
    (show isBody (peek (byte '*' :: digits)) = false
      from isBody_star)]
  rintro ⟨_, ⟨_, _, _, hLeft, _⟩ | ⟨_, hStop⟩⟩
  · injection hLeft with _ hLeft
    rw [hLeft, List.length_cons, List.length_cons] at hDigits
    omega
  · exact absurd List.mem_cons_self hStop.star_notMem

/- A cut newline is accepted if nothing of it is left. -/
theorem LineEnd.cut_iff
    {first after : List UInt8}
    {old : UInt8}
    (hStop : LineEnd (first ++ old :: after)) :
    LineEnd first ↔ LineEnd (old :: after) ∧ 13 ∉ first := by
  rcases hStop.cut_cases with
    ⟨rfl, rfl, rfl⟩ | ⟨rfl, rfl, rfl⟩ | ⟨rfl, rfl, rfl⟩ <;>
    simp [LineEnd, crlf]

end Minmea

------------------------------------------------------------
-- Single Changes
------------------------------------------------------------

namespace Minmea

/- The string that is left when one byte of it changes. -/
theorem text_change
    {before after : List UInt8}
    {old : UInt8}
    (hNul : 0 ∉ before ++ old :: after)
    (b : UInt8) :
    text (before ++ b :: after) =
      if b = 0 then before else before ++ b :: after := by
  rw [List.mem_append, List.mem_cons, not_or, not_or] at hNul
  split
  · next hByte =>
      rw [hByte, text_append_nul hNul.1]
  · next hByte =>
      apply text_of_nul_notMem
      rw [List.mem_append, List.mem_cons, not_or, not_or]
      exact ⟨hNul.1, Ne.symm hByte, hNul.2.2⟩

theorem nul_notMem_of_check
    {sentence : List UInt8}
    {strict : Bool}
    (hCheck : check sentence strict = true) :
    0 ∉ sentence := by
  have hText {body : List UInt8}
      (hBody : ∀ c ∈ body, isBody c = true) :
      0 ∉ body :=
    fun hMem => absurd (hBody 0 hMem) (by decide)
  have hLine {stop : List UInt8} (hStop : LineEnd stop) :
      0 ∉ stop := by
    rcases hStop with rfl | rfl | rfl <;> decide
  cases ((check_iff sentence strict).mp hCheck).2 with
  | checked body high low stop hSentence hBody hSum hStop =>
      have hDigit {c : UInt8} (hMem : c ∈ [high, low]) :
          0 ≠ c := by
        rintro rfl
        exact absurd (hSum.2.1 0 hMem) (by decide)
      rw [hSentence]
      simp only [List.mem_cons, List.mem_append, not_or]
      exact ⟨by decide, hText hBody, by decide,
        hDigit List.mem_cons_self,
        hDigit (List.mem_cons_of_mem _ List.mem_cons_self),
        hLine hStop⟩
  | unchecked _ body stop hSentence hBody hStop =>
      rw [hSentence]
      simp only [List.mem_cons, List.mem_append, not_or]
      exact ⟨by decide, hText hBody, hLine hStop⟩

variable {strict : Bool}
variable {before after : List UInt8}
variable {old b : UInt8}

/- In the text only a cut is not found. -/
theorem undetected_body_iff
    (hFirst : before ≠ [])
    (hStar : byte '*' ∉ before)
    (hOld : old ≠ byte '*')
    (hAfter : byte '*' ∈ after) :
    Undetected strict before old b after ↔
      strict = false ∧ b = 0 := by
  constructor
  · intro hUndetected
    cases hUndetected with
    | star _ hByte => exact absurd hByte hOld
    | digit hBehind => exact absurd hBehind hStar
    | cut hStrict hNul => exact ⟨hStrict, hNul⟩
    | newline _ hEnd =>
        exact absurd (List.mem_cons_of_mem _ hAfter)
          hEnd.star_notMem
  · rintro ⟨hStrict, hNul⟩
    exact Undetected.cut hStrict hNul hFirst hStar

theorem undetected_star_iff
    (hFirst : before ≠ [])
    (hStar : byte '*' ∉ before) :
    Undetected strict before (byte '*') b after ↔
      strict = false ∧ (b = 0 ∨ isprint b = true) := by
  constructor
  · intro hUndetected
    cases hUndetected with
    | star hStrict _ hPrint => exact ⟨hStrict, Or.inr hPrint⟩
    | digit hBehind => exact absurd hBehind hStar
    | cut hStrict hNul => exact ⟨hStrict, Or.inl hNul⟩
    | newline _ hEnd =>
        exact absurd List.mem_cons_self hEnd.star_notMem
  · rintro ⟨hStrict, hNul | hPrint⟩
    · exact Undetected.cut hStrict hNul hFirst hStar
    · exact Undetected.star hStrict rfl hPrint

theorem undetected_digit_iff
    (hBehind : byte '*' ∈ before)
    (hOld : Numeral.isDigit 16 old = true) :
    Undetected strict before old b after ↔
      Numeral.isDigit 16 b = true ∧
        Numeral.digit? b = Numeral.digit? old := by
  constructor
  · intro hUndetected
    cases hUndetected with
    | star _ hByte =>
        rw [hByte] at hOld
        exact absurd hOld (by decide)
    | digit _ hDigit hSame => exact ⟨hDigit, hSame⟩
    | cut _ _ _ hText => exact absurd hBehind hText
    | newline _ hEnd =>
        have hNone := hEnd.digit?_eq_none List.mem_cons_self
        rcases (Numeral.isDigit_iff 16 old).mp hOld with ⟨d, hd, _⟩
        rw [hNone] at hd
        cases hd
  · rintro ⟨hDigit, hSame⟩
    exact Undetected.digit hBehind hDigit hSame

theorem undetected_stop_iff
    {first : List UInt8}
    (hStop : LineEnd (first ++ old :: after))
    (hBehind : byte '*' ∈ before) :
    Undetected strict before old b after ↔
      b = 0 ∧ LineEnd (old :: after) ∧ 13 ∉ before := by
  have hMem : old ∈ first ++ old :: after :=
    List.mem_append_right _ List.mem_cons_self
  constructor
  · intro hUndetected
    cases hUndetected with
    | star _ hByte =>
        rw [hByte] at hMem
        exact absurd (hByte ▸ hMem) hStop.star_notMem
    | digit _ hDigit hSame =>
        rw [hStop.digit?_eq_none hMem] at hSame
        rcases (Numeral.isDigit_iff 16 b).mp hDigit with ⟨d, hd, _⟩
        rw [hSame] at hd
        cases hd
    | cut _ _ _ hText => exact absurd hBehind hText
    | newline hNul hEnd hReturn =>
        exact ⟨hNul, hEnd, hReturn⟩
  · rintro ⟨hNul, hEnd, hReturn⟩
    exact Undetected.newline hNul hEnd hReturn

/-
  The check finds each change of one byte of a sentence with
  a checksum, but for those of `Undetected`.
-/
theorem check_change_iff
    (hCheck : check (before ++ old :: after) strict = true)
    (hStar : byte '*' ∈ before ++ old :: after)
    (hNe : b ≠ old) :
    check (text (before ++ b :: after)) strict = true ↔
      Undetected strict before old b after := by
  rw [text_change (nul_notMem_of_check hCheck)]
  rcases (check_iff _ strict).mp hCheck with ⟨hLength, hWell⟩
  cases hWell with
  | unchecked _ body stop hSentence hBody hStop =>
      rw [hSentence, List.mem_cons, List.mem_append] at hStar
      rcases hStar with hFirst | hMem | hMem
      · exact absurd hFirst (by decide)
      · exact absurd hMem (star_notMem hBody)
      · exact absurd hMem hStop.star_notMem
  | checked body high low stop hSentence hBody hSum hStop =>
      rw [hSentence] at hSum hLength
      rw [checksum_checked hBody] at hSum
      have hFits : body.length + stop.length + 4 ≤
          maxLength + 3 := by
        simp only [List.length_cons, List.length_append]
          at hLength
        omega
      have hNone := star_notMem hBody
      have hHigh := hSum.2.1 high List.mem_cons_self
      have hLow := hSum.2.1 low
        (List.mem_cons_of_mem _ List.mem_cons_self)
      have hNotStar : byte '*' ∉ byte '$' :: body := by
        rw [List.mem_cons, not_or]
        exact ⟨by decide, hNone⟩
      cases site_of_eq hSentence with
      | first hBefore hOld hAfter =>
          subst hBefore hOld
          have hNot : ¬ Undetected strict [] (byte '$') b
              after := by
            rintro (⟨_, hByte, _⟩ | ⟨hMem, _⟩ | ⟨_, _, hFirst⟩ |
              ⟨_, hEnd, _⟩)
            · exact absurd hByte (by decide)
            · cases hMem
            · exact hFirst rfl
            · rcases hEnd with hEnd | hEnd | hEnd
              · cases hEnd
              · injection hEnd with hByte
                exact absurd hByte (by decide)
              · injection hEnd with hByte
                exact absurd hByte (by decide)
          rw [iff_false_right hNot, Bool.not_eq_true]
          split
          · cases strict <;> decide
          · simp [check, peek, hNe]
      | body first second hParts hBefore hAfter =>
          subst hParts hBefore hAfter
          rw [List.mem_append, not_or, List.mem_cons, not_or]
            at hNone
          have hBehind : byte '*' ∈
              second ++ byte '*' :: high :: low :: stop :=
            List.mem_append_right _ List.mem_cons_self
          rw [undetected_body_iff (List.cons_ne_nil _ _)
            (fun hMem => hNotStar
              (List.cons_subset_cons _
                (List.subset_append_left _ _) hMem))
            (Ne.symm hNone.2.1) hBehind]
          split
          · next hNul =>
              rw [List.length_append, List.length_cons] at hFits
              rw [check_text_iff
                (fun c hc => hBody c
                  (List.mem_append_left _ hc)) (by omega)]
              simp [hNul]
          · next hNul =>
              simp only [hNul, and_false, iff_false]
              exact not_check_body hBody hSum hNe strict
      | star hBefore hOld hAfter =>
          subst hBefore hOld hAfter
          rw [undetected_star_iff (List.cons_ne_nil _ _)
            hNotStar]
          split
          · next hNul =>
              rw [check_text_iff hBody (by omega)]
              simp [hNul]
          · next hNul =>
              rw [List.cons_append, check_star_iff hBody
                ⟨isBody_of_isDigit hHigh,
                  isBody_of_isDigit hLow⟩ hStop hFits hNe]
              simp [hNul]
      | high hBefore hOld hAfter =>
          subst hBefore hOld hAfter
          rw [undetected_digit_iff (by simp) hHigh]
          split
          · next hNul =>
              subst hNul
              rw [iff_false_right (by
                rintro ⟨hDigit, _⟩
                exact absurd hDigit (by decide))]
              exact not_check_of_short hBody (by decide) strict
          · rw [List.cons_append, List.append_assoc,
              List.singleton_append, check_checked_iff hBody,
              ← spells_high_iff hSum, and_iff_right hFits,
              and_iff_left hStop]
      | low hBefore hOld hAfter =>
          subst hBefore hOld hAfter
          rw [undetected_digit_iff (by simp) hLow]
          split
          · next hNul =>
              subst hNul
              rw [iff_false_right (by
                rintro ⟨hDigit, _⟩
                exact absurd hDigit (by decide))]
              exact not_check_of_short hBody
                (by rw [List.length_singleton]; decide) strict
          · rw [List.cons_append, List.append_assoc,
              List.cons_append, List.singleton_append,
              check_checked_iff hBody, ← spells_low_iff hSum,
              and_iff_right hFits, and_iff_left hStop]
      | stop first hParts hBefore =>
          subst hParts hBefore
          rw [undetected_stop_iff hStop (by simp)]
          have hReturn : (13 : UInt8) ∉ byte '$' ::
              (body ++ byte '*' :: high :: low :: first) ↔
                13 ∉ first := by
            have hText (c : UInt8) (hc : isBody c = true) :
                13 ≠ c := by
              rintro rfl
              exact absurd hc (by decide)
            have hOut : (13 : UInt8) ∉ body :=
              fun hMem => hText 13 (hBody 13 hMem) rfl
            simp only [List.mem_cons, List.mem_append, hOut,
              hText high (isBody_of_isDigit hHigh),
              hText low (isBody_of_isDigit hLow), false_or,
              show (13 : UInt8) ≠ byte '$' by decide,
              show (13 : UInt8) ≠ byte '*' by decide]
          rw [hReturn, ← hStop.cut_iff]
          rw [List.length_append, List.length_cons] at hFits
          split
          · next hNul =>
              rw [check_checked_iff hBody, and_iff_right hNul]
              simp only [hSum, true_and, and_iff_right_iff_imp]
              intro _
              omega
          · next hNul =>
              rw [List.cons_append, List.append_assoc]
              simp only [List.cons_append]
              rw [check_checked_iff hBody]
              simp [hNul, hStop.not_change hNe]

theorem check_change_digit_case :
    check (text (ascii "$J*4" ++ byte 'a' :: [])) true =
        true ↔
      Undetected true (ascii "$J*4") (byte 'A') (byte 'a') [] :=
  check_change_iff (by decide) (by decide) (by decide)

end Minmea
