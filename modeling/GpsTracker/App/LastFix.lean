import GpsTracker.App.FixMode
import GpsTracker.Gps.Frames
import GpsTracker.Minmea.Stores

/-
  Whether the fix mode is that of the last frame.

  A frame writes the fix types of its GSA sentences to the
  two slots, from where its call of `GPS_Parse` begins to
  count; a slot that it does not write keeps the fix type of
  an older frame. The fix mode is the larger of the two, so
  an older fix type is hidden only by the largest `int`.

  Main declarations:
    * `Gps.Parser.Reachable`, `Gps.gsaStart`
    * `Gps.GsaParses`, `Gps.gsaFixType`
    * `App.fixModeAfter_eq`
    * `App.Decides`, `App.Determined`
    * `App.fixMode_determined_iff`
-/

open CString Machine Minmea Gps

------------------------------------------------------------
-- The Fix Type of a Sentence
------------------------------------------------------------

namespace Gps

theorem gsaFormat_eq :
    gsaFormat = gsaFormat.take 2 ++
      .convert scanInt (.field SentenceGsa.fixTypeP) ::
        gsaFormat.drop 3 := rfl

/- `minmea_parse_gsa` leaves the slot as it is scanned. -/
theorem writeGsa_eq_scan
    (slot : SentenceGsa)
    (line : List UInt8) :
    writeGsa slot line =
      (scan line gsaFormat (slot, default)).2.1 := by
  unfold writeGsa parseGsa parseWith
  generalize scan line gsaFormat (slot, default) = scanned
  rcases scanned with ⟨ok, frame, locals⟩
  cases ok with
  | false => rfl
  | true =>
      simp only
      split_ifs
      · rfl
      · rfl

theorem fixType_writeGsa
    (slot : SentenceGsa)
    (line : List UInt8) :
    (writeGsa slot line).fixType =
      (scannedValue (gsaFormat.take 2) scanInt line).getD
        slot.fixType := by
  have hScan : SentenceGsa.fixTypeP.get
      (scan line gsaFormat (slot, default)).2.1 =
      (scannedValue (gsaFormat.take 2) scanInt line).getD
        (SentenceGsa.fixTypeP.get slot) := by
    nth_rewrite 1 [gsaFormat_eq]
    apply get_scan_frame
    · simp only [gsaFormat, Directive.t, Directive.c,
        List.cons_append, List.take_succ_cons,
        List.take_zero, List.forall_mem_cons]
      simp only [Directive.Apart, SentenceGsa.fixTypeP,
        Place.Disjoint, implies_true, and_self,
        List.not_mem_nil, false_implies]
    · simp only [gsaFormat, Directive.i, Directive.f,
        List.cons_append, List.nil_append,
        List.drop_succ_cons, List.drop_zero,
        List.forall_mem_append, List.forall_mem_map,
        List.forall_mem_cons]
      simp only [Directive.Apart, SentenceGsa.fixTypeP,
        Place.Disjoint, Place.comp, SentenceGsa.satP,
        implies_true, and_self, List.not_mem_nil,
        false_implies]
  rw [writeGsa_eq_scan]
  exact hScan

/- The sentence parses, on a slot with whatever content. -/
def GsaParses (line : List UInt8) : Prop :=
  ∃ slot, (parseGsa slot line).1 = true

/- The fix type that a sentence carries. -/
def gsaFixType (line : List UInt8) : Int :=
  (writeGsa default line).fixType

/- A sentence that parses overwrites the fix type. -/
theorem fixType_of_parses
    {line : List UInt8}
    (hParses : GsaParses line)
    (slot : SentenceGsa) :
    (writeGsa slot line).fixType = gsaFixType line := by
  rcases hParses with ⟨slot', hParses⟩
  have hScan :
      (scan line gsaFormat (slot', default)).1 = true := by
    unfold parseGsa parseWith at hParses
    generalize scan line gsaFormat (slot', default) = scanned
      at hParses
    rcases scanned with ⟨ok, frame, locals⟩
    cases ok with
    | false => exact hParses
    | true => rfl
  rw [gsaFormat_eq] at hScan
  have hSome := isSome_scannedValue hScan
  rcases Option.isSome_iff_exists.mp hSome with ⟨value, hValue⟩
  rw [gsaFixType, fixType_writeGsa, fixType_writeGsa, hValue]
  rfl

/- `INT_MAX` -/
def intMax : Int := 2147483647

theorem i32_le
    (x : Int) :
    i32 x ≤ intMax := by
  have hLess : x.bmod (2 ^ 32) < ((2 ^ 32 : Nat) + 1) / 2 :=
    Int.bmod_lt (by decide)
  unfold i32 intMax
  omega

theorem strtol_le
    (nptr : List UInt8)
    (base : Nat) :
    (Stdlib.strtol nptr base).1 ≤ intMax := by
  unfold Stdlib.strtol
  simp only
  exact i32_le _

theorem scanInt_le
    {field : Option (List UInt8)}
    {value : Int}
    (hScan : scanInt field = some value) :
    value ≤ intMax := by
  cases field with
  | none =>
      have hEq := Option.some.inj hScan
      subst hEq
      decide
  | some text =>
      simp only [scanInt] at hScan
      split_ifs at hScan
      rw [← Option.some.inj hScan]
      exact strtol_le text 10

/- No sentence brings a fix type beyond the largest `int`. -/
theorem fixType_writeGsa_le
    (slot : SentenceGsa)
    (line : List UInt8)
    (hSlot : slot.fixType ≤ intMax) :
    (writeGsa slot line).fixType ≤ intMax := by
  rw [fixType_writeGsa, scannedValue]
  cases cursor (gsaFormat.take 2) ⟨line, some line, false⟩ with
  | none => exact hSlot
  | some c =>
      simp only
      split_ifs
      · exact hSlot
      · cases hValue : scanInt c.field with
        | none => exact hSlot
        | some value => exact scanInt_le hValue

end Gps

------------------------------------------------------------
-- Reachable Parsers
------------------------------------------------------------

namespace Gps

/- What `GPS_Update` takes out of the buffer as one frame. -/
def IsFrame (bytes : List UInt8) : Prop :=
  ∃ live n, frameCut live = some n ∧ bytes = live.take n

/- A parser behind calls of `GPS_Parse` on such frames. -/
inductive Parser.Reachable : Parser → Prop where
  | init : Reachable Parser.init
  | call
      {p q : Parser}
      {bytes : List UInt8}
      (reached : Reachable p)
      (frame : IsFrame bytes)
      (step : parseCall p (tmp bytes) = some q) :
      Reachable q

/- The slot that the next call puts its first GSA sentence in. -/
def gsaStart (p : Parser) : Nat :=
  p.entered.gsaCount.toNat

theorem IsFrame.length_le
    {bytes : List UInt8}
    (hFrame : IsFrame bytes) :
    bytes.length ≤ nmeaFrameBufferLength := by
  rcases hFrame with ⟨live, n, hCut, rfl⟩
  rcases frameCut_eq_some_iff.mp hCut with ⟨vtg, length, _, _, rfl⟩
  rw [List.length_take]
  omega

theorem parseCall_tmp
    {bytes : List UInt8}
    (hFrame : IsFrame bytes)
    (p : Parser) :
    parseCall p (tmp bytes) = some (parseFrame p bytes) := by
  rcases parse_tmp hFrame.length_le p with
    ⟨result, hParse, hParser⟩
  rw [parseCall, hParse, Option.map_some, hParser]

/-
  A property of the GSA slots that no frame breaks: it is
  kept when a sentence takes a slot, and by a new count.
-/
structure GsaInvariant
    (P : Slots SentenceGsa maxGsaNumber → Prop) : Prop where
  fill : ∀ s line, P s → P (s.fill writeGsa line)
  reset : ∀ s, P s → P { s with count := 0 }

namespace GsaInvariant

variable {P : Slots SentenceGsa maxGsaNumber → Prop}
variable {p : Parser}

theorem of_enterFrame
    (hKept : GsaInvariant P)
    (hSlots : P p.gsaSlots)
    (flag : UInt8) :
    P (p.enterFrame flag).gsaSlots := by
  unfold Parser.enterFrame
  split_ifs
  · exact hKept.reset _ hSlots
  · exact hSlots

theorem of_sentence
    (hKept : GsaInvariant P)
    (hSlots : P p.gsaSlots)
    (line : List UInt8) :
    P (parseOneNmea p line p.flag).2.gsaSlots := by
  have hEntered := hKept.of_enterFrame hSlots p.flag
  have hFill :
      (parseOneNmea p line p.flag).2.gsaSlots = _ :=
    gsaSlots_sentence (p.enterFrame p.flag) line
  rw [hFill]
  split_ifs
  · exact hKept.fill _ line hEntered
  · exact hEntered

/- What each sentence keeps is kept by a frame. -/
theorem of_frame
    (hKept : GsaInvariant P)
    (hSlots : P p.gsaSlots)
    (bytes : List UInt8) :
    P (parseFrame p bytes).gsaSlots := by
  show P (parseLines p (handed (text bytes))).gsaSlots
  generalize handed (text bytes) = lines
  induction lines generalizing p with
  | nil => exact hSlots
  | cons line lines ih =>
      exact ih (hKept.of_sentence hSlots line)

/- And by every run of frames from the start. -/
theorem of_reachable
    (hKept : GsaInvariant P)
    (hInit : P Parser.init.gsaSlots)
    (hReached : p.Reachable) :
    P p.gsaSlots := by
  induction hReached with
  | init => exact hInit
  | call _ hFrame hStep ih =>
      rw [parseCall_tmp hFrame, Option.some.injEq] at hStep
      rw [← hStep]
      exact hKept.of_frame ih _

end GsaInvariant

theorem gsaInvariant_fixType :
    GsaInvariant fun s =>
      ∀ k (hk : k < maxGsaNumber),
        s.slots[k].fixType ≤ intMax where
  fill _ line hSlots _ hk :=
    Slots.forall_fill fixType_writeGsa_le hSlots line hk
  reset _ hSlots := hSlots

theorem gsaInvariant_count :
    GsaInvariant fun s => s.count ≤ maxGsaNumber where
  fill s line hCount := by
    rw [Slots.count_fill]
    split_ifs <;> omega
  reset _ _ := Nat.zero_le _

namespace Parser.Reachable

variable {p : Parser}

/- Reachable slots hold an `int`. -/
theorem fixType_le
    (hReached : p.Reachable)
    {k : Nat}
    (hk : k < maxGsaNumber) :
    p.info.gsa[k].fixType ≤ intMax :=
  gsaInvariant_fixType.of_reachable (by decide) hReached k hk

/- A reachable parser counts inside the slots. -/
theorem gsaStart_le
    (hReached : p.Reachable) :
    gsaStart p ≤ maxGsaNumber :=
  gsaInvariant_count.of_enterFrame
    (gsaInvariant_count.of_reachable (by decide) hReached)
    p.flag

end Parser.Reachable

end Gps

------------------------------------------------------------
-- The Fix Mode behind a Frame
------------------------------------------------------------

namespace App

/- The fix mode that is reported behind a call. -/
def fixModeAfter
    (memory : List UInt8)
    (p : Parser) : Option Int :=
  (parseCall p memory).map fun q => fixMode q.info

/- The fix types that the GSA sentences of a frame carry. -/
def fixTypes (lines : List (List UInt8)) : List Int :=
  (lines.filter isGsa).map gsaFixType

/- The fix type in a slot behind a frame. -/
def slotAfter
    (start : Nat)
    (types : List Int)
    (k : Nat)
    (old : Int) : Int :=
  if start ≤ k then
    (types[k - start]?).getD old
  else
    old

theorem fixMode_eq_max
    (info : Info) :
    fixMode info =
      max info.gsa[0].fixType info.gsa[1].fixType := by
  unfold fixMode
  split_ifs <;> omega

theorem fixType_parseCall
    {memory : List UInt8}
    {lines : List (List UInt8)}
    (hFrame : CompleteFrame memory lines)
    (hParses : ∀ line ∈ lines,
      isGsa line = true → GsaParses line)
    (p : Parser) :
    ∃ q, parseCall p memory = some q ∧
      ∀ k (hk : k < maxGsaNumber),
        q.info.gsa[k].fixType =
          slotAfter (gsaStart p) (fixTypes lines) k
            p.info.gsa[k].fixType := by
  rcases slots_parse hFrame p with ⟨result, hParse, _, hGsa, _⟩
  refine ⟨result.parser, by rw [parseCall, hParse]; rfl, ?_⟩
  intro k hk
  have hSlot := Slots.getElem_fillAll writeGsa
    p.entered.gsaSlots (lines.filter isGsa) hk
  have hOld : p.entered.gsaSlots.slots[k] = p.info.gsa[k] := by
    simp only [Parser.gsaSlots, Parser.entered,
      Parser.enterFrame_info]
  have hStart : p.entered.gsaSlots.count = gsaStart p := rfl
  rw [← hGsa, hOld, hStart] at hSlot
  have hHere : result.parser.info.gsa[k] =
      result.parser.gsaSlots.slots[k] := rfl
  rw [hHere, hSlot, slotAfter, fixTypes, List.getElem?_map]
  split_ifs
  · cases hLine : (lines.filter isGsa)[k - gsaStart p]? with
    | none => rfl
    | some line =>
        have hMem := List.mem_filter.mp
          (List.mem_of_getElem? hLine)
        exact fixType_of_parses (hParses line hMem.1 hMem.2) _
  · rfl

theorem fixModeAfter_eq
    {memory : List UInt8}
    {lines : List (List UInt8)}
    (hFrame : CompleteFrame memory lines)
    (hParses : ∀ line ∈ lines,
      isGsa line = true → GsaParses line)
    (p : Parser) :
    fixModeAfter memory p =
      some (max
        (slotAfter (gsaStart p) (fixTypes lines) 0
          p.info.gsa[0].fixType)
        (slotAfter (gsaStart p) (fixTypes lines) 1
          p.info.gsa[1].fixType)) := by
  rcases fixType_parseCall hFrame hParses p with
    ⟨q, hCall, hSlots⟩
  rw [fixModeAfter, hCall, Option.map_some, fixMode_eq_max,
    hSlots 0 (by decide), hSlots 1 (by decide)]

end App

------------------------------------------------------------
-- Frames That Decide
------------------------------------------------------------

namespace App

/-
  The sentences of a frame decide the fix mode: the slots
  are all written, or one of them with the largest `int`.
-/
def Decides
    (start : Nat)
    (types : List Int) : Prop :=
  (start = 0 ∧ 2 ≤ types.length) ∨
    (start ≤ 1 ∧ types.head? = some intMax)

/- The larger of the first two fix types. -/
def lastFix : List Int → Int
| [] => 0
| [first] => first
| first :: second :: _ => max first second

variable {start : Nat}
variable {types : List Int}
variable {old₀ old₁ : Int}

/- No older fix type is seen behind such a frame. -/
theorem max_slotAfter_of_decides
    (hTypes : ∀ type ∈ types, type ≤ intMax)
    (hOld₀ : old₀ ≤ intMax)
    (hOld₁ : old₁ ≤ intMax)
    (hDecides : Decides start types) :
    max (slotAfter start types 0 old₀)
      (slotAfter start types 1 old₁) = lastFix types := by
  rcases hDecides with ⟨rfl, hTwo⟩ | ⟨hStart, hFirst⟩
  · match types, hTwo with
    | first :: second :: _, _ => rfl
  · match types, hFirst with
    | first :: rest, hFirst =>
        rw [List.head?_cons, Option.some.injEq] at hFirst
        subst hFirst
        have hLast : lastFix (intMax :: rest) = intMax := by
          cases rest with
          | nil => rfl
          | cons second rest =>
              have hSecond := hTypes second (by simp)
              exact max_eq_left hSecond
        rw [hLast]
        have hCases : start = 0 ∨ start = 1 := by omega
        rcases hCases with rfl | rfl
        · cases rest with
          | nil => exact max_eq_left hOld₁
          | cons second rest =>
              have hSecond := hTypes second (by simp)
              exact max_eq_left hSecond
        · exact max_eq_right hOld₀

/- Behind any other frame, the older fix type is seen. -/
theorem max_slotAfter_of_not_decides
    (hNonempty : types ≠ [])
    (hTypes : ∀ type ∈ types, type ≤ intMax)
    (hStart : start ≤ maxGsaNumber)
    (hDecides : ¬ Decides start types)
    (hKept : start ≠ 1 → old₁ = old₀)
    (hOld : old₀ ≤ intMax) :
    max (slotAfter start types 0 old₀)
      (slotAfter start types 1 old₁) = intMax ↔
        old₀ = intMax := by
  rcases List.exists_cons_of_ne_nil hNonempty with
    ⟨first, rest, rfl⟩
  have hFirst := hTypes first List.mem_cons_self
  have hCases : start = 0 ∨ start = 1 ∨ start = 2 := by
    unfold maxGsaNumber at hStart
    omega
  rcases hCases with rfl | rfl | rfl
  · cases rest with
    | cons second rest =>
        exact absurd (Or.inl ⟨rfl, by simp⟩) hDecides
    | nil =>
        have hLess : first ≠ intMax := by
          rintro rfl
          exact hDecides (Or.inr ⟨by decide, rfl⟩)
        have hSlots : max (slotAfter 0 [first] 0 old₀)
            (slotAfter 0 [first] 1 old₁) = max first old₁ := rfl
        rw [hSlots, hKept (by decide)]
        omega
  · have hLess : first ≠ intMax := by
      rintro rfl
      exact hDecides (Or.inr ⟨by decide, rfl⟩)
    have hSlots : max (slotAfter 1 (first :: rest) 0 old₀)
        (slotAfter 1 (first :: rest) 1 old₁) =
          max old₀ first := rfl
    rw [hSlots]
    omega
  · have hSlots : max (slotAfter 2 (first :: rest) 0 old₀)
        (slotAfter 2 (first :: rest) 1 old₁) =
          max old₀ old₁ := rfl
    rw [hSlots, hKept (by decide)]
    omega

end App

------------------------------------------------------------
-- Parsers That Keep an Older Fix
------------------------------------------------------------

namespace Gps

/- A VTG line without a sentence: only the flag moves on. -/
def idleFrame : List UInt8 := ascii "VTG\r\n"

theorem isFrame_idleFrame : IsFrame idleFrame :=
  ⟨idleFrame, 5, by decide, by decide⟩

theorem parseCall_idleFrame
    (p : Parser) :
    parseCall p (tmp idleFrame) =
      some { p with flag := p.flag + 1 } := by
  have hNone : handed (text idleFrame) = [] :=
    handed_of_span_none (by decide)
  rw [parseCall_tmp isFrame_idleFrame, parseFrame, hNone]
  rfl

theorem Parser.Reachable.idle
    {p : Parser}
    (hReached : p.Reachable)
    (n : Nat) :
    Parser.Reachable
      { p with flag := p.flag + UInt8.ofNat n } := by
  induction n with
  | zero => simpa using hReached
  | succ n ih =>
      apply Reachable.call ih isFrame_idleFrame
      rw [parseCall_idleFrame, UInt8.ofNat_add,
        UInt8.add_assoc]
      rfl

/-
  The flag comes round to the one of the last frame that had
  a sentence: the next frame goes on counting.
-/
theorem Parser.Reachable.goes_on
    {p : Parser}
    (hReached : p.Reachable) :
    ∃ q : Parser, q.Reachable ∧
      q.info = p.info ∧ gsaStart q = p.gsaCount.toNat := by
  refine ⟨_, hReached.idle (p.flagOld - p.flag).toNat,
    rfl, ?_⟩
  have hRound : p.flagOld =
      p.flag + UInt8.ofNat (p.flagOld - p.flag).toNat := by
    rw [UInt8.ofNat_toNat, UInt8.add_comm, UInt8.sub_add_cancel]
  rw [gsaStart, Parser.entered, enterFrame_of_eq hRound]

/- A GSA sentence with an ordinary and the largest fix type. -/
def gsaLine (largest : Bool) : List UInt8 :=
  if largest then
    ascii "$GPGSA,A,2147483647,,,,,,,,,,,,,,,*25\r\n"
  else
    ascii "$GPGSA,A,3,,,,,,,,,,,,,,,*1C\r\n"

/- A sentence that ends a frame. -/
def vtgLine : List UInt8 := ascii "$GPVTG\r\n"

/- A frame with a number of equal GSA sentences. -/
def gsaFrame
    (n : Nat)
    (line : List UInt8) : List (List UInt8) :=
  List.replicate n line ++ [vtgLine]

theorem completeFrame_gsaFrame
    {n : Nat}
    {line : List UInt8}
    (hLine : CompleteSentence line)
    (hFits : (gsaFrame n line).flatten.length ≤
      nmeaFrameBufferLength) :
    CompleteFrame (tmp (gsaFrame n line).flatten)
      (gsaFrame n line) := by
  have hComplete : ∀ l ∈ gsaFrame n line,
      CompleteSentence l := by
    intro l hMem
    rcases List.mem_append.mp hMem with hGsa | hVtg
    · rw [(List.mem_replicate.mp hGsa).2]
      exact hLine
    · rw [List.mem_singleton.mp hVtg]
      exact ⟨by decide, by decide⟩
  have hNul : 0 ∉ (gsaFrame n line).flatten := by
    intro hMem
    rcases List.mem_flatten.mp hMem with ⟨l, hl, hZero⟩
    exact (hComplete l hl).no_nul hZero
  exact
    { terminated := nul_mem_tmp hFits
      nonempty := by simp [gsaFrame]
      complete := hComplete
      text_eq := by
        rw [text_tmp, text_of_nul_notMem hNul] }

theorem filter_gsaFrame
    (n : Nat)
    {line : List UInt8}
    (hGsa : isGsa line = true) :
    (gsaFrame n line).filter isGsa = List.replicate n line := by
  have hVtg : isGsa vtgLine = false := by decide +kernel
  simp [gsaFrame, hGsa, hVtg]

theorem isGsa_gsaLine
    (largest : Bool) :
    isGsa (gsaLine largest) = true := by
  cases largest with
  | false => decide +kernel
  | true => decide +kernel

theorem completeSentence_gsaLine
    (largest : Bool) :
    CompleteSentence (gsaLine largest) := by
  cases largest with
  | false => exact ⟨by decide, by decide⟩
  | true => exact ⟨by decide, by decide⟩

theorem isFrame_gsaFrame
    {n : Nat}
    (hCopies : n = 1 ∨ n = 2)
    (largest : Bool) :
    IsFrame (gsaFrame n (gsaLine largest)).flatten := by
  refine ⟨(gsaFrame n (gsaLine largest)).flatten,
    (gsaFrame n (gsaLine largest)).flatten.length,
    ?_, List.take_length.symm⟩
  rcases hCopies with rfl | rfl
  · cases largest with
    | false => decide +kernel
    | true => decide +kernel
  · cases largest with
    | false => decide +kernel
    | true => decide +kernel

theorem gsaParses_gsaLine
    (largest : Bool) :
    GsaParses (gsaLine largest) := by
  refine ⟨default, ?_⟩
  cases largest with
  | false => decide +kernel
  | true => decide +kernel

theorem gsaParses_of_mem_gsaFrame
    (n : Nat)
    {line : List UInt8}
    (hParses : GsaParses line) :
    ∀ l ∈ gsaFrame n line, isGsa l = true → GsaParses l := by
  intro l hMem hGsa
  rcases List.mem_append.mp hMem with hCopy | hVtg
  · rw [(List.mem_replicate.mp hCopy).2]
    exact hParses
  · have hNot : isGsa vtgLine = false := by decide +kernel
    rw [List.mem_singleton.mp hVtg, hNot] at hGsa
    cases hGsa

/- The parser behind such a frame, the first it was given. -/
theorem reachable_gsaFrame
    {n : Nat}
    (hCopies : n = 1 ∨ n = 2)
    (largest : Bool) :
    ∃ p : Parser, p.Reachable ∧ p.Fresh ∧
      p.gsaCount.toNat = n ∧
      ∀ k (hk : k < maxGsaNumber), k < n →
        p.info.gsa[k].fixType =
          gsaFixType (gsaLine largest) := by
  have hBytes := isFrame_gsaFrame hCopies largest
  have hFrame := completeFrame_gsaFrame
    (completeSentence_gsaLine largest) hBytes.length_le
  have hInit : Parser.init.Fresh := by
    unfold Parser.Fresh
    decide
  rcases assignsSlots_of_fresh hFrame hInit with
    ⟨result, hParse, hSlots⟩
  have hCall : parseCall Parser.init
      (tmp (gsaFrame n (gsaLine largest)).flatten) =
        some result.parser := by
    rw [parseCall, hParse]
    rfl
  have hLines := filter_gsaFrame n (isGsa_gsaLine largest)
  refine ⟨result.parser, .call .init hBytes hCall,
    fresh_parse_complete hFrame hCall, ?_, ?_⟩
  · rw [hSlots.gsaCount, hLines, List.length_replicate]
    rcases hCopies with rfl | rfl
    · rfl
    · rfl
  · intro k hk hCopy
    rw [hSlots.gsa k hk, hLines,
      List.getElem?_replicate_of_lt hCopy]
    exact fixType_of_parses (gsaParses_gsaLine largest) _

theorem fixType_gsaLine
    (largest : Bool) :
    gsaFixType (gsaLine largest) =
      if largest then intMax else 3 := by
  cases largest with
  | false => decide +kernel
  | true => decide +kernel

/-
  Every start is reachable, with an ordinary and with the
  largest fix type in the slots that it keeps.
-/
theorem exists_reachable_start
    {start : Nat}
    (hStart : start ≤ maxGsaNumber)
    (largest : Bool) :
    ∃ p : Parser, p.Reachable ∧ gsaStart p = start ∧
      p.info.gsa[0].fixType =
        gsaFixType (gsaLine largest) ∧
      (start ≠ 1 →
        p.info.gsa[1].fixType = p.info.gsa[0].fixType) := by
  by_cases hZero : start = 0
  · rcases reachable_gsaFrame (Or.inr rfl) largest with
      ⟨p, hReached, hFresh, _, hSlots⟩
    refine ⟨p, hReached, ?_, hSlots 0 _ (by decide), ?_⟩
    · rw [gsaStart, entered_of_fresh hFresh, hZero]
      rfl
    · intro _
      rw [hSlots 0 (by decide) (by decide),
        hSlots 1 (by decide) (by decide)]
  · have hCopies : start = 1 ∨ start = 2 := by
      unfold maxGsaNumber at hStart
      omega
    rcases reachable_gsaFrame hCopies largest with
      ⟨p, hReached, _, hCount, hSlots⟩
    rcases hReached.goes_on with ⟨q, hReached', hInfo, hGoesOn⟩
    refine ⟨q, hReached', hGoesOn.trans hCount, ?_, ?_⟩
    · rw [hInfo]
      exact hSlots 0 (by decide) (by omega)
    · intro hTwo
      rw [hInfo, hSlots 0 (by decide) (by omega),
        hSlots 1 (by decide) (by omega)]

end Gps

------------------------------------------------------------
-- The Fix Mode of the Last Frame
------------------------------------------------------------

namespace App

theorem fixTypes_le
    (lines : List (List UInt8)) :
    ∀ type ∈ fixTypes lines, type ≤ intMax := by
  intro type hMem
  rcases List.mem_map.mp hMem with ⟨line, _, rfl⟩
  exact fixType_writeGsa_le default line (by decide)

/- A reachable parser, behind a frame that decides. -/
theorem fixModeAfter_of_decides
    {memory : List UInt8}
    {lines : List (List UInt8)}
    (hFrame : CompleteFrame memory lines)
    (hParses : ∀ line ∈ lines,
      isGsa line = true → GsaParses line)
    {p : Parser}
    (hReached : p.Reachable)
    (hDecides : Decides (gsaStart p) (fixTypes lines)) :
    fixModeAfter memory p =
      some (lastFix (fixTypes lines)) := by
  rw [fixModeAfter_eq hFrame hParses,
    max_slotAfter_of_decides (fixTypes_le lines)
      (hReached.fixType_le (by decide))
      (hReached.fixType_le (by decide)) hDecides]

/- Behind any other frame, two older fixes are told apart. -/
theorem exists_fixModeAfter_ne
    {memory : List UInt8}
    {lines : List (List UInt8)}
    (hFrame : CompleteFrame memory lines)
    (hGsa : ∃ line ∈ lines, isGsa line = true)
    (hParses : ∀ line ∈ lines,
      isGsa line = true → GsaParses line)
    {start : Nat}
    (hStart : start ≤ maxGsaNumber)
    (hDecides : ¬ Decides start (fixTypes lines)) :
    ∃ p q : Parser,
      (p.Reachable ∧ gsaStart p = start) ∧
      (q.Reachable ∧ gsaStart q = start) ∧
      fixModeAfter memory p ≠ fixModeAfter memory q := by
  have hNonempty : fixTypes lines ≠ [] := by
    rcases hGsa with ⟨line, hMem, hLine⟩
    intro hNil
    rw [fixTypes, List.map_eq_nil_iff,
      List.filter_eq_nil_iff] at hNil
    exact hNil line hMem hLine
  have hSeen : ∀ {p : Parser}, p.Reachable →
      gsaStart p = start →
      (start ≠ 1 →
        p.info.gsa[1].fixType = p.info.gsa[0].fixType) →
      (fixModeAfter memory p = some intMax ↔
        p.info.gsa[0].fixType = intMax) := by
    intro p hReached hFrom hKept
    rw [fixModeAfter_eq hFrame hParses, hFrom,
      Option.some.injEq]
    exact max_slotAfter_of_not_decides hNonempty
      (fixTypes_le lines) hStart hDecides hKept
      (hReached.fixType_le (by decide))
  rcases exists_reachable_start hStart true with
    ⟨p, hReached, hFrom, hFix, hKept⟩
  rcases exists_reachable_start hStart false with
    ⟨q, hReached', hFrom', hFix', hKept'⟩
  rw [fixType_gsaLine] at hFix hFix'
  refine ⟨p, q, ⟨hReached, hFrom⟩, ⟨hReached', hFrom'⟩, ?_⟩
  intro hSame
  rw [(hSeen hReached hFrom hKept).mpr hFix] at hSame
  have hLargest :=
    (hSeen hReached' hFrom' hKept').mp hSame.symm
  rw [hFix'] at hLargest
  revert hLargest
  decide

/-
  Two runs that count from these slots on report one fix
  mode behind a frame, whatever they were given before.
-/
def Determined
    (memory : List UInt8)
    (start start' : Nat) : Prop :=
  ∀ p p' : Parser,
    p.Reachable → gsaStart p = start →
    p'.Reachable → gsaStart p' = start' →
    fixModeAfter memory p = fixModeAfter memory p'

/-
  The fix mode is a function of the last frame exactly when
  the frame decides it, from where the two runs count.
-/
theorem fixMode_determined_iff
    {memory : List UInt8}
    {lines : List (List UInt8)}
    (hFrame : CompleteFrame memory lines)
    (hGsa : ∃ line ∈ lines, isGsa line = true)
    (hParses : ∀ line ∈ lines,
      isGsa line = true → GsaParses line)
    {start start' : Nat}
    (hStart : start ≤ maxGsaNumber)
    (hStart' : start' ≤ maxGsaNumber) :
    Determined memory start start' ↔
      Decides start (fixTypes lines) ∧
        Decides start' (fixTypes lines) := by
  constructor
  · intro hSame
    rcases exists_reachable_start hStart true with
      ⟨r, hReached, hFrom, _⟩
    rcases exists_reachable_start hStart' true with
      ⟨r', hReached', hFrom', _⟩
    constructor
    · by_contra hDecides
      rcases exists_fixModeAfter_ne hFrame hGsa hParses hStart
        hDecides with ⟨p, q, ⟨hp, hpFrom⟩, ⟨hq, hqFrom⟩, hNe⟩
      exact hNe ((hSame p r' hp hpFrom hReached' hFrom').trans
        (hSame q r' hq hqFrom hReached' hFrom').symm)
    · by_contra hDecides
      rcases exists_fixModeAfter_ne hFrame hGsa hParses hStart'
        hDecides with ⟨p, q, ⟨hp, hpFrom⟩, ⟨hq, hqFrom⟩, hNe⟩
      exact hNe
        ((hSame r p hReached hFrom hp hpFrom).symm.trans
          (hSame r q hReached hFrom hq hqFrom))
  · rintro ⟨hDecides, hDecides'⟩ p p' hReached rfl hReached' rfl
    rw [fixModeAfter_of_decides hFrame hParses hReached hDecides,
      fixModeAfter_of_decides hFrame hParses hReached'
        hDecides']

theorem fixMode_determined_two_sentences :
    Determined
      (tmp (gsaFrame 2 (gsaLine false)).flatten) 0 0 := by
  have hFrame := completeFrame_gsaFrame
    (completeSentence_gsaLine false)
    (isFrame_gsaFrame (Or.inr rfl) false).length_le
  have hGsa : ∃ line ∈ gsaFrame 2 (gsaLine false),
      isGsa line = true :=
    ⟨gsaLine false, by simp [gsaFrame],
      isGsa_gsaLine false⟩
  have hParses := gsaParses_of_mem_gsaFrame 2
    (gsaParses_gsaLine false)
  apply (fixMode_determined_iff hFrame hGsa hParses
    (Nat.zero_le _) (Nat.zero_le _)).mpr
  have hDecides : Decides 0
      (fixTypes (gsaFrame 2 (gsaLine false))) := by
    left
    rw [fixTypes, filter_gsaFrame 2 (isGsa_gsaLine false)]
    decide
  exact ⟨hDecides, hDecides⟩

/- A GSA sentence of a receiver that has lost its fix. -/
def lostLine : List UInt8 :=
  ascii "$GPGSA,A,1,,,,,,,,,,,,,,,*1E\r\n"

/- A lost fix in one GSA sentence does not undo an older fix. -/
theorem lost_fix_hidden :
    ¬ ∀ memory lines, CompleteFrame memory lines →
      (∃ line ∈ lines, isGsa line = true) →
      (∀ line ∈ lines, isGsa line = true → GsaParses line) →
      ∀ p p' : Parser, p.Reachable → p'.Reachable →
        fixModeAfter memory p = fixModeAfter memory p' := by
  intro hAll
  have hLine : CompleteSentence lostLine :=
    ⟨by decide, by decide⟩
  have hIsGsa : isGsa lostLine = true := by decide +kernel
  have hFits : (gsaFrame 1 lostLine).flatten.length ≤
      nmeaFrameBufferLength := by
    decide
  have hFrame := completeFrame_gsaFrame hLine hFits
  have hParses := gsaParses_of_mem_gsaFrame 1
    (show GsaParses lostLine from ⟨default, by decide +kernel⟩)
  have hTypes : fixTypes (gsaFrame 1 lostLine) = [1] := by
    rw [fixTypes, filter_gsaFrame 1 hIsGsa]
    decide +kernel
  rcases exists_reachable_start (Nat.zero_le _) false with
    ⟨p, hReached, hFrom, hFix, hKept⟩
  have hSame := hAll _ _ hFrame
    ⟨lostLine, by simp [gsaFrame], hIsGsa⟩ hParses
    Parser.init p .init hReached
  have hInit : gsaStart Parser.init = 0 := by decide
  rw [fixModeAfter_eq hFrame hParses,
    fixModeAfter_eq hFrame hParses, hTypes, hInit, hFrom,
    hKept (by decide), hFix, fixType_gsaLine] at hSame
  revert hSame
  decide

end App
