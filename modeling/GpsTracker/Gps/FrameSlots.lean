import GpsTracker.Gps.ParseCalls
import GpsTracker.Lib.Slots
import GpsTracker.Lib.Transition

/-
  Which slots the GSA and GSV sentences of a frame go to.

  `ParseOneNmea` counts the sentences of a frame in two
  static variables, which it resets when the frame flag is
  not that of the sentence before. The flag changes with
  each call of `GPS_Parse`, but is compared with the one of
  the last call that had a sentence.

  Main declarations:
    * `Gps.CompleteFrame`, `Gps.parseCall`
    * `Gps.gsaSlots_foldl`, `Gps.gsvSlots_foldl`
    * `Gps.AssignsSlots`, `Gps.slots_assigned`
-/

open CString Minmea

------------------------------------------------------------
-- Complete Frames
------------------------------------------------------------

namespace Gps

/- A string that begins with '$' and ends with its "\r\n". -/
structure CompleteSentence (line : List UInt8) : Prop where
  span : sentenceSpan line = some (0, line.length)
  no_nul : 0 ∉ line

/- The string in a memory is made of complete sentences. -/
structure CompleteFrame
    (memory : List UInt8)
    (lines : List (List UInt8)) : Prop where
  terminated : 0 ∈ memory
  nonempty : lines ≠ []
  complete : ∀ line ∈ lines, CompleteSentence line
  text_eq : text memory = lines.flatten

/- The sentences of a frame are handed over one by one. -/
theorem handed_flatten
    {lines : List (List UInt8)}
    (hComplete : ∀ line ∈ lines, CompleteSentence line) :
    handed lines.flatten = lines := by
  induction lines with
  | nil =>
      rw [List.flatten_nil, handed_of_span_none]
      decide
  | cons line lines ih =>
      rw [List.forall_mem_cons] at hComplete
      have hSpan := sentenceSpan_append lines.flatten
        hComplete.1.span
      rw [List.flatten_cons, handed_of_span_some hSpan,
        List.take_left, List.drop_zero, Nat.sub_zero,
        List.drop_left, ih hComplete.2]

/- `GPS_Parse`, as a step of the parser. -/
def parseCall
    (p : Parser)
    (memory : List UInt8) : Option Parser :=
  (parse memory p).map (·.parser)

/- The parser behind the lines of a call. -/
theorem parse_complete
    {memory : List UInt8}
    {lines : List (List UInt8)}
    (hFrame : CompleteFrame memory lines)
    (p : Parser) :
    ∃ result,
      parse memory p = some result ∧
        result.calls = lines ∧
        result.parser =
          { parseLines p lines with
            flag := (parseLines p lines).flag + 1 } := by
  rcases parse_spec hFrame.terminated p with
    ⟨result, hParse, _, hCalls, hParser⟩
  rw [hFrame.text_eq, handed_flatten hFrame.complete]
    at hCalls hParser
  exact ⟨result, hParse, hCalls, hParser⟩

end Gps

------------------------------------------------------------
-- Slots
------------------------------------------------------------

namespace Gps

/- A sentence that is classified as GSA. -/
def isGsa (line : List UInt8) : Bool :=
  sentenceId line false = .gsa

/- A sentence that is classified as GSV. -/
def isGsv (line : List UInt8) : Bool :=
  sentenceId line false = .gsv

namespace Parser

def gsaSlots (p : Parser) : Slots SentenceGsa maxGsaNumber :=
  { slots := p.info.gsa
    count := p.gsaCount.toNat }

def gsvSlots (p : Parser) : Slots SentenceGsv maxGsvNumber :=
  { slots := p.info.gsv
    count := p.gsvCount.toNat }

/- The switch of `ParseOneNmea` for a sentence. -/
def sentence
    (p : Parser)
    (line : List UInt8) : Parser :=
  (parseSentence p line (sentenceId line false)).2

end Parser

/- `minmea_parse_gsa` on a slot. -/
def writeGsa
    (slot : SentenceGsa)
    (line : List UInt8) : SentenceGsa :=
  (parseGsa slot line).2

/- `minmea_parse_gsv` on a slot. -/
def writeGsv
    (slot : SentenceGsv)
    (line : List UInt8) : SentenceGsv :=
  (parseGsv slot line).2

theorem toNat_succ
    {n : UInt8}
    {bound : Nat}
    (hLess : n.toNat < bound)
    (hBound : bound ≤ 255) :
    (n + 1).toNat = n.toNat + 1 := by
  rw [UInt8.toNat_add]
  exact Nat.mod_eq_of_lt (by change n.toNat + 1 < 256; omega)

/- What one sentence does to the slots of the GSA sentences. -/
theorem gsaSlots_sentence
    (p : Parser)
    (line : List UInt8) :
    (p.sentence line).gsaSlots =
      if isGsa line then
        p.gsaSlots.fill writeGsa line
      else
        p.gsaSlots := by
  unfold Parser.sentence isGsa
  cases sentenceId line false with
  | gsa =>
      simp only [parseSentence, decide_true, if_true]
      by_cases hSlot : p.gsaCount.toNat < maxGsaNumber
      · have hFill : p.gsaSlots.fill writeGsa line = _ :=
          Slots.fill_of_lt hSlot line
        rw [hFill]
        simp only [dif_pos hSlot, Parser.gsaSlots,
          toNat_succ hSlot (by decide)]
        rfl
      · have hFill : p.gsaSlots.fill writeGsa line = _ :=
          Slots.fill_of_not_lt hSlot line
        rw [hFill]
        simp only [dif_neg hSlot]
  | gsv =>
      simp only [parseSentence, reduceCtorEq, decide_false,
        Bool.false_eq_true, if_false]
      split
      · rfl
      · rfl
  | _ => rfl

/- The same for the GSV sentences. -/
theorem gsvSlots_sentence
    (p : Parser)
    (line : List UInt8) :
    (p.sentence line).gsvSlots =
      if isGsv line then
        p.gsvSlots.fill writeGsv line
      else
        p.gsvSlots := by
  unfold Parser.sentence isGsv
  cases sentenceId line false with
  | gsv =>
      simp only [parseSentence, decide_true, if_true]
      by_cases hSlot : p.gsvCount.toNat < maxGsvNumber
      · have hFill : p.gsvSlots.fill writeGsv line = _ :=
          Slots.fill_of_lt hSlot line
        rw [hFill]
        simp only [dif_pos hSlot, Parser.gsvSlots,
          toNat_succ hSlot (by decide)]
        rfl
      · have hFill : p.gsvSlots.fill writeGsv line = _ :=
          Slots.fill_of_not_lt hSlot line
        rw [hFill]
        simp only [dif_neg hSlot]
  | gsa =>
      simp only [parseSentence, reduceCtorEq, decide_false,
        Bool.false_eq_true, if_false]
      split
      · rfl
      · rfl
  | _ => rfl

/- A sentence does not touch the frame flags. -/
theorem flags_sentence
    (p : Parser)
    (line : List UInt8) :
    (p.sentence line).flag = p.flag ∧
      (p.sentence line).flagOld = p.flagOld := by
  unfold Parser.sentence
  cases sentenceId line false with
  | gsa =>
      simp only [parseSentence]
      split
      · exact ⟨rfl, rfl⟩
      · exact ⟨rfl, rfl⟩
  | gsv =>
      simp only [parseSentence]
      split
      · exact ⟨rfl, rfl⟩
      · exact ⟨rfl, rfl⟩
  | _ => exact ⟨rfl, rfl⟩

end Gps

------------------------------------------------------------
-- One Call
------------------------------------------------------------

namespace Gps

/- The parser once the first sentence of a call is entered. -/
def Parser.entered (p : Parser) : Parser :=
  p.enterFrame p.flag

theorem enterFrame_of_eq
    {p : Parser}
    (hFlag : p.flagOld = p.flag) :
    p.enterFrame p.flag = p := by
  simp [Parser.enterFrame, hFlag]

theorem flags_entered
    (p : Parser) :
    p.entered.flag = p.flag ∧ p.entered.flagOld = p.flag := by
  unfold Parser.entered Parser.enterFrame
  split
  · exact ⟨rfl, rfl⟩
  · next hSame =>
      exact ⟨rfl, (not_not.mp hSame).symm⟩

/- Later sentences of a call do not reset the counters. -/
theorem parseLines_of_eq
    {p : Parser}
    (hFlag : p.flagOld = p.flag)
    (lines : List (List UInt8)) :
    parseLines p lines = lines.foldl Parser.sentence p := by
  induction lines generalizing p with
  | nil => rfl
  | cons line lines ih =>
      have hFlags := flags_sentence p line
      have hStep : (parseOneNmea p line p.flag).2 =
          p.sentence line := by
        simp only [parseOneNmea, enterFrame_of_eq hFlag]
        rfl
      have hRest : parseLines p (line :: lines) =
          parseLines (parseOneNmea p line p.flag).2 lines :=
        rfl
      rw [hRest, hStep, List.foldl_cons]
      exact ih (by rw [hFlags.1, hFlags.2, hFlag])

/- The first one enters the frame. -/
theorem parseLines_eq
    (p : Parser)
    {lines : List (List UInt8)}
    (hLines : lines ≠ []) :
    parseLines p lines =
      lines.foldl Parser.sentence p.entered := by
  have hFlags := flags_entered p
  cases lines with
  | nil => exact absurd rfl hLines
  | cons line lines =>
      rw [← parseLines_of_eq (by rw [hFlags.1, hFlags.2])]
      have hStep : parseOneNmea p line p.flag =
          parseOneNmea p.entered line p.entered.flag := by
        have hAgain : p.entered.enterFrame p.entered.flag =
            p.entered :=
          enterFrame_of_eq (by rw [hFlags.1, hFlags.2])
        simp only [parseOneNmea, hAgain]
        rfl
      unfold parseLines
      rw [List.foldl_cons, List.foldl_cons, hStep]

theorem gsaSlots_foldl
    (p : Parser)
    (lines : List (List UInt8)) :
    (lines.foldl Parser.sentence p).gsaSlots =
      p.gsaSlots.fillAll writeGsa (lines.filter isGsa) :=
  Slots.fillAll_filter_of_step gsaSlots_sentence p lines

theorem gsvSlots_foldl
    (p : Parser)
    (lines : List (List UInt8)) :
    (lines.foldl Parser.sentence p).gsvSlots =
      p.gsvSlots.fillAll writeGsv (lines.filter isGsv) :=
  Slots.fillAll_filter_of_step gsvSlots_sentence p lines

theorem flags_foldl
    (p : Parser)
    (lines : List (List UInt8)) :
    (lines.foldl Parser.sentence p).flag = p.flag ∧
      (lines.foldl Parser.sentence p).flagOld =
        p.flagOld := by
  induction lines generalizing p with
  | nil => exact ⟨rfl, rfl⟩
  | cons line lines ih =>
      rw [List.foldl_cons, (ih _).1, (ih _).2]
      exact flags_sentence p line

end Gps

------------------------------------------------------------
-- Sequences of Calls
------------------------------------------------------------

namespace Gps

open Transition

/- The next call begins to count at zero. -/
def Parser.Fresh (p : Parser) : Prop :=
  p.flag ≠ p.flagOld

theorem entered_of_fresh
    {p : Parser}
    (hFresh : p.Fresh) :
    p.entered =
      { p with flagOld := p.flag, gsvCount := 0, gsaCount := 0 } :=
  if_pos hFresh

/- A call with a sentence leaves the flags apart. -/
theorem fresh_parse_complete
    {memory : List UInt8}
    {lines : List (List UInt8)}
    (hFrame : CompleteFrame memory lines)
    {p q : Parser}
    (hCall : parseCall p memory = some q) :
    q.Fresh := by
  rcases parse_complete hFrame p with
    ⟨result, hParse, _, hParser⟩
  simp only [parseCall, hParse, Option.map_some,
    Option.some.injEq] at hCall
  have hEntered := flags_entered p
  have hFlags := flags_foldl p.entered lines
  rw [← hCall, hParser, parseLines_eq p hFrame.nonempty]
  unfold Parser.Fresh
  simp only [hFlags.1, hFlags.2, hEntered.1, hEntered.2]
  exact fun hSame => by simp at hSame

/- What a call does to the slots, from where it counts. -/
theorem slots_parse
    {memory : List UInt8}
    {lines : List (List UInt8)}
    (hFrame : CompleteFrame memory lines)
    (p : Parser) :
    ∃ result,
      parse memory p = some result ∧
        result.calls = lines ∧
        result.parser.gsaSlots =
          p.entered.gsaSlots.fillAll writeGsa
            (lines.filter isGsa) ∧
        result.parser.gsvSlots =
          p.entered.gsvSlots.fillAll writeGsv
            (lines.filter isGsv) := by
  rcases parse_complete hFrame p with
    ⟨result, hParse, hCalls, hParser⟩
  rw [parseLines_eq p hFrame.nonempty] at hParser
  refine ⟨result, hParse, hCalls, ?_, ?_⟩
  · rw [← gsaSlots_foldl, hParser]
    rfl
  · rw [← gsvSlots_foldl, hParser]
    rfl

/-
  How a call fills the slots: sentence number `k` of its
  kind, counted from zero, is parsed into slot `k`, and
  those that find no slot are ignored.
-/
structure AssignsSlots
    (p : Parser)
    (lines : List (List UInt8))
    (result : ParseState) : Prop where
  calls : result.calls = lines
  gsa : ∀ k (hk : k < maxGsaNumber),
    result.parser.info.gsa[k] =
      ((lines.filter isGsa)[k]?).elim p.info.gsa[k]
        (writeGsa p.info.gsa[k])
  gsv : ∀ k (hk : k < maxGsvNumber),
    result.parser.info.gsv[k] =
      ((lines.filter isGsv)[k]?).elim p.info.gsv[k]
        (writeGsv p.info.gsv[k])
  gsaCount : result.parser.gsaCount.toNat =
    min maxGsaNumber (lines.filter isGsa).length
  gsvCount : result.parser.gsvCount.toNat =
    min maxGsvNumber (lines.filter isGsv).length

/- A call that begins to count at zero assigns the slots. -/
theorem assignsSlots_of_fresh
    {memory : List UInt8}
    {lines : List (List UInt8)}
    (hFrame : CompleteFrame memory lines)
    {p : Parser}
    (hFresh : p.Fresh) :
    ∃ result, parse memory p = some result ∧
      AssignsSlots p lines result := by
  rcases slots_parse hFrame p with
    ⟨result, hParse, hCalls, hGsa, hGsv⟩
  have hEntered : p.entered.gsaSlots = ⟨p.info.gsa, 0⟩ ∧
      p.entered.gsvSlots = ⟨p.info.gsv, 0⟩ := by
    rw [entered_of_fresh hFresh]
    exact ⟨rfl, rfl⟩
  rw [hEntered.1] at hGsa
  rw [hEntered.2] at hGsv
  have hGsaEmpty : (Slots.mk p.info.gsa 0).count = 0 := rfl
  have hGsvEmpty : (Slots.mk p.info.gsv 0).count = 0 := rfl
  rcases Slots.fillAll_of_empty hGsaEmpty writeGsa
    (lines.filter isGsa) with ⟨hGsaSlots, hGsaCount⟩
  rcases Slots.fillAll_of_empty hGsvEmpty writeGsv
    (lines.filter isGsv) with ⟨hGsvSlots, hGsvCount⟩
  rw [← hGsa] at hGsaSlots hGsaCount
  rw [← hGsv] at hGsvSlots hGsvCount
  exact ⟨result, hParse,
    { calls := hCalls
      gsa := hGsaSlots
      gsv := hGsvSlots
      gsaCount := hGsaCount
      gsvCount := hGsvCount }⟩

/- Calls on complete frames return, and stay apart. -/
theorem exists_run_fresh
    {calls : List (List UInt8)}
    (hCalls : ∀ memory ∈ calls,
      ∃ lines, CompleteFrame memory lines)
    {p : Parser}
    (hFresh : p.Fresh) :
    ∃ q, run parseCall p calls = some q ∧ q.Fresh := by
  induction calls generalizing p with
  | nil => exact ⟨p, rfl, hFresh⟩
  | cons memory calls ih =>
      rw [List.forall_mem_cons] at hCalls
      rcases hCalls.1 with ⟨lines, hFrame⟩
      rcases parse_complete hFrame p with ⟨result, hParse, _⟩
      have hCall : parseCall p memory = some result.parser := by
        simp [parseCall, hParse]
      rw [run_cons_of_some hCall]
      exact ih hCalls.2 (fresh_parse_complete hFrame hCall)

/-
  Over any sequence of calls on complete frames, each call
  returns and assigns the slots of its own frame.
-/
theorem slots_assigned
    {calls : List (List UInt8)}
    (hCalls : ∀ memory ∈ calls,
      ∃ lines, CompleteFrame memory lines)
    {before after : List (List UInt8)}
    {memory : List UInt8}
    (hSplit : calls = before ++ memory :: after)
    {lines : List (List UInt8)}
    (hFrame : CompleteFrame memory lines) :
    ∃ p result,
      run parseCall Parser.init before = some p ∧
        parse memory p = some result ∧
        AssignsSlots p lines result := by
  have hBefore : ∃ p, run parseCall Parser.init before = some p ∧
      p.Fresh := by
    have hEach : ∀ memory ∈ before,
        ∃ lines, CompleteFrame memory lines := by
      intro memory hMem
      apply hCalls
      rw [hSplit]
      exact List.mem_append_left _ hMem
    exact exists_run_fresh hEach (by unfold Parser.Fresh; decide)
  rcases hBefore with ⟨p, hRun, hFresh⟩
  rcases assignsSlots_of_fresh hFrame hFresh with
    ⟨result, hParse, hSlots⟩
  exact ⟨p, result, hRun, hParse, hSlots⟩

/- A GSA and a GSV sentence without any fields. -/
def bareFrame : List (List UInt8) :=
  [ascii "$GPGSA\r\n", ascii "$GPGSV\r\n"]

theorem completeFrame_bareFrame :
    CompleteFrame (bareFrame.flatten ++ [0]) bareFrame where
  terminated := by decide
  nonempty := by decide
  complete := by
    intro line hMem
    have hBoth : line = ascii "$GPGSA\r\n" ∨
        line = ascii "$GPGSV\r\n" := by
      simpa [bareFrame] using hMem
    rcases hBoth with rfl | rfl
    · exact ⟨by decide, by decide⟩
    · exact ⟨by decide, by decide⟩
  text_eq := by decide

theorem slots_assigned_second_call :
    ∃ p result,
      run parseCall Parser.init [bareFrame.flatten ++ [0]] =
          some p ∧
        parse (bareFrame.flatten ++ [0]) p = some result ∧
        AssignsSlots p bareFrame result := by
  have hCalls : ∀ memory ∈ [bareFrame.flatten ++ [0],
      bareFrame.flatten ++ [0]],
      ∃ lines, CompleteFrame memory lines := by
    intro memory hMem
    have hSame : memory = bareFrame.flatten ++ [0] := by
      simpa using hMem
    exact ⟨bareFrame, hSame ▸ completeFrame_bareFrame⟩
  have hSplit : [bareFrame.flatten ++ [0],
      bareFrame.flatten ++ [0]] =
      [bareFrame.flatten ++ [0]] ++
        (bareFrame.flatten ++ [0]) :: [] := rfl
  exact slots_assigned hCalls hSplit completeFrame_bareFrame

end Gps
