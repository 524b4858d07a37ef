import GpsTracker.Gps.ParseNmea
import GpsTracker.Gps.Sentences

/-
  What `GPS_Parse` does with a NUL-terminated string.

  The NUL that the loop writes behind a sentence is taken
  back before the next iteration, so the loop always sees
  the string it was called with, from its cursor on. It
  always ends, and it hands the strings of `handed` to
  `ParseOneNmea`; these are the sentences of the string as
  long as the cursor never meets an old '$'.

  Main declarations:
    * `Gps.parseLines`
    * `Gps.parse_spec`
    * `Gps.parse_calls_eq_sentences_iff`
-/

open CString ListSearch

------------------------------------------------------------
-- Memory
------------------------------------------------------------

namespace Gps

variable {s rest : List UInt8}

theorem text_drop
    (hNul : 0 ∉ s)
    {cursor : Nat}
    (hCursor : cursor ≤ s.length) :
    text ((s ++ 0 :: rest).drop cursor) = s.drop cursor := by
  rw [List.drop_append_of_le_length hCursor]
  exact text_append_nul
    (fun hMem => hNul (List.mem_of_mem_drop hMem)) rest

theorem strstr_eq
    (hNul : 0 ∉ s)
    {cursor : Nat}
    (hCursor : cursor ≤ s.length)
    (pattern : List UInt8) :
    strstr (s ++ 0 :: rest) cursor pattern =
      (find pattern (s.drop cursor)).map (cursor + ·) := by
  rw [strstr, text_drop hNul hCursor]

/- The string between a position and a written NUL. -/
theorem text_drop_set_nul
    (hNul : 0 ∉ s)
    {start stop : Nat}
    (hStart : start ≤ stop)
    (hStop : stop ≤ s.length) :
    text (((s ++ 0 :: rest).set stop 0).drop start) =
      (s.take stop).drop start := by
  have hFits : stop < (s ++ 0 :: rest).length := by
    rw [List.length_append, List.length_cons]
    omega
  have hLength : start ≤ (s.take stop).length := by
    rw [List.length_take]
    omega
  rw [List.set_eq_take_append_cons_drop, if_pos hFits,
    List.take_append_of_le_length hStop,
    List.drop_append_of_le_length hLength]
  apply text_append_nul
  intro hMem
  exact hNul (List.mem_of_mem_take (List.mem_of_mem_drop hMem))

/- `*(index2 + 2) = tmpStore` restores the byte. -/
theorem set_set_getD
    (memory : List UInt8)
    (i : Nat) :
    (memory.set i 0).set i (memory.getD i 0) = memory := by
  rw [List.set_set]
  apply List.ext_getElem?
  intro k
  rw [List.getElem?_set]
  split
  · next hEq =>
      subst hEq
      split
      · next hFits => simp [List.getD, hFits]
      · next hOut => simp [Nat.le_of_not_lt hOut]
  · rfl

end Gps

------------------------------------------------------------
-- The Loop
------------------------------------------------------------

namespace Gps

/- The calls of `ParseOneNmea` for the lines of one frame. -/
def parseLines
    (p : Parser)
    (lines : List (List UInt8)) : Parser :=
  lines.foldl
    (fun p line => (parseOneNmea p line p.flag).2) p

/- The loop is inside the string that it was called with. -/
structure ParseState.Inside
    (state : ParseState)
    (s rest : List UInt8) : Prop where
  memory_eq : state.memory = s ++ 0 :: rest
  nmeas_le : state.nmeas ≤ s.length

/- The state after the sentence of a span. -/
def ParseState.pass
    (state : ParseState)
    (nmea : List UInt8) : ParseState :=
  { memory := state.memory
    nmeas := state.nmeas + nmea.length
    parser :=
      (parseOneNmea state.parser nmea state.parser.flag).2
    retFlag :=
      (parseOneNmea state.parser nmea state.parser.flag).1
    calls := state.calls ++ [nmea] }

variable {s rest : List UInt8}
variable {state : ParseState}

theorem parseBody_of_span_none
    (hNul : 0 ∉ s)
    (hInside : state.Inside s rest)
    (hSpan : sentenceSpan (s.drop state.nmeas) = none) :
    parseBody state = .done state := by
  unfold parseBody
  rw [hInside.memory_eq, strstr_eq hNul hInside.nmeas_le]
  cases hStart : find (ascii "$") (s.drop state.nmeas) with
  | none => rfl
  | some start =>
      have hFits := find_add_length_le (by decide) hStart
      have hInString := hInside.nmeas_le
      rw [List.length_drop] at hFits
      have hCursor : state.nmeas + start ≤ s.length := by
        omega
      simp only [Option.map_some]
      rw [strstr_eq hNul hCursor]
      cases hStop : find crlf
          (s.drop (state.nmeas + start)) with
      | none => rfl
      | some length =>
          rw [← List.drop_drop] at hStop
          have hSome := sentenceSpan_eq_some_iff.mpr
            ⟨hStart, length, hStop, rfl⟩
          rw [hSpan] at hSome
          cases hSome

theorem parseBody_of_span_some
    (hNul : 0 ∉ s)
    (hInside : state.Inside s rest)
    {start stop : Nat}
    (hSpan : sentenceSpan (s.drop state.nmeas) =
      some (start, stop)) :
    parseBody state = .next (state.pass
      (((s.drop state.nmeas).take stop).drop start)) := by
  have hBounds := sentenceSpan_bounds hSpan
  rcases sentenceSpan_eq_some_iff.mp hSpan with
    ⟨hStart, length, hStop, rfl⟩
  rw [List.length_drop] at hBounds
  rw [List.drop_drop] at hStop
  have hCursor : state.nmeas + start ≤ s.length := by
    omega
  have hNmea :
      text (((s ++ 0 :: rest).set
          (state.nmeas + start + length + 2) 0).drop
            (state.nmeas + start)) =
        ((s.drop state.nmeas).take
          (start + length + 2)).drop start := by
    rw [text_drop_set_nul hNul (by omega) (by omega),
      ← List.drop_drop, List.drop_take]
    congr 2
    omega
  have hLength :
      (((s.drop state.nmeas).take
          (start + length + 2)).drop start).length =
        state.nmeas + start + length -
          (state.nmeas + start) + 2 := by
    rw [List.length_drop, List.length_take,
      List.length_drop]
    omega
  unfold parseBody
  rw [hInside.memory_eq, strstr_eq hNul hInside.nmeas_le,
    hStart]
  simp only [Option.map_some]
  rw [strstr_eq hNul hCursor, hStop]
  simp only [Option.map_some, set_set_getD, hNmea,
    ParseState.pass, hLength, hInside.memory_eq]

theorem length_take_drop_of_span
    {string : List UInt8}
    {start stop : Nat}
    (hSpan : sentenceSpan string = some (start, stop)) :
    ((string.take stop).drop start).length =
      stop - start := by
  have hBounds := sentenceSpan_bounds hSpan
  rw [List.length_drop, List.length_take]
  omega

/- The cursor moves on by the length of the sentence. -/
theorem nmeas_pass
    {start stop : Nat}
    (hSpan : sentenceSpan (s.drop state.nmeas) =
      some (start, stop)) :
    (state.pass (((s.drop state.nmeas).take stop).drop
      start)).nmeas = state.nmeas + (stop - start) := by
  rw [ParseState.pass, length_take_drop_of_span hSpan]

/- A pass leaves the loop inside its string. -/
theorem ParseState.Inside.pass
    (hInside : state.Inside s rest)
    {start stop : Nat}
    (hSpan : sentenceSpan (s.drop state.nmeas) =
      some (start, stop)) :
    (state.pass (((s.drop state.nmeas).take stop).drop
      start)).Inside s rest := by
  have hBounds := sentenceSpan_bounds hSpan
  have hInString := hInside.nmeas_le
  rw [List.length_drop] at hBounds
  exact
    { memory_eq := hInside.memory_eq
      nmeas_le := by
        rw [nmeas_pass hSpan]
        omega }

/- The loop ends and hands over what `handed` says. -/
theorem run_parseBody
    (hNul : 0 ∉ s)
    (hInside : state.Inside s rest)
    {fuel : Nat}
    (hFuel : s.length - state.nmeas < fuel) :
    ∃ result,
      Loop.run parseBody fuel state = some result ∧
        result.memory = s ++ 0 :: rest ∧
        result.calls =
          state.calls ++ handed (s.drop state.nmeas) ∧
        result.parser =
          parseLines state.parser
            (handed (s.drop state.nmeas)) := by
  induction fuel generalizing state with
  | zero => omega
  | succ fuel ih =>
      cases hSpan : sentenceSpan (s.drop state.nmeas) with
      | none =>
          refine ⟨state, Loop.run_succ_of_done
            (parseBody_of_span_none hNul hInside hSpan) fuel,
            hInside.memory_eq, ?_, ?_⟩
          · simp [handed_of_span_none hSpan]
          · rw [handed_of_span_none hSpan]
            rfl
      | some span =>
          rcases span with ⟨start, stop⟩
          have hBounds := sentenceSpan_bounds hSpan
          rw [List.length_drop] at hBounds
          have hCursor := nmeas_pass hSpan
          rcases ih (hInside.pass hSpan)
              (by rw [hCursor]; omega) with
            ⟨result, hRun, hMemory, hCalls, hParser⟩
          rw [hCursor, ← List.drop_drop] at hCalls hParser
          refine ⟨result, ?_, hMemory, ?_, ?_⟩
          · rw [Loop.run_succ_of_next
              (parseBody_of_span_some hNul hInside hSpan)]
            exact hRun
          · rw [hCalls, handed_of_span_some hSpan]
            simp [ParseState.pass]
          · rw [hParser, handed_of_span_some hSpan]
            rfl

/- `GPS_Parse` always returns. -/
theorem parse_spec
    {memory : List UInt8}
    (hNul : 0 ∈ memory)
    (parser : Parser) :
    ∃ result,
      parse memory parser = some result ∧
        result.memory = memory ∧
        result.calls = handed (text memory) ∧
        result.parser =
          { parseLines parser (handed (text memory)) with
            flag := (parseLines parser
              (handed (text memory))).flag + 1 } := by
  rcases exists_eq_text_append hNul with ⟨rest, hMemory⟩
  have hInside :
      (parseStart memory parser).Inside (text memory) rest :=
    { memory_eq := hMemory
      nmeas_le := Nat.zero_le _ }
  have hFuel : (text memory).length - 0 <
      memory.length + 1 := by
    have hLe := (text_isPrefix memory).length_le
    omega
  rcases run_parseBody (nul_notMem_text memory) hInside
      hFuel with ⟨result, hRun, hKept, hCalls, hParser⟩
  refine ⟨result.finish, ?_, ?_, ?_, ?_⟩
  · rw [parse, hRun]
    rfl
  · exact hKept.trans hMemory.symm
  · rw [ParseState.finish, hCalls]
    rfl
  · show { result.parser with
      flag := result.parser.flag + 1 } = _
    rw [hParser]
    rfl

end Gps

------------------------------------------------------------
-- The Strings Handed Over
------------------------------------------------------------

namespace Gps

/-
  `GPS_Parse` hands over the sentences of its string exactly
  when its cursor never meets an old '$': the end of a
  sentence as long as everything skipped so far holds none.
-/
theorem parse_calls_eq_sentences_iff
    {memory : List UInt8}
    (hNul : 0 ∈ memory)
    (parser : Parser) :
    (∃ result,
      parse memory parser = some result ∧
        result.calls = sentences (text memory)) ↔
      SkippedClear 0
        (sentenceSegmenter.segments (text memory)) := by
  rcases parse_spec hNul parser with
    ⟨result, hParse, _, hCalls, _⟩
  rw [← handed_eq_sentences_iff, ← hCalls, hParse]
  simp

/- Two sentences behind a line that was cut. -/
theorem parse_calls_eq_sentences_cut_line :
    ∃ result,
      parse (ascii "*41\r\n$A,1\r\n$B,2\r\n" ++ [0])
          Parser.init = some result ∧
        result.calls = sentences
          (text (ascii "*41\r\n$A,1\r\n$B,2\r\n" ++ [0])) := by
  rw [parse_calls_eq_sentences_iff (by decide)]
  rw [Segmenter.segments_of_cut_some (n := 11) (by decide),
    Segmenter.segments_of_cut_some (n := 6) (by decide),
    Segmenter.segments_of_cut_none (by decide)]
  decide

/- A sentence no longer than what was skipped is repeated. -/
theorem parse_calls_ne_sentences :
    ¬ ∀ (memory : List UInt8) (parser : Parser),
      0 ∈ memory →
        ∃ result,
          parse memory parser = some result ∧
            result.calls = sentences (text memory) := by
  intro hAll
  have hText : text (ascii "2.2*1A\r\n$GPVTG\r\n" ++ [0]) =
      ascii "2.2*1A\r\n$GPVTG\r\n" := by
    decide
  have hNul : 0 ∈ ascii "2.2*1A\r\n$GPVTG\r\n" ++ [0] := by
    decide
  rcases hAll _ Parser.init hNul with
    ⟨result, hParse, hCalls⟩
  rcases parse_spec hNul Parser.init with
    ⟨result', hParse', _, hCalls', _⟩
  rw [hParse] at hParse'
  cases hParse'
  rw [hCalls', handed_eq_sentences_iff, hText,
    Segmenter.segments_of_cut_some (n := 16) (by decide)]
    at hCalls
  exact absurd hCalls.1 (by decide)

end Gps
