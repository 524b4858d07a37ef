import GpsTracker.Gps.ParseCalls

/-
  The memory of `GPS_Parse`.

  Between two iterations the memory is the one the call was
  made with, and the cursor stands in its string or on the
  terminating NUL. The byte behind a sentence, which the NUL
  replaces for the time of one `ParseOneNmea`, belongs to
  the string or is its terminator.

  Main declarations:
    * `Gps.ParseState.overwrites`
    * `Gps.parse_inside`
-/

open CString ListSearch

------------------------------------------------------------
-- The Byte Overwritten
------------------------------------------------------------

namespace Gps

/- `index2 + 2`, if the iteration comes to overwrite it. -/
def ParseState.overwrites
    (state : ParseState) : Option Nat := do
  let index1 ← strstr state.memory state.nmeas (ascii "$")
  let index2 ← strstr state.memory index1 crlf
  some (index2 + 2)

variable {s rest : List UInt8}
variable {state : ParseState}

/- It is the byte behind the sentence. -/
theorem overwrites_eq
    (hNul : 0 ∉ s)
    (hInside : state.Inside s rest) :
    state.overwrites =
      (sentenceSpan (s.drop state.nmeas)).map
        (fun span => state.nmeas + span.2) := by
  have hInString := hInside.nmeas_le
  unfold ParseState.overwrites sentenceSpan
  rw [hInside.memory_eq, strstr_eq hNul hInString]
  cases hStart : find (ascii "$") (s.drop state.nmeas) with
  | none => rfl
  | some start =>
      have hFits := find_add_length_le (by decide) hStart
      rw [List.length_drop] at hFits
      have hCursor : state.nmeas + start ≤ s.length := by
        omega
      simp only [Option.map_some, Option.bind_eq_bind,
        Option.bind_some]
      rw [strstr_eq hNul hCursor, ← List.drop_drop]
      cases find crlf ((s.drop state.nmeas).drop start) with
      | none => rfl
      | some length =>
          simp only [Option.map_some, Option.bind_some,
            Nat.add_assoc]

theorem ParseState.Inside.overwrites_le
    (hNul : 0 ∉ s)
    (hInside : state.Inside s rest)
    {i : Nat}
    (hOverwrites : state.overwrites = some i) :
    i ≤ s.length := by
  rw [overwrites_eq hNul hInside] at hOverwrites
  rcases Option.map_eq_some_iff.mp hOverwrites with
    ⟨⟨start, stop⟩, hSpan, rfl⟩
  have hBounds := sentenceSpan_bounds hSpan
  have hInString := hInside.nmeas_le
  rw [List.length_drop] at hBounds
  show state.nmeas + stop ≤ s.length
  omega

end Gps

------------------------------------------------------------
-- The Loop Inside Its String
------------------------------------------------------------

namespace Gps

variable {s rest : List UInt8}
variable {state state' : ParseState}

theorem ParseState.Inside.next
    (hNul : 0 ∉ s)
    (hInside : state.Inside s rest)
    (hBody : parseBody state = .next state') :
    state'.Inside s rest := by
  cases hSpan : sentenceSpan (s.drop state.nmeas) with
  | none =>
      rw [parseBody_of_span_none hNul hInside hSpan] at hBody
      cases hBody
  | some span =>
      rcases span with ⟨start, stop⟩
      rw [parseBody_of_span_some hNul hInside hSpan] at hBody
      cases hBody
      exact hInside.pass hSpan

/-
  `GPS_Parse` ends and gives its string back; on the way
  neither its cursor nor its NUL leaves the string.
-/
theorem parse_inside
    {memory : List UInt8}
    (hNul : 0 ∈ memory)
    (parser : Parser) :
    Loop.Terminates parseBody (parseStart memory parser) ∧
      (∃ result,
        parse memory parser = some result ∧
          result.memory = memory) ∧
      ∀ state,
        Loop.Reaches parseBody (parseStart memory parser)
            state →
          state.memory = memory ∧
            state.nmeas ≤ (text memory).length ∧
            ∀ i, state.overwrites = some i →
              i ≤ (text memory).length := by
  rcases exists_eq_text_append hNul with ⟨rest, hMemory⟩
  have hText := nul_notMem_text memory
  have hStart :
      (parseStart memory parser).Inside (text memory) rest :=
    { memory_eq := hMemory
      nmeas_le := Nat.zero_le _ }
  refine ⟨?_, ?_, ?_⟩
  · rcases run_parseBody hText hStart (Nat.lt_succ_self _)
      with ⟨result, hRun, _⟩
    exact ⟨result, _, hRun⟩
  · rcases parse_spec hNul parser with
      ⟨result, hParse, hKept, _⟩
    exact ⟨result, hParse, hKept⟩
  · intro state hReaches
    have hInside : state.Inside (text memory) rest :=
      Loop.Reaches.invariant
        (fun state => state.Inside (text memory) rest)
        (fun _ _ hInside hBody => hInside.next hText hBody)
        hReaches hStart
    exact ⟨hInside.memory_eq.trans hMemory.symm,
      hInside.nmeas_le,
      fun i hOverwrites =>
        hInside.overwrites_le hText hOverwrites⟩

/- The last sentence ends the string: its NUL is replaced. -/
theorem parse_inside_last_sentence :
    Loop.Terminates parseBody
        (parseStart (ascii "x$A,1\r\n" ++ [0]) Parser.init) ∧
      (∃ result,
        parse (ascii "x$A,1\r\n" ++ [0]) Parser.init =
            some result ∧
          result.memory = ascii "x$A,1\r\n" ++ [0]) ∧
      ∀ state,
        Loop.Reaches parseBody
            (parseStart (ascii "x$A,1\r\n" ++ [0])
              Parser.init) state →
          state.memory = ascii "x$A,1\r\n" ++ [0] ∧
            state.nmeas ≤
              (text (ascii "x$A,1\r\n" ++ [0])).length ∧
            ∀ i, state.overwrites = some i →
              i ≤ (text (ascii "x$A,1\r\n" ++ [0])).length :=
  parse_inside (by decide) Parser.init

end Gps
