import GpsTracker.Lib.ListSearch
import Mathlib.Data.List.TakeWhile

/-
  NUL-terminated strings in byte memory.

  A pointer into a buffer is an offset into a list of bytes;
  the string at it runs up to the first NUL. A string that
  is only read is the list of its bytes, without the NUL.

  Main declarations:
    * `byte`, `ascii`
    * `CString.text`, `CString.strstr`
    * `CString.strstr_singleton_eq_some_iff`
-/

------------------------------------------------------------
-- Strings
------------------------------------------------------------

/- The byte of an ASCII character. -/
def byte (c : Char) : UInt8 :=
  UInt8.ofNat c.toNat

/- The bytes of an ASCII literal. -/
def ascii (s : String) : List UInt8 :=
  s.toList.map byte

/- Carriage return and line feed, "\r\n". -/
def crlf : List UInt8 := [13, 10]

theorem length_crlf : crlf.length = 2 := rfl

namespace CString

open ListSearch

/- The string at the start of a memory. -/
def text (memory : List UInt8) : List UInt8 :=
  memory.takeWhile (· ≠ 0)

/- `strstr(memory + start, pattern)`, as an offset. -/
def strstr
    (memory : List UInt8)
    (start : Nat)
    (pattern : List UInt8) : Option Nat :=
  (find pattern (text (memory.drop start))).map
    (start + ·)

/- The byte a read-only string pointer points to. -/
def peek (s : List UInt8) : UInt8 :=
  s.headD 0

/- Bytes without a NUL are read whole. -/
theorem text_append
    {s : List UInt8}
    (hNul : 0 ∉ s)
    (rest : List UInt8) :
    text (s ++ rest) = s ++ text rest := by
  have hAll : ∀ b ∈ s, decide (b ≠ 0) = true := by
    intro b hb
    simpa using ne_of_mem_of_not_mem hb hNul
  exact List.takeWhile_append_of_pos hAll

/- A string without a NUL byte is read to its end. -/
theorem text_append_nul
    {s : List UInt8}
    (hNul : 0 ∉ s)
    (rest : List UInt8) :
    text (s ++ 0 :: rest) = s := by
  rw [text_append hNul]
  simp [text]

theorem nul_notMem_text
    (memory : List UInt8) :
    0 ∉ text memory := by
  intro hMem
  have hTrue := List.mem_takeWhile_imp hMem
  simp at hTrue

/- A memory with a NUL is its string and what is behind. -/
theorem exists_eq_text_append
    {memory : List UInt8}
    (hNul : 0 ∈ memory) :
    ∃ rest, memory = text memory ++ 0 :: rest := by
  induction memory with
  | nil => cases hNul
  | cons b memory ih =>
      by_cases hByte : b = 0
      · subst hByte
        exact ⟨memory, by simp [text]⟩
      · have hTail : 0 ∈ memory := by
          simpa [Ne.symm hByte] using hNul
        rcases ih hTail with ⟨rest, hRest⟩
        refine ⟨rest, ?_⟩
        have hText : text (b :: memory) = b :: text memory := by
          simp [text, hByte]
        rw [hText, List.cons_append, ← hRest]

theorem text_isPrefix
    (memory : List UInt8) :
    text memory <+: memory :=
  List.takeWhile_prefix _

theorem text_of_nul_notMem
    {s : List UInt8}
    (hNul : 0 ∉ s) :
    text s = s := by
  apply List.takeWhile_eq_self_iff.mpr
  intro b hb
  simpa using ne_of_mem_of_not_mem hb hNul

/- Bytes of a memory, as part of the string at its start. -/
theorem occursAt_text_iff
    {bytes memory : List UInt8}
    {offset : Nat}
    (hBytes : bytes ≠ [])
    (hNul : 0 ∉ bytes)
    (hAt : OccursAt bytes memory offset) :
    OccursAt bytes (text memory) offset ↔
      0 ∉ memory.take offset := by
  rcases text_isPrefix memory with ⟨hidden, hMemory⟩
  constructor
  · intro hText hMem
    have hFits := hText.add_length_le hBytes
    rw [← hMemory, List.take_append_of_le_length (by omega)]
      at hMem
    exact nul_notMem_text memory (List.mem_of_mem_take hMem)
  · intro hBefore
    have hSplit : memory = memory.take offset ++ bytes ++
        memory.drop (offset + bytes.length) := by
      rcases hAt with ⟨after, hAfter⟩
      rw [← List.drop_drop, ← hAfter, List.drop_left,
        List.append_assoc, hAfter, List.take_append_drop]
    have hClear : 0 ∉ memory.take offset ++ bytes := by
      intro hMem
      rcases List.mem_append.mp hMem with hMem | hMem
      · exact hBefore hMem
      · exact hNul hMem
    have hLength : (memory.take offset).length = offset := by
      have hFits := hAt.add_length_le hBytes
      rw [List.length_take]
      omega
    have hInside : OccursAt bytes
        (memory.take offset ++ (bytes ++
          text (memory.drop (offset + bytes.length))))
        ((memory.take offset).length + 0) :=
      occursAt_append_right.mpr (List.prefix_append _ _)
    rw [hLength, Nat.add_zero, ← List.append_assoc,
      ← text_append hClear, ← hSplit] at hInside
    exact hInside

/- Searching for one character. -/
theorem strstr_singleton_eq_some_iff
    {memory : List UInt8}
    {start i : Nat}
    {c : UInt8}
    (hChar : c ≠ 0) :
    strstr memory start [c] = some i ↔
      ∃ skipped rest,
        memory.drop start = skipped ++ c :: rest ∧
          c ∉ skipped ∧ 0 ∉ skipped ∧
          i = start + skipped.length := by
  have hHere (text : List UInt8) :
      find [c] (c :: text) = some 0 :=
    find_self_append [c] text
  unfold strstr
  rw [Option.map_eq_some_iff]
  constructor
  · intro hFound
    rcases hFound with ⟨k, hFind, rfl⟩
    have hMem : c ∈ text (memory.drop start) :=
      occurs_singleton_iff.mp ⟨k, find_occursAt hFind⟩
    rcases List.eq_append_cons_of_mem hMem with
      ⟨skipped, rest, hText, hSkipped⟩
    rcases text_isPrefix (memory.drop start) with
      ⟨hidden, hMemory⟩
    have hNul := nul_notMem_text (memory.drop start)
    rw [hText, find_append_of_head_notMem hSkipped, hHere]
      at hFind
    rw [hText] at hMemory hNul
    refine ⟨skipped, rest ++ hidden, ?_, hSkipped, ?_, ?_⟩
    · rw [← hMemory, List.append_assoc, List.cons_append]
    · exact fun hZero => hNul (List.mem_append_left _ hZero)
    · simp only [Option.map_some, Option.some.injEq,
        Nat.add_zero] at hFind
      rw [hFind]
  · intro hParts
    rcases hParts with
      ⟨skipped, rest, hMemory, hSkipped, hNul, rfl⟩
    have hText : text (c :: rest) = c :: text rest := by
      simp [text, hChar]
    refine ⟨skipped.length, ?_, rfl⟩
    rw [hMemory, text_append hNul, hText,
      find_append_of_head_notMem hSkipped, hHere]
    rfl

end CString
