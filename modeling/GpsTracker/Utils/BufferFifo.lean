import GpsTracker.Lib.Fifo
import GpsTracker.Utils.BufferQueue

/-
  Any sequence of calls on the ring buffer answers as the
  bounded queue does, and the ring indices count the
  elements of that queue.

  Main declarations:
    * `Buffer.perform`
    * `Buffer.Live`, `Buffer.Represents`
    * `Buffer.run_refines_fifo`
-/

open Machine

------------------------------------------------------------
-- Operations
------------------------------------------------------------

namespace Buffer

variable {maxSize : Nat}

/-
  A call on the buffer. `Buffer_Puts` and `Buffer_Gets` take
  the length as a `uint16_t`.
-/
def perform
    (b : Buffer maxSize) :
    Fifo.Op UInt8 → Fifo.Reply UInt8 × Buffer maxSize
| .put data =>
    let (ret, b) := b.puts data (u16 data.length)
    (.put ret, b)
| .get length =>
    match b.gets (u16 length) with
    | some (data, b) => (.got (some data), b)
    | none => (.got none, b)
| .clear => (.cleared, b.clear)

/- One call acts on the contents as on the queue. -/
theorem perform_simulates :
    Fifo.Simulates (maxSize - 1) (@perform maxSize)
      (fun op => op.count < 2 ^ 16) contents := by
  intro b op hWidth
  have hPos := b.front.pos
  cases op with
  | put data =>
      have hLength : u16 data.length = data.length :=
        wrap_natCast_of_lt hWidth
      have hRet := b.puts_accepted_iff data data.length
      have hContents := b.contents_puts data data.length
      rw [List.take_length] at hContents
      simp only [perform, Fifo.perform, hLength]
      by_cases hRoom :
          b.contents.length + data.length ≤ maxSize - 1
      · have hLess :
            b.contents.length + data.length < maxSize := by
          omega
        rw [if_pos hLess] at hContents
        rw [if_pos hRoom, hRet.mpr hLess]
        exact ⟨rfl, hContents⟩
      · have hFull :
            ¬ b.contents.length + data.length < maxSize := by
          omega
        rw [if_neg hFull] at hContents
        rw [if_neg hRoom, Bool.eq_false_iff.mpr (hRet.not.mpr hFull)]
        exact ⟨rfl, hContents⟩
  | get length =>
      have hLength : u16 length = length :=
        wrap_natCast_of_lt hWidth
      simp only [perform, Fifo.perform, hLength]
      by_cases hHeld : length ≤ b.contents.length
      · rcases contents_gets hHeld with ⟨b', hGets, hRest⟩
        rw [hGets, if_pos hHeld]
        exact ⟨rfl, hRest⟩
      · have hNone := (b.gets_eq_none_iff length).mpr (by omega)
        rw [hNone, if_neg hHeld]
        exact ⟨rfl, rfl⟩
  | clear => exact ⟨rfl, b.contents_clear⟩

/- A refused call leaves every field as it was. -/
theorem perform_of_refused
    {b : Buffer maxSize}
    {op : Fifo.Op UInt8}
    (hRefused : (b.perform op).1.refused = true) :
    (b.perform op).2 = b := by
  cases op with
  | put data =>
      simp only [perform, Fifo.Reply.refused,
        Bool.not_eq_true'] at hRefused
      exact puts_of_refused hRefused
  | get length =>
      simp only [perform] at hRefused ⊢
      split at hRefused
      · cases hRefused
      · rfl
  | clear => cases hRefused

end Buffer

------------------------------------------------------------
-- Ring Indices
------------------------------------------------------------

namespace Buffer

variable {maxSize : Nat}

/- A ring index among the `size` ones from the start on. -/
def Live
    (b : Buffer maxSize)
    (index : Fin maxSize) : Prop :=
  ∃ j, j < b.size ∧
    index.val = (b.startPosition.val + j) % maxSize

/-
  The buffer holds a queue: element number `size2 index`,
  counted from one, is the byte at `index`, and the start
  position is where element number one is.
-/
structure Represents
    (b : Buffer maxSize)
    (queue : List UInt8) : Prop where
  size_eq : b.size = queue.length
  element : ∀ index, b.Live index →
    0 < b.size2 index.val ∧
      queue[b.size2 index.val - 1]? = some b.buffer[index]
  start : 0 < b.size → b.size2 b.startPosition.val = 1

theorem live_iff
    (b : Buffer maxSize)
    (index : Fin maxSize) :
    b.Live index ↔
      ∃ j, j < b.size ∧ index = b.position j := by
  have hStart : b.startPosition.val =
      (b.front.val + 1) % maxSize := b.next_val b.front
  unfold Live
  apply exists_congr
  intro j
  rw [hStart, Nat.mod_add_mod, Fin.ext_iff]
  rfl

theorem getElem?_cells
    (b : Buffer maxSize)
    {i j n : Nat}
    (hLess : j < n) :
    (b.cells i n)[j]? = some (b.cell (i + j)) := by
  induction n generalizing i j with
  | zero => omega
  | succ n ih =>
      cases j with
      | zero => rfl
      | succ j =>
          rw [cells, List.getElem?_cons_succ, ih (by omega)]
          congr 2
          omega

theorem represents_contents
    (b : Buffer maxSize) :
    b.Represents b.contents where
  size_eq := b.length_contents.symm
  element := by
    intro index hLive
    rcases (b.live_iff index).mp hLive with ⟨j, hj, rfl⟩
    have hCount : j < b.contents.length := by
      rwa [length_contents]
    rw [b.size2_position hCount]
    refine ⟨by omega, ?_⟩
    rw [Nat.add_sub_cancel, contents, b.getElem?_cells hj,
      Nat.zero_add]
    rfl
  start := by
    intro hHeld
    rw [startPosition_eq]
    exact b.size2_position (by rwa [length_contents])

end Buffer

------------------------------------------------------------
-- Whole Runs
------------------------------------------------------------

namespace Buffer

/-
  After `Buffer_Init`, any sequence of calls, with lengths
  that fit their `uint16_t`, answers as a queue of capacity
  `maxSize - 1` and ends in a buffer that holds it. A call
  that is refused changes nothing.
-/
theorem run_refines_fifo
    {maxSize : Nat}
    (hPos : 0 < maxSize)
    (hLe : maxSize ≤ 65536)
    {ops : List (Fifo.Op UInt8)}
    (hWidth : ∀ op ∈ ops, op.count < 2 ^ 16) :
    let buffer := Fifo.run perform (init maxSize hPos hLe) ops
    let queue := Fifo.run (Fifo.perform (maxSize - 1)) [] ops
    buffer.1 = queue.1 ∧
      buffer.2.Represents queue.2 ∧
      ∀ op, (buffer.2.perform op).1.refused = true →
        (buffer.2.perform op).2 = buffer.2 := by
  intro buffer queue
  have hRun := Fifo.simulates_run perform_simulates hWidth
    (init maxSize hPos hLe)
  rw [contents_init] at hRun
  refine ⟨hRun.1, ?_, fun op => perform_of_refused⟩
  rw [← hRun.2]
  exact buffer.2.represents_contents

/- Three cells hold two bytes, across the end of the ring. -/
theorem run_refines_fifo_three_cells :
    let ops : List (Fifo.Op UInt8) :=
      [.put [1, 2], .put [3], .get 1, .put [3], .get 2]
    let buffer :=
      Fifo.run perform (init 3 (by decide) (by decide)) ops
    buffer.1 =
        [.put true, .put false, .got (some [1]), .put true,
          .got (some [2, 3])] ∧
      buffer.2.Represents [] := by
  intro ops buffer
  have hRefines :=
    run_refines_fifo
      (show 0 < 3 by decide) (show 3 ≤ 65536 by decide)
      (show ∀ op ∈ ops, op.count < 2 ^ 16 by
        simp [ops, Fifo.Op.count])
  exact ⟨hRefines.1, hRefines.2.1⟩

end Buffer
