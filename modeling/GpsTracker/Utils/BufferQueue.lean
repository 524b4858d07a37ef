import GpsTracker.Utils.Buffer

/-
  The ring buffer is a bounded first-in first-out queue.

  `contents` is the abstract queue: the live bytes from the
  oldest to the newest. Each operation of the code is shown
  to act on it as the queue operation does.

  Main declarations:
    * `Buffer.position`, `Buffer.contents`
    * `Buffer.contents_puts`, `Buffer.contents_gets`
    * `Buffer.size2_position`
-/

open Machine

------------------------------------------------------------
-- Ring Positions
------------------------------------------------------------

namespace Buffer

variable {maxSize : Nat}

theorem mod_eq_ite
    {x n : Nat}
    (hLt : x < 2 * n) :
    x % n = if x < n then x else x - n := by
  split
  · next hSmall => exact Nat.mod_eq_of_lt hSmall
  · next hLarge =>
      rw [Nat.mod_eq_sub_mod (by omega),
        Nat.mod_eq_of_lt (by omega)]

theorem mod_eq_of_turns
    {x n r : Nat}
    (hLt : r < n)
    (hTurns : x = r ∨ x = r + n ∨ x = r + n + n) :
    x % n = r := by
  rcases hTurns with rfl | rfl | rfl
  · exact Nat.mod_eq_of_lt hLt
  · rw [Nat.add_mod_right, Nat.mod_eq_of_lt hLt]
  · rw [Nat.add_mod_right, Nat.add_mod_right,
      Nat.mod_eq_of_lt hLt]

/- The ring index of the queue element number `j`, from zero. -/
def position
    (b : Buffer maxSize)
    (j : Nat) : Fin maxSize :=
  ⟨(b.front.val + 1 + j) % maxSize,
    Nat.mod_lt _ b.front.pos⟩

theorem next_val
    (b : Buffer maxSize)
    (index : Fin maxSize) :
    (next index).val = (index.val + 1) % maxSize := by
  have hMod := Nat.mod_lt (index.val + 1) index.pos
  have hLe := b.maxSize_le
  exact wrap_natCast_of_lt (by omega)

theorem startPosition_eq
    (b : Buffer maxSize) :
    b.startPosition = b.position 0 :=
  Fin.ext (b.next_val b.front)

theorem next_position
    (b : Buffer maxSize)
    (j : Nat) :
    next (b.position j) = b.position (j + 1) := by
  apply Fin.ext
  rw [b.next_val]
  simp only [position, Nat.mod_add_mod, Nat.add_assoc]

/- The size without the unsigned detour. -/
theorem size_eq
    (b : Buffer maxSize) :
    b.size =
      if b.front.val ≤ b.rear.val then
        b.rear.val - b.front.val
      else
        b.rear.val + maxSize - b.front.val := by
  have hFront := b.front.isLt
  have hRear := b.rear.isLt
  have hLe := b.maxSize_le
  have hCast :
      (b.rear.val - b.front.val + maxSize : Int) =
        ((b.rear.val + maxSize - b.front.val : Nat) : Int) := by
    omega
  unfold size
  rw [hCast]
  rw [show u32 ((b.rear.val + maxSize - b.front.val : Nat) : Int) =
      b.rear.val + maxSize - b.front.val from
    wrap_natCast_of_lt (by omega), mod_eq_ite (by omega)]
  split <;> split <;> omega

theorem size_lt
    (b : Buffer maxSize) :
    b.size < maxSize := by
  have hFront := b.front.isLt
  have hRear := b.rear.isLt
  rw [size_eq]
  split <;> omega

/- The newest byte stands `size` cells after `front`. -/
theorem rear_val
    (b : Buffer maxSize) :
    b.rear.val = (b.front.val + b.size) % maxSize := by
  have hFront := b.front.isLt
  have hRear := b.rear.isLt
  have hSize := b.size_lt
  rw [mod_eq_ite (by omega), size_eq]
  split <;> split <;> omega

theorem next_rear
    (b : Buffer maxSize) :
    next b.rear = b.position b.size := by
  apply Fin.ext
  rw [b.next_val, rear_val]
  simp only [position, Nat.mod_add_mod]
  congr 1
  omega

/- Distinct queue elements stand in distinct cells. -/
theorem position_ne
    (b : Buffer maxSize)
    {i j : Nat}
    (hLess : i < j)
    (hBound : j < maxSize) :
    b.position i ≠ b.position j := by
  intro hEq
  have hVal := congrArg Fin.val hEq
  have hFront := b.front.isLt
  simp only [position] at hVal
  rw [mod_eq_ite (by omega), mod_eq_ite (by omega)] at hVal
  split at hVal <;> split at hVal <;> omega

end Buffer

------------------------------------------------------------
-- Contents
------------------------------------------------------------

namespace Buffer

variable {maxSize : Nat}

/- The queue element number `j`, from zero. -/
def cell
    (b : Buffer maxSize)
    (j : Nat) : UInt8 :=
  b.buffer[b.position j]

/- The `n` queue elements from number `j` on. -/
def cells
    (b : Buffer maxSize)
    (j : Nat) :
    Nat → List UInt8
| 0 => []
| n + 1 => b.cell j :: cells b (j + 1) n

/- The live bytes, oldest first. -/
def contents (b : Buffer maxSize) : List UInt8 :=
  b.cells 0 b.size

@[simp] theorem length_cells
    (b : Buffer maxSize)
    (j n : Nat) :
    (b.cells j n).length = n := by
  induction n generalizing j with
  | zero => rfl
  | succ n ih => simp [cells, ih]

@[simp] theorem length_contents
    (b : Buffer maxSize) :
    b.contents.length = b.size :=
  b.length_cells 0 b.size

theorem drop_cells
    (b : Buffer maxSize)
    (j n k : Nat) :
    (b.cells j n).drop k = b.cells (j + k) (n - k) := by
  induction k generalizing j n with
  | zero => simp
  | succ k ih =>
      cases n with
      | zero => simp [cells]
      | succ n =>
          simp only [cells, List.drop_succ_cons, ih]
          congr 1 <;> omega

theorem cells_succ_right
    (b : Buffer maxSize)
    (j n : Nat) :
    b.cells j (n + 1) =
      b.cells j n ++ [b.cell (j + n)] := by
  induction n generalizing j with
  | zero => simp [cells]
  | succ n ih =>
      rw [cells, ih, cells, List.cons_append,
        Nat.add_right_comm, Nat.add_assoc]

/- Buffers that agree on a window of cells. -/
theorem cells_congr
    {b c : Buffer maxSize}
    {j k n : Nat}
    (hAgree : ∀ i, i < n →
      b.cell (j + i) = c.cell (k + i)) :
    b.cells j n = c.cells k n := by
  induction n generalizing j k with
  | zero => rfl
  | succ n ih =>
      have hHead : b.cell j = c.cell k :=
        hAgree 0 (Nat.succ_pos n)
      have hTail : b.cells (j + 1) n = c.cells (k + 1) n := by
        apply ih
        intro i hi
        have hAt := hAgree (i + 1) (by omega)
        rwa [Nat.add_assoc, Nat.add_assoc, Nat.add_comm 1 i]
      rw [cells, cells, hHead, hTail]

end Buffer

------------------------------------------------------------
-- Initialization and Clearing
------------------------------------------------------------

namespace Buffer

variable {maxSize : Nat}

theorem size_eq_zero_of_front_eq_rear
    {b : Buffer maxSize}
    (hEq : b.front = b.rear) :
    b.size = 0 := by
  rw [size_eq, hEq]
  simp

@[simp] theorem contents_init
    (hPos : 0 < maxSize)
    (hLe : maxSize ≤ 65536) :
    (init maxSize hPos hLe).contents = [] := by
  apply List.eq_nil_of_length_eq_zero
  rw [length_contents]
  exact size_eq_zero_of_front_eq_rear rfl

@[simp] theorem contents_clear
    (b : Buffer maxSize) :
    b.clear.contents = [] := by
  apply List.eq_nil_of_length_eq_zero
  rw [length_contents]
  exact size_eq_zero_of_front_eq_rear rfl

end Buffer

------------------------------------------------------------
-- Putting Bytes
------------------------------------------------------------

namespace Buffer

variable {maxSize : Nat}

theorem size_push
    {b : Buffer maxSize}
    (x : UInt8)
    (hRoom : b.size + 1 < maxSize) :
    (b.push x).size = b.size + 1 := by
  have hFront := b.front.isLt
  have hRear : (b.push x).rear.val =
      (b.front.val + 1 + b.size) % maxSize := by
    simp only [push, next_rear, position]
  have hSize := size_eq (b.push x)
  rw [hRear, mod_eq_ite (by omega)] at hSize
  rw [hSize]
  simp only [push]
  split <;> split <;> omega

/- A write at the new rear leaves the queue elements alone. -/
theorem cell_push_of_lt
    {b : Buffer maxSize}
    (x : UInt8)
    {j : Nat}
    (hLive : j < b.size) :
    (b.push x).cell j = b.cell j := by
  have hNe : (next b.rear).val ≠ (b.position j).val := by
    rw [next_rear]
    intro hEq
    exact b.position_ne hLive b.size_lt (Fin.ext hEq.symm)
  exact Vector.getElem_set_ne (next b.rear).isLt
    (b.position j).isLt hNe

theorem cell_push_size
    (b : Buffer maxSize)
    (x : UInt8) :
    (b.push x).cell b.size = x := by
  have hNewest : (b.push x).position b.size = next b.rear :=
    b.next_rear.symm
  unfold cell
  simp only [Fin.getElem_fin, hNewest]
  simp [push]

theorem contents_push
    {b : Buffer maxSize}
    (x : UInt8)
    (hRoom : b.size + 1 < maxSize) :
    (b.push x).contents = b.contents ++ [x] := by
  have hKept :
      (b.push x).cells 0 b.size = b.cells 0 b.size := by
    apply cells_congr
    intro i hi
    exact cell_push_of_lt x (by omega)
  unfold contents
  rw [size_push x hRoom, cells_succ_right, hKept,
    Nat.zero_add, cell_push_size]

theorem contents_putsLoop
    {b : Buffer maxSize}
    {data : List UInt8}
    (hRoom : b.size + data.length < maxSize) :
    (b.putsLoop data).contents = b.contents ++ data := by
  induction data generalizing b with
  | nil => simp [putsLoop]
  | cons x xs ih =>
      simp only [List.length_cons] at hRoom
      have hPush := size_push (b := b) x (by omega)
      rw [putsLoop, ih (by omega),
        contents_push x (by omega)]
      simp

/- A chunk is accepted when it leaves one cell unused. -/
theorem puts_accepted_iff
    (b : Buffer maxSize)
    (data : List UInt8)
    (length : Nat) :
    (b.puts data length).1 = true ↔
      b.contents.length + length < maxSize := by
  have hSize := b.size_lt
  have hLe := b.maxSize_le
  have hFree : u32 (maxSize - b.size) = maxSize - b.size := by
    rw [← Nat.cast_sub (by omega)]
    exact wrap_natCast_of_lt (by omega)
  rw [length_contents]
  unfold puts
  rw [hFree]
  split
  · simp
    omega
  · simp
    omega

theorem contents_puts_of_accepted
    {b : Buffer maxSize}
    {data : List UInt8}
    {length : Nat}
    (hAccepted : (b.puts data length).1 = true) :
    (b.puts data length).2.contents =
      b.contents ++ data.take length := by
  have hRoom := (b.puts_accepted_iff data length).mp hAccepted
  rw [length_contents] at hRoom
  unfold puts at hAccepted ⊢
  split at hAccepted
  · cases hAccepted
  · next hFits =>
      rw [if_neg hFits]
      apply contents_putsLoop
      have hTake := List.length_take_le length data
      omega

theorem puts_of_refused
    {b : Buffer maxSize}
    {data : List UInt8}
    {length : Nat}
    (hRefused : (b.puts data length).1 = false) :
    (b.puts data length).2 = b := by
  unfold puts at hRefused ⊢
  split at hRefused
  · next hFull => rw [if_pos hFull]
  · cases hRefused

/- `Buffer_Puts` on the queue. -/
theorem contents_puts
    (b : Buffer maxSize)
    (data : List UInt8)
    (length : Nat) :
    (b.puts data length).2.contents =
      if b.contents.length + length < maxSize then
        b.contents ++ data.take length
      else
        b.contents := by
  split
  · next hRoom =>
      exact contents_puts_of_accepted
        ((b.puts_accepted_iff data length).mpr hRoom)
  · next hFull =>
      rw [puts_of_refused]
      rw [← Bool.not_eq_true, b.puts_accepted_iff]
      exact hFull

end Buffer

------------------------------------------------------------
-- Getting Bytes
------------------------------------------------------------

namespace Buffer

variable {maxSize : Nat}

/- One turn of the loop of `Buffer_Gets`. -/
def pop (b : Buffer maxSize) : Buffer maxSize :=
  { b with front := next b.front }

theorem position_pop
    (b : Buffer maxSize)
    (j : Nat) :
    b.pop.position j = b.position (j + 1) := by
  apply Fin.ext
  simp only [position, pop, b.next_val]
  rw [Nat.add_assoc, Nat.mod_add_mod]
  congr 1
  omega

theorem size_pop
    {b : Buffer maxSize}
    (hHeld : 0 < b.size) :
    b.pop.size = b.size - 1 := by
  have hFront := b.front.isLt
  have hRear := b.rear.isLt
  have hSize := b.pop.size_eq
  have hOld := b.size_eq
  simp only [pop, b.next_val] at hSize
  rw [mod_eq_ite (by omega)] at hSize
  simp only [pop]
  split at hOld <;> split at hSize <;> split at hSize <;>
    omega

theorem contents_eq_cons
    {b : Buffer maxSize}
    (hHeld : 0 < b.size) :
    b.contents = b.cell 0 :: b.pop.contents := by
  unfold contents
  rw [size_pop hHeld]
  rcases Nat.exists_eq_succ_of_ne_zero
      (Nat.pos_iff_ne_zero.mp hHeld) with ⟨n, hn⟩
  have hTail : b.cells 1 n = b.pop.cells 0 n := by
    apply cells_congr
    intro i _
    unfold cell
    simp only [position_pop, Nat.add_comm 1 i, Nat.zero_add]
    rfl
  rw [hn, Nat.succ_sub_one, Nat.succ_eq_add_one, cells, hTail]

theorem getsLoop_eq
    {b : Buffer maxSize}
    {length : Nat}
    (hHeld : length ≤ b.size) :
    (b.getsLoop length).1 = b.contents.take length ∧
      (b.getsLoop length).2.contents =
        b.contents.drop length := by
  induction length generalizing b with
  | zero => simp [getsLoop]
  | succ length ih =>
      have hPop := size_pop (b := b) (by omega)
      have hLater := ih (b := b.pop) (by omega)
      have hFirst : b.cell 0 = b.buffer[next b.front] := by
        unfold cell
        simp only [← startPosition_eq]
        rfl
      rw [contents_eq_cons (b := b) (by omega), hFirst]
      simp only [getsLoop, List.take_succ_cons,
        List.drop_succ_cons]
      exact ⟨congrArg _ hLater.1, hLater.2⟩

/- `Buffer_Gets` on the queue. -/
theorem contents_gets
    {b : Buffer maxSize}
    {length : Nat}
    (hHeld : length ≤ b.contents.length) :
    ∃ b' : Buffer maxSize,
      b.gets length = some (b.contents.take length, b') ∧
        b'.contents = b.contents.drop length := by
  rw [length_contents] at hHeld
  have hLoop := getsLoop_eq hHeld
  refine ⟨(b.getsLoop length).2, ?_, hLoop.2⟩
  rw [gets, if_neg (by omega), ← hLoop.1]

theorem gets_eq_none_iff
    (b : Buffer maxSize)
    (length : Nat) :
    b.gets length = none ↔ b.contents.length < length := by
  rw [length_contents, gets]
  split <;> simp_all

end Buffer

------------------------------------------------------------
-- Element Numbers
------------------------------------------------------------

namespace Buffer

variable {maxSize : Nat}

/- A ring index wraps at most once. -/
theorem val_position
    (b : Buffer maxSize)
    {j : Nat}
    (hj : j < maxSize) :
    (b.position j).val =
      if b.front.val + 1 + j < maxSize then
        b.front.val + 1 + j
      else
        b.front.val + 1 + j - maxSize := by
  have hFront := b.front.isLt
  exact mod_eq_ite (by omega)

/- `Buffer_Size2` counts queue elements from one. -/
theorem size2_position
    (b : Buffer maxSize)
    {j : Nat}
    (hj : j < b.contents.length) :
    b.size2 (b.position j).val = j + 1 := by
  rw [length_contents] at hj
  have hFront := b.front.isLt
  have hSize := b.size_lt
  have hLe := b.maxSize_le
  have hIndex := b.val_position (show j < maxSize by omega)
  have hBound := (b.position j).isLt
  have hCast :
      ((b.position j).val - b.front.val + maxSize : Int) =
        (((b.position j).val + maxSize -
          b.front.val : Nat) : Int) := by
    omega
  unfold size2
  rw [hCast]
  rw [show u32 (((b.position j).val + maxSize -
        b.front.val : Nat) : Int) =
      (b.position j).val + maxSize - b.front.val from
    wrap_natCast_of_lt (by omega)]
  rw [mod_eq_ite (by omega), hIndex]
  split <;> split <;> omega

end Buffer
