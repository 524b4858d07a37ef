import GpsTracker.Utils.BufferQueue
import GpsTracker.Lib.CString
import GpsTracker.Lib.Greedy

/-
  Searching the ring buffer.

  The matcher of `Buffer_Query` restarts at the byte that
  broke a partial match, not inside it: over the live bytes,
  also across the end of the ring, it is the search without
  going back. For a pattern whose first byte does not return
  in it that is a search for the first occurrence. In a ring
  of a size it is one for exactly the patterns in which each
  return of the first byte, as far as the ring has room for
  it, begins a border; for other patterns it may run over an
  occurrence.

  Main declarations:
    * `RestartFree`
    * `Buffer.query_eq_greedy`
    * `Buffer.query_position`
    * `Buffer.query_eq_find_forall_iff`
-/

open Machine ListSearch

------------------------------------------------------------
-- Queries
------------------------------------------------------------

/-
  A pattern whose first byte does not return in it. For such
  a pattern an occurrence cannot begin inside a partial
  match, which is all that the restart of `Buffer_Query`
  relies on.
-/
def RestartFree (data : List UInt8) : Prop :=
  ∃ first others, data = first :: others ∧ first ∉ others

instance (data : List UInt8) : Decidable (RestartFree data) :=
  match data with
  | [] => isFalse (by
      rintro ⟨first, others, hData, _⟩
      cases hData)
  | first :: others =>
      if hFirst : first ∉ others then
        isTrue ⟨first, others, rfl, hFirst⟩
      else
        isFalse (by
          rintro ⟨first', others', hData, hNot⟩
          cases hData
          exact hFirst hNot)

namespace RestartFree

variable {data : List UInt8}

theorem ne_nil
    (hFree : RestartFree data) :
    data ≠ [] := by
  rcases hFree with ⟨first, others, rfl, _⟩
  simp

/- The first byte does not stand at a later offset. -/
theorem getElem?_ne
    (hFree : RestartFree data)
    {k : Nat}
    (hk : 0 < k)
    (hLength : k < data.length) :
    data[k]? ≠ data[0]? := by
  rcases hFree with ⟨first, others, rfl, hNot⟩
  rcases Nat.exists_eq_succ_of_ne_zero
      (Nat.pos_iff_ne_zero.mp hk) with ⟨n, rfl⟩
  intro hEq
  apply hNot
  simp only [Nat.succ_eq_add_one, List.getElem?_cons_succ,
    List.getElem?_cons_zero] at hEq
  exact List.mem_of_getElem? hEq

theorem returnsAreBorders
    (hFree : RestartFree data)
    (room : Nat) :
    ReturnsAreBorders room data := by
  intro d hd _ hReturn
  rcases Nat.eq_zero_or_pos d with rfl | hPos
  · rw [List.drop_zero]
  · exact absurd hReturn (hFree.getElem?_ne hPos hd)

end RestartFree

namespace Buffer

variable {maxSize : Nat}
variable {data : List UInt8}

/- One turn of the matcher at a queue element. -/
private theorem queryLoop_succ
    (b : Buffer maxSize)
    (n j indexData : Nat)
    (indexReturn : Option (Fin maxSize)) :
    b.queryLoop data (n + 1) (b.position j) indexData
        indexReturn =
      if b.cell j = data.getD indexData 0 then
        let indexReturn :=
          if indexData = 0 then some (b.position j)
          else indexReturn
        if indexData + 1 = data.length then
          indexReturn
        else
          b.queryLoop data n (b.position (j + 1))
            (indexData + 1) indexReturn
      else if b.cell j = data.getD 0 0 then
        if 1 = data.length then
          some (b.position j)
        else
          b.queryLoop data n (b.position (j + 1)) 1
            (some (b.position j))
      else
        b.queryLoop data n (b.position (j + 1)) 0 none := by
  rw [← next_position]
  rfl

private theorem getD_of_lt
    {k : Nat}
    (hk : k < data.length) :
    data.getD k 0 = data[k] := by
  simp [List.getD, hk]

/-
  The matcher with `k` pattern bytes behind it, the first of
  them at queue element `j`, is the search without going
  back from that element on.
-/
private theorem queryLoop_eq
    (b : Buffer maxSize)
    (n j k : Nat)
    (hk : k < data.length) :
    b.queryLoop data n (b.position (j + k)) k
        (if k = 0 then none else some (b.position j)) =
      (greedy data (data.take k ++ b.cells (j + k) n)).map
        (fun i => b.position (j + i)) := by
  have hPos : 0 < data.length := by omega
  induction n generalizing j k with
  | zero =>
      rw [cells, List.append_nil, greedy_take hk]
      rfl
  | succ n ih =>
      rw [queryLoop_succ, cells, getD_of_lt hk,
        getD_of_lt hPos]
      by_cases hMatch : b.cell (j + k) = data[k]
      · -- the pattern grows by one byte
        have hGrow :
            data.take k ++
                b.cell (j + k) :: b.cells (j + k + 1) n =
              data.take (k + 1) ++ b.cells (j + (k + 1)) n := by
          rw [hMatch, ← List.take_append_getElem hk,
            List.append_assoc, Nat.add_assoc]
          rfl
        have hReturn :
            (if k = 0 then some (b.position (j + k))
              else if k = 0 then none
              else some (b.position j)) =
              some (b.position j) := by
          by_cases hZero : k = 0
          · simp [hZero]
          · simp [hZero]
        rw [if_pos hMatch, hGrow]
        simp only [hReturn]
        by_cases hEnd : k + 1 = data.length
        · rw [if_pos hEnd, hEnd, List.take_length,
            greedy_of_isPrefix (List.prefix_append _ _)]
          simp
        · rw [if_neg hEnd]
          have hLater := ih j (k + 1) (by omega)
          simpa [Nat.add_assoc] using hLater
      · have hMismatch : data[k]? ≠ some (b.cell (j + k)) := by
          rw [List.getElem?_eq_getElem hk]
          simpa using Ne.symm hMatch
        rw [if_neg hMatch, greedy_take_append hk hMismatch,
          Option.map_map]
        by_cases hFirst : b.cell (j + k) = data[0]
        · -- the byte starts a new partial match
          have hOne :
              b.cell (j + k) :: b.cells (j + k + 1) n =
                data.take 1 ++ b.cells (j + k + 1) n := by
            rw [hFirst]
            rcases data with _ | ⟨first, others⟩
            · simp at hPos
            · rfl
          rw [if_pos hFirst, hOne]
          by_cases hEnd : 1 = data.length
          · rw [if_pos hEnd, hEnd, List.take_length,
              greedy_of_isPrefix (List.prefix_append _ _)]
            simp
          · rw [if_neg hEnd]
            have hLater := ih (j + k) 1 (by omega)
            simpa [Nat.add_assoc, Function.comp_def] using
              hLater
        · -- no occurrence begins at this byte
          have hSkip :
              greedy data
                  (b.cell (j + k) :: b.cells (j + k + 1) n) =
                (greedy data (b.cells (j + k + 1) n)).map
                  (1 + ·) := by
            rcases data with _ | ⟨first, others⟩
            · simp at hPos
            · exact greedy_cons_of_ne hFirst
          rw [if_neg hFirst, hSkip, Option.map_map]
          have hLater := ih (j + k + 1) 0 hPos
          simpa [Nat.add_assoc, Function.comp_def] using hLater

/-
  `Buffer_Query` from queue element `j` is the search over
  the bytes from there on.
-/
theorem query_eq_greedy
    (b : Buffer maxSize)
    (hData : data ≠ [])
    {j : Nat}
    (hj : j ≤ b.contents.length) :
    b.query data (b.position j) =
      (greedy data (b.contents.drop j)).map
        (fun i => b.position (j + i)) := by
  rw [length_contents] at hj
  have hPos := List.length_pos_of_ne_nil hData
  have hFront := b.front.isLt
  have hRear := b.rear.isLt
  have hSize := b.size_lt
  have hLe := b.maxSize_le
  have hIndex := b.val_position (show j < maxSize by omega)
  have hLive :
      u32 (b.rear.val - (b.position j).val + 1 + maxSize) %
          maxSize =
        b.size - j := by
    have hOld := b.size_eq
    have hCast :
        (b.rear.val - (b.position j).val + 1 + maxSize : Int) =
          ((b.rear.val + 1 + maxSize -
            (b.position j).val : Nat) : Int) := by
      omega
    rw [hCast]
    rw [show u32 ((b.rear.val + 1 + maxSize -
          (b.position j).val : Nat) : Int) =
        b.rear.val + 1 + maxSize - (b.position j).val from
      wrap_natCast_of_lt (by omega)]
    apply mod_eq_of_turns
    · omega
    · split at hOld <;> split at hIndex <;> omega
  unfold query
  rw [hLive]
  have hLoop := b.queryLoop_eq (b.size - j) j 0 hPos
  rw [contents, drop_cells]
  simpa using hLoop

/-
  `Buffer_Query` from queue element `j` returns the ring
  index of the first occurrence from there on.
-/
theorem query_position
    (b : Buffer maxSize)
    (hFree : RestartFree data)
    {j : Nat}
    (hj : j ≤ b.contents.length) :
    b.query data (b.position j) =
      (find data (b.contents.drop j)).map
        (fun i => b.position (j + i)) := by
  have hPattern := hFree.ne_nil
  rw [b.query_eq_greedy hPattern hj,
    (greedy_eq_find_forall_iff hPattern).mpr
      (hFree.returnsAreBorders _) _ (le_refl _)]

end Buffer

------------------------------------------------------------
-- Patterns That Overlap
------------------------------------------------------------

namespace Buffer

variable {maxSize : Nat}
variable {data : List UInt8}

/- Ring indices of live bytes stand for their numbers. -/
private theorem map_position_inj
    (b : Buffer maxSize)
    {j : Nat}
    {left right : Option Nat}
    (hLeft : ∀ i, left = some i → j + i < maxSize)
    (hRight : ∀ i, right = some i → j + i < maxSize)
    (hSame : left.map (fun i => b.position (j + i)) =
      right.map (fun i => b.position (j + i))) :
    left = right := by
  cases left with
  | none => exact (Option.map_eq_none_iff.mp hSame.symm).symm
  | some i =>
      rcases Option.map_eq_some_iff.mp hSame.symm with
        ⟨k, rfl, hIndex⟩
      have hI := hLeft i rfl
      have hK := hRight k rfl
      rcases Nat.lt_trichotomy i k with hLess | rfl | hMore
      · exact absurd hIndex.symm
          (b.position_ne (by omega) hK)
      · rfl
      · exact absurd hIndex (b.position_ne (by omega) hI)

/- The ring adds nothing to the search over the bytes. -/
private theorem query_eq_find_iff_greedy_eq
    (b : Buffer maxSize)
    (hData : data ≠ [])
    {j : Nat}
    (hj : j ≤ b.contents.length) :
    b.query data (b.position j) =
        (find data (b.contents.drop j)).map
          (fun i => b.position (j + i)) ↔
      greedy data (b.contents.drop j) =
        find data (b.contents.drop j) := by
  have hSize := b.size_lt
  have hPos := List.length_pos_of_ne_nil hData
  have hLive (i : Nat)
      (hAt : OccursAt data (b.contents.drop j) i) :
      j + i < maxSize := by
    have hFits := hAt.add_length_le hData
    rw [List.length_drop, length_contents] at hFits
    omega
  rw [b.query_eq_greedy hData hj]
  constructor
  · intro hSame
    refine b.map_position_inj ?_ ?_ hSame
    · intro i hGreedy
      exact hLive i ((greedy_eq_some_iff hData).mp hGreedy).2
    · intro i hFind
      exact hLive i (find_occursAt hFind)
  · intro hSame
    rw [hSame]

/- A ring that holds "aaab", to be searched for "aab". -/
def overlapping : Buffer 8 :=
  ((Buffer.init 8 (by decide) (by decide)).puts
    (ascii "aaab") 4).2

/- The partial match "aa" runs over the "aab" behind it. -/
theorem query_ne_find :
    ¬ ∀ (maxSize : Nat) (b : Buffer maxSize)
        (data : List UInt8) (j : Nat),
      data ≠ [] → j < b.contents.length →
        b.query data (b.position j) =
          (find data (b.contents.drop j)).map
            (fun i => b.position (j + i)) := by
  intro hAll
  have hQuery := hAll 8 overlapping (ascii "aab") 0
    (by decide) (by decide)
  exact absurd hQuery (by decide)

/- A ring holds any text that leaves one cell unused. -/
private theorem exists_contents_eq
    (hMax : maxSize ≤ 65536)
    (string : List UInt8)
    (hFits : string.length < maxSize) :
    ∃ b : Buffer maxSize, b.contents = string := by
  refine ⟨((init maxSize (by omega) hMax).puts
    string string.length).2, ?_⟩
  rw [contents_puts, contents_init, List.length_nil,
    Nat.zero_add, if_pos hFits, List.take_length,
    List.nil_append]

/-
  A pattern is found in every ring of a size, from every
  start on, exactly when each return of its first byte from
  which it fits into the ring begins a border.
-/
theorem query_eq_find_forall_iff
    (hData : data ≠ [])
    (hMax : maxSize ≤ 65536) :
    (∀ (b : Buffer maxSize) (j : Nat),
      j ≤ b.contents.length →
        b.query data (b.position j) =
          (find data (b.contents.drop j)).map
            (fun i => b.position (j + i))) ↔
      ReturnsAreBorders (maxSize - 1) data := by
  constructor
  · intro hAll
    by_contra hBorders
    rcases exists_not_firstAttempted hBorders with
      ⟨string, hRoom, hMissed⟩
    -- a ring with room for the pattern has a cell
    have hPos : 0 < maxSize := by
      apply Nat.pos_of_ne_zero
      rintro rfl
      apply hBorders
      intro d hd hNone
      omega
    rcases exists_contents_eq hMax string (by omega) with
      ⟨b, hContents⟩
    have hQuery := hAll b 0 (Nat.zero_le _)
    rw [b.query_eq_find_iff_greedy_eq hData (Nat.zero_le _),
      greedy_eq_find_iff hData, hContents] at hQuery
    exact hMissed hQuery
  · intro hBorders b j hj
    have hSize := b.size_lt
    rw [b.query_eq_find_iff_greedy_eq hData hj]
    apply (greedy_eq_find_forall_iff hData).mpr hBorders
    rw [List.length_drop, length_contents]
    omega

/-
  In a ring of eight cells the pattern "abab", which overlaps
  itself, is always found; "aab" is missed in some of them.
-/
theorem query_eq_find_forall_iff_eight_cells :
    (∀ (b : Buffer 8) (j : Nat), j ≤ b.contents.length →
      b.query (ascii "abab") (b.position j) =
        (find (ascii "abab") (b.contents.drop j)).map
          (fun i => b.position (j + i))) ∧
    ¬ ∀ (b : Buffer 8) (j : Nat), j ≤ b.contents.length →
      b.query (ascii "aab") (b.position j) =
        (find (ascii "aab") (b.contents.drop j)).map
          (fun i => b.position (j + i)) := by
  constructor
  · exact (query_eq_find_forall_iff (by decide)
      (by decide)).mpr (by decide)
  · intro hAll
    exact absurd ((query_eq_find_forall_iff (by decide)
      (by decide)).mp hAll) (by decide)

end Buffer
