import Mathlib.Data.List.Count
import Mathlib.Tactic.Common

/-
  Checksums by exclusive or.

  The checksum of bytes does not depend on how a loop splits
  them, and a single changed byte changes it. Its high bit
  says whether an odd number of the bytes have theirs set.

  Main declarations:
    * `Xor.checksum`, `Xor.foldl_eq`
    * `Xor.checksum_set_ne`
    * `Xor.highBit`, `Xor.highBit_checksum_iff`
-/

------------------------------------------------------------
-- Checksums
------------------------------------------------------------

namespace Xor

/- The exclusive or of all bytes. -/
def checksum (bytes : List UInt8) : UInt8 :=
  bytes.foldl (· ^^^ ·) 0

/- A loop that starts with a value. -/
theorem foldl_eq
    (start : UInt8)
    (bytes : List UInt8) :
    bytes.foldl (· ^^^ ·) start = start ^^^ checksum bytes := by
  unfold checksum
  induction bytes generalizing start with
  | nil => rw [List.foldl_nil, List.foldl_nil, UInt8.xor_zero]
  | cons b bytes ih =>
      rw [List.foldl_cons, List.foldl_cons, ih, ih (0 ^^^ b),
        UInt8.zero_xor, UInt8.xor_assoc]

theorem checksum_cons
    (b : UInt8)
    (bytes : List UInt8) :
    checksum (b :: bytes) = b ^^^ checksum bytes := by
  rw [checksum, List.foldl_cons, foldl_eq, UInt8.zero_xor]

theorem checksum_append
    (first second : List UInt8) :
    checksum (first ++ second) =
      checksum first ^^^ checksum second := by
  rw [checksum, List.foldl_append, foldl_eq]
  rfl

/- One changed byte changes the checksum. -/
theorem checksum_set_ne
    {bytes : List UInt8}
    {k : Nat}
    (hk : k < bytes.length)
    {b : UInt8}
    (hNe : b ≠ bytes[k]) :
    checksum (bytes.set k b) ≠ checksum bytes := by
  induction bytes generalizing k with
  | nil => cases hk
  | cons first bytes ih =>
      cases k with
      | zero =>
          rw [List.set_cons_zero, checksum_cons, checksum_cons,
            Ne, UInt8.xor_left_inj]
          exact hNe
      | succ k =>
          rw [List.set_cons_succ, checksum_cons, checksum_cons,
            Ne, UInt8.xor_right_inj]
          exact ih (Nat.lt_of_succ_lt_succ hk) hNe

end Xor

------------------------------------------------------------
-- The High Bit
------------------------------------------------------------

namespace Xor

/- The bit that a signed `char` takes for its sign. -/
def highBit (b : UInt8) : Bool :=
  128 ≤ b.toNat

theorem highBit_eq_testBit
    (b : UInt8) :
    highBit b = b.toNat.testBit 7 := by
  have hLess := b.toNat_lt
  rw [highBit, Nat.testBit_eq_decide_div_mod_eq,
    decide_eq_decide]
  omega

theorem highBit_xor
    (a b : UInt8) :
    highBit (a ^^^ b) = (highBit a ^^ highBit b) := by
  rw [highBit_eq_testBit, UInt8.toNat_xor, Nat.testBit_xor,
    ← highBit_eq_testBit, ← highBit_eq_testBit]

/- The parity of the number of high bits. -/
theorem highBit_checksum_iff
    (bytes : List UInt8) :
    highBit (checksum bytes) = true ↔
      bytes.countP highBit % 2 = 1 := by
  induction bytes with
  | nil => decide
  | cons b bytes ih =>
      rw [checksum_cons, highBit_xor, List.countP_cons]
      cases hFirst : highBit b with
      | false => simpa using ih
      | true =>
          simp only [Bool.true_xor, if_true,
            Bool.not_eq_true', ← Bool.not_eq_true, ih]
          omega

theorem highBit_checksum_of_clear
    {bytes : List UInt8}
    (hClear : ∀ b ∈ bytes, highBit b = false) :
    highBit (checksum bytes) = false := by
  have hNone : bytes.countP highBit = 0 := by
    rw [List.countP_eq_zero]
    intro b hb
    rw [hClear b hb]
    decide
  rw [← Bool.not_eq_true, highBit_checksum_iff, hNone]
  decide

end Xor
