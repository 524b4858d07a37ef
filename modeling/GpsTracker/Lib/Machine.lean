import Mathlib.Data.Int.ModEq
import Mathlib.Tactic.Common

/-
  Fixed-width integer arithmetic of the C code.

  A C expression is computed over the integers and wrapped
  where the code stores or converts it. The lemmas discharge
  the wrap where the value is in range.

  Main declarations:
    * `wrap`, `u16`, `u32`
    * `i32`, `i8`
    * `wrap_natCast_of_lt`
    * `i32_of_bounds`, `i32_u32`
-/

------------------------------------------------------------
-- Unsigned Wrap-Around
------------------------------------------------------------

namespace Machine

/- The value of an integer in an unsigned type of `width` bits. -/
def wrap
    (width : Nat)
    (x : Int) : Nat :=
  (x % 2 ^ width).toNat

/- Conversion to `uint16_t`. -/
abbrev u16 (x : Int) : Nat := wrap 16 x

/- Conversion to `uint32_t`. -/
abbrev u32 (x : Int) : Nat := wrap 32 x

theorem wrap_natCast
    (width n : Nat) :
    wrap width n = n % 2 ^ width := by
  unfold wrap
  have hCast :
      ((n : Int) % 2 ^ width) = ((n % 2 ^ width : Nat) : Int) := by
    push_cast
    rfl
  rw [hCast, Int.toNat_natCast]

theorem natCast_wrap
    (width : Nat)
    (x : Int) :
    ((wrap width x : Nat) : Int) = x % 2 ^ width :=
  Int.toNat_of_nonneg
    (Int.emod_nonneg x (pow_ne_zero width (by decide)))

theorem wrap_natCast_le
    (width n : Nat) :
    wrap width n ≤ n := by
  rw [wrap_natCast]
  exact Nat.mod_le _ _

theorem wrap_natCast_of_lt
    {width n : Nat}
    (hLt : n < 2 ^ width) :
    wrap width n = n := by
  rw [wrap_natCast, Nat.mod_eq_of_lt hLt]

end Machine

------------------------------------------------------------
-- Signed Wrap-Around
------------------------------------------------------------

namespace Machine

/-
  The value of an integer in a 32-bit two's complement type.
-/
def i32 (x : Int) : Int :=
  x.bmod (2 ^ 32)

theorem i32_of_bounds
    {x : Int}
    (hLe : -2 ^ 31 ≤ x)
    (hLt : x < 2 ^ 31) :
    i32 x = x :=
  Int.bmod_eq_of_le (by omega) (by omega)

/- The detour through `uint32_t` changes nothing. -/
theorem i32_u32
    (x : Int) :
    i32 (u32 x) = i32 x := by
  unfold i32 u32
  rw [natCast_wrap]
  exact Int.emod_bmod x (2 ^ 32)

/- Two's complement drops a multiple of 2^32. -/
theorem exists_i32_eq
    (x : Int) :
    ∃ turns : Int, i32 x = x + turns * 2 ^ 32 := by
  have hSplit := Int.bdiv_add_bmod x (2 ^ 32)
  refine ⟨-Int.bdiv x (2 ^ 32), ?_⟩
  unfold i32
  rw [show ((2 ^ 32 : Nat) : Int) = 2 ^ 32 from rfl] at hSplit
  omega

/- A byte read as a signed `char`. -/
def i8 (b : UInt8) : Int :=
  (b.toNat : Int).bmod (2 ^ 8)

theorem i8_bounds
    (b : UInt8) :
    -128 ≤ i8 b ∧ i8 b < 128 := by
  exact ⟨Int.le_bmod (by decide), Int.bmod_lt (by decide)⟩

end Machine
