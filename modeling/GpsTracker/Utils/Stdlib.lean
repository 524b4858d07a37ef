import GpsTracker.Lib.CString
import GpsTracker.Lib.Machine

/-
  Character classes and `strtol` of `libs/utils`.

  The character classes are those of standard ASCII. A
  string pointer is the list of the bytes from it on.

  Main declarations:
    * `Stdlib.isdigit`, `Stdlib.isprint`
    * `Stdlib.strtol`
-/

open Machine

------------------------------------------------------------
-- Character Classes
------------------------------------------------------------

namespace Stdlib

def isdigit (ch : UInt8) : Bool :=
  byte '0' ≤ ch && ch ≤ byte '9'

def isupper (ch : UInt8) : Bool :=
  byte 'A' ≤ ch && ch ≤ byte 'Z'

def islower (ch : UInt8) : Bool :=
  byte 'a' ≤ ch && ch ≤ byte 'z'

def isalpha (ch : UInt8) : Bool :=
  isupper ch || islower ch

def isspace (ch : UInt8) : Bool :=
  ch = 32 || (9 ≤ ch && ch ≤ 13)

def isprint (ch : UInt8) : Bool :=
  32 ≤ ch && ch ≤ 126

------------------------------------------------------------
-- Integer Conversion
------------------------------------------------------------

/- `LONG_MAX` of `std_inc/limits.h` -/
def longMax : Int := 0x7fffffff

/- `LONG_MIN` of `std_inc/limits.h` -/
def longMin : Int := -(0x7fffffff - 1)

/- The value of a digit or a letter, in any base. -/
def digitValue? (ch : UInt8) : Option Nat :=
  if isdigit ch then
    some (ch.toNat - (byte '0').toNat)
  else if isalpha ch then
    if isupper ch then
      some (ch.toNat - ((byte 'A').toNat - 10))
    else
      some (ch.toNat - ((byte 'a').toNat - 10))
  else
    none

/-
  The digit loop of `strtol`: the value, the flag (0 before
  the first digit, -1 after an overflow), and the pointer to
  the character that ended the loop.
-/
def strtolLoop
    (base overflow limitRemainder : Nat) :
    List UInt8 → Nat → Int → Nat × Int × List UInt8
| [], ret, flag => (ret, flag, [])
| ch :: p, ret, flag =>
    match digitValue? ch with
    | none => (ret, flag, ch :: p)
    | some digit =>
        if digit ≥ base then
          (ret, flag, ch :: p)
        else if flag < 0 ∨ ret > overflow ∨
            (ret = overflow ∧ digit > limitRemainder) then
          strtolLoop base overflow limitRemainder p ret (-1)
        else
          strtolLoop base overflow limitRemainder p
            (u32 (u32 (ret * base) + digit)) 1

/- `strtol`: the value and `endptr`. -/
def strtol
    (nptr : List UInt8)
    (base : Nat) :
    Int × List UInt8 :=
  let p := nptr.dropWhile isspace
  let sign := CString.peek p = byte '-'
  let p :=
    if CString.peek p = byte '-' ∨
        CString.peek p = byte '+' then
      p.tail
    else
      p
  let isHex : Bool :=
    (base = 0 ∨ base = 16) ∧ CString.peek p = byte '0' ∧
      (CString.peek p.tail = byte 'x' ∨
        CString.peek p.tail = byte 'X')
  let p := if isHex then p.drop 2 else p
  let base := if isHex then 16 else base
  let base :=
    if base = 0 then
      if CString.peek p = byte '0' then 8 else 10
    else
      base
  let overflow :=
    if sign then u32 (-(u32 longMin : Int)) else u32 longMax
  let limitRemainder := overflow % base
  let overflow := overflow / base
  let (ret, flag, p) :=
    strtolLoop base overflow limitRemainder p 0 0
  let ret :=
    if flag < 0 then
      if sign then u32 longMin else u32 longMax
    else if sign then
      u32 (-(ret : Int))
    else
      ret
  (i32 ret, if flag ≠ 0 then p else nptr)

example : strtol (ascii " -42,") 10 = (-42, ascii ",") := by
  decide

end Stdlib
