import GpsTracker.Lib.Place
import GpsTracker.Minmea.Types
import GpsTracker.Utils.Stdlib

/-
  `minmea_check` and `minmea_scan` of
  `libs/gps/minmea/src/minmea.c`.

  A character of a scan format and the pointer that the
  caller passes for it form one `Directive`: a conversion of
  the field text, and the place the value is stored to. The
  place is a field of the frame or a local variable of the
  caller. Fields are stored as they are scanned, so a scan
  that fails has already stored the fields before.

  Main declarations:
    * `Minmea.check`, `Minmea.nextField`
    * `Minmea.scanFloat` and the other conversions
    * `Minmea.Directive`, `Minmea.scan`
-/

open CString Machine Stdlib

------------------------------------------------------------
-- Sentence Check
------------------------------------------------------------

namespace Minmea

def hex2int (c : UInt8) : Int :=
  if byte '0' ≤ c ∧ c ≤ byte '9' then
    c.toNat - (byte '0').toNat
  else if byte 'A' ≤ c ∧ c ≤ byte 'F' then
    c.toNat - (byte 'A').toNat + 10
  else if byte 'a' ≤ c ∧ c ≤ byte 'f' then
    c.toNat - (byte 'a').toNat + 10
  else
    -1

/- The checksum loop of `minmea_check`. -/
def checksumLoop :
    List UInt8 → UInt8 → UInt8 × List UInt8
| [], checksum => (checksum, [])
| c :: sentence, checksum =>
    if c ≠ byte '*' ∧ isprint c then
      checksumLoop sentence (checksum ^^^ c)
    else
      (checksum, c :: sentence)

/- The end of `minmea_check`: only a newline is allowed. -/
def checkEnd (sentence : List UInt8) : Bool :=
  sentence = [] ∨ sentence = [10] ∨ sentence = crlf

/- `minmea_check` -/
def check
    (sentence : List UInt8)
    (strict : Bool) : Bool :=
  if sentence.length > maxLength + 3 then
    false
  else if peek sentence ≠ byte '$' then
    false
  else
    let (checksum, sentence) := checksumLoop sentence.tail 0
    if peek sentence = byte '*' then
      let upper := hex2int (peek sentence.tail)
      let lower := hex2int (peek sentence.tail.tail)
      if upper = -1 then
        false
      else if lower = -1 then
        false
      else if (checksum.toNat : Int) ≠ upper * 16 + lower then
        false
      else
        checkEnd (sentence.drop 3)
    else if strict then
      false
    else
      checkEnd sentence

------------------------------------------------------------
-- Fields
------------------------------------------------------------

/- `minmea_isfield` -/
def isfield (c : UInt8) : Bool :=
  isprint c && c ≠ byte ',' && c ≠ byte '*'

/-
  `next_field`: the sentence pointer moves behind the next
  comma, and the field pointer with it; at the end of the
  sentence the field pointer is null.
-/
def nextField
    (sentence : List UInt8) :
    List UInt8 × Option (List UInt8) :=
  let sentence := sentence.dropWhile isfield
  if peek sentence = byte ',' then
    (sentence.tail, some sentence.tail)
  else
    (sentence, none)

------------------------------------------------------------
-- Conversions
------------------------------------------------------------

/- 'c': a single character, or NUL. -/
def scanChar
    (field : Option (List UInt8)) : Option UInt8 :=
  match field with
  | none => some 0
  | some field =>
      some (if isfield (peek field) then peek field else 0)

/- 'd': a single character direction. -/
def scanDirection
    (field : Option (List UInt8)) : Option Int :=
  match field with
  | none => some 0
  | some field =>
      if isfield (peek field) then
        if peek field = byte 'N' ∨ peek field = byte 'E' then
          some 1
        else if peek field = byte 'S' ∨
            peek field = byte 'W' then
          some (-1)
        else
          none
      else
        some 0

/-
  The loop of 'f': sign, value (-1 before the first digit)
  and scale. `none` is a parse error. A digit that would
  overflow the value ends the field when it is a fraction
  digit and is an error otherwise; `scale` is multiplied
  without a check.
-/
def floatLoop :
    List UInt8 → Int → Int → Int → Option (Int × Int × Int)
| [], sign, value, scale => some (sign, value, scale)
| c :: field, sign, value, scale =>
    if !isfield c then
      some (sign, value, scale)
    else if c = byte '+' ∧ sign = 0 ∧ value = -1 then
      floatLoop field 1 value scale
    else if c = byte '-' ∧ sign = 0 ∧ value = -1 then
      floatLoop field (-1) value scale
    else if isdigit c then
      let digit : Int := c.toNat - (byte '0').toNat
      let value := if value = -1 then 0 else value
      if value > (2147483647 - digit) / 10 then
        if scale ≠ 0 then
          some (sign, value, scale)
        else
          none
      else
        floatLoop field sign (10 * value + digit)
          (if scale ≠ 0 then i32 (scale * 10) else scale)
    else if c = byte '.' ∧ scale = 0 then
      floatLoop field sign value 1
    else if c = byte ' ' then
      if sign ≠ 0 ∨ value ≠ -1 ∨ scale ≠ 0 then
        none
      else
        floatLoop field sign value scale
    else
      none

/- 'f': a fractional value with scale. -/
def scanFloat
    (field : Option (List UInt8)) : Option MinmeaFloat :=
  match floatLoop (field.getD []) 0 (-1) 0 with
  | none => none
  | some (sign, value, scale) =>
      if (sign ≠ 0 ∨ scale ≠ 0) ∧ value = -1 then
        none
      else if value = -1 then
        some ⟨0, 0⟩
      else
        some
          ⟨if sign ≠ 0 then value * sign else value,
            if scale = 0 then 1 else scale⟩

/- 'i': an integer value, default 0. -/
def scanInt
    (field : Option (List UInt8)) : Option Int :=
  match field with
  | none => some 0
  | some field =>
      let (value, endptr) := strtol field 10
      if isfield (peek endptr) then none else some value

/- 't': talker and sentence identifier, five characters. -/
def scanTalker
    (field : Option (List UInt8)) : Option (List UInt8) :=
  match field with
  | none => none
  | some field =>
      if peek field ≠ byte '$' then
        none
      else if (field.tail.take 5).length = 5 ∧
          (field.tail.take 5).all isfield then
        some (field.tail.take 5)
      else
        none

/- The six digits that 'D' and 'T' require. -/
def sixDigits (field : List UInt8) : Bool :=
  (field.take 6).length = 6 ∧ (field.take 6).all isdigit

/- Two of these digits as a number. -/
def twoDigits
    (field : List UInt8)
    (offset : Nat) : Int :=
  (strtol ((field.drop offset).take 2) 10).1

/- 'D': a date, -1 if empty. -/
def scanDate
    (field : Option (List UInt8)) : Option MinmeaDate :=
  match field with
  | none => some ⟨-1, -1, -1⟩
  | some field =>
      if isfield (peek field) then
        if sixDigits field then
          some ⟨twoDigits field 0, twoDigits field 2,
            twoDigits field 4⟩
        else
          none
      else
        some ⟨-1, -1, -1⟩

/- The loop over fractional seconds. -/
def fractionLoop : List UInt8 → Nat → Nat → Nat × Nat
| [], value, scale => (value, scale)
| c :: field, value, scale =>
    if isdigit c ∧ scale > 1 then
      fractionLoop field
        (u32 (value * 10 + (c.toNat - (byte '0').toNat)))
        (scale / 10)
    else
      (value, scale)

/- 'T': a time, -1 if empty. -/
def scanTime
    (field : Option (List UInt8)) : Option MinmeaTime :=
  match field with
  | none => some ⟨-1, -1, -1, -1⟩
  | some field =>
      if isfield (peek field) then
        if sixDigits field then
          let microseconds : Int :=
            if peek (field.drop 6) = byte '.' then
              let (value, scale) :=
                fractionLoop (field.drop 7) 0 1000000
              i32 (u32 (value * scale))
            else
              0
          some ⟨twoDigits field 0, twoDigits field 2,
            twoDigits field 4, microseconds⟩
        else
          none
      else
        some ⟨-1, -1, -1, -1⟩

------------------------------------------------------------
-- Scanning
------------------------------------------------------------

/-
  The local variables of the `minmea_parse_*` functions that
  a scan may store to. Each function uses its own.
-/
structure Locals where
  type : List UInt8
  validity : UInt8
  latitudeDirection : Int
  longitudeDirection : Int
  variationDirection : Int
  cTrue : UInt8
  cMagnetic : UInt8
  cKnots : UInt8
  cKph : UInt8
  cFaaMode : UInt8
deriving Inhabited

/- A pointer argument of a scan. -/
inductive Arg (F α : Type) where
  | field (place : Place F α)
  | var (place : Place Locals α)

/- Store a scanned value through its pointer. -/
def Arg.store
    {F α : Type}
    (arg : Arg F α)
    (v : α)
    (state : F × Locals) : F × Locals :=
  match arg with
  | .field place => (place.set v state.1, state.2)
  | .var place => (state.1, place.set v state.2)

/- A format character together with its argument. -/
inductive Directive (F : Type) : Type 1 where
  | optional
  | ignore
  | convert
      {α : Type}
      (scan : Option (List UInt8) → Option α)
      (arg : Arg F α)

namespace Directive

variable {F : Type}

def c (arg : Arg F UInt8) : Directive F :=
  .convert scanChar arg

def d (arg : Arg F Int) : Directive F :=
  .convert scanDirection arg

def f (arg : Arg F MinmeaFloat) : Directive F :=
  .convert scanFloat arg

def i (arg : Arg F Int) : Directive F :=
  .convert scanInt arg

def t (arg : Arg F (List UInt8)) : Directive F :=
  .convert scanTalker arg

def D (arg : Arg F MinmeaDate) : Directive F :=
  .convert scanDate arg

def T (arg : Arg F MinmeaTime) : Directive F :=
  .convert scanTime arg

end Directive

/- The loop of `minmea_scan` over the format. -/
def scanLoop
    {F : Type}
    (format : List (Directive F))
    (sentence : List UInt8)
    (field : Option (List UInt8))
    (isOptional : Bool)
    (state : F × Locals) :
    Bool × (F × Locals) :=
  match format with
  | [] => (true, state)
  | .optional :: format =>
      scanLoop format sentence field true state
  | .ignore :: format =>
      if field.isNone && !isOptional then
        (false, state)
      else
        let (sentence, field) := nextField sentence
        scanLoop format sentence field isOptional state
  | .convert scan arg :: format =>
      if field.isNone && !isOptional then
        (false, state)
      else
        match scan field with
        | none => (false, state)
        | some value =>
            let (sentence, field) := nextField sentence
            scanLoop format sentence field isOptional
              (arg.store value state)

/- `minmea_scan` -/
def scan
    {F : Type}
    (sentence : List UInt8)
    (format : List (Directive F))
    (state : F × Locals) :
    Bool × (F × Locals) :=
  scanLoop format sentence (some sentence) false state

end Minmea
