import GpsTracker.Lib.Machine

/-
  The ring buffer of `libs/utils/src/buffer.c`.

  `front` is the index before the oldest byte and `rear` the
  index of the newest one, so one cell always stays unused.
  Both are `uint16_t`; sizes are computed in `uint32_t`.
  The bounds the code relies on are carried by the type:
  a `Buffer maxSize` exists only for a size that
  `Buffer_Init` may be given.

  Main declarations:
    * `Buffer`, `Buffer.init`
    * `Buffer.puts`, `Buffer.gets`, `Buffer.query`
    * `Buffer.size`, `Buffer.size2`, `Buffer.clear`,
      `Buffer.startPosition`
-/

open Machine

------------------------------------------------------------
-- Data
------------------------------------------------------------

/- `Buffer_t`, over an array of `maxSize` bytes. -/
structure Buffer (maxSize : Nat) where
  front : Fin maxSize
  rear : Fin maxSize
  buffer : Vector UInt8 maxSize
  maxSize_le : maxSize ≤ 65536

namespace Buffer

variable {maxSize : Nat}

/- `(index + 1) % maxSize`, stored in a `uint16_t`. -/
def next (index : Fin maxSize) : Fin maxSize :=
  ⟨u16 ((index.val + 1) % maxSize : Nat),
    Nat.lt_of_le_of_lt (wrap_natCast_le 16 _)
      (Nat.mod_lt _ index.pos)⟩

/- `Buffer_Init`: zeroed memory whose first cell is a space. -/
def init
    (maxSize : Nat)
    (hPos : 0 < maxSize)
    (hLe : maxSize ≤ 65536) :
    Buffer maxSize :=
  { front := ⟨0, hPos⟩
    rear := ⟨0, hPos⟩
    buffer := (Vector.replicate maxSize 0).set 0 32 hPos
    maxSize_le := hLe }

------------------------------------------------------------
-- Sizes and Positions
------------------------------------------------------------

/- `Buffer_Size` -/
def size (b : Buffer maxSize) : Nat :=
  u32 (b.rear.val - b.front.val + maxSize) % maxSize

/- `Buffer_Size2` -/
def size2
    (b : Buffer maxSize)
    (index : Nat) : Nat :=
  u32 (index - b.front.val + maxSize) % maxSize

/- `Buffer_StartPostion` -/
def startPosition (b : Buffer maxSize) : Fin maxSize :=
  next b.front

/- `Buffer_Clear` -/
def clear (b : Buffer maxSize) : Buffer maxSize :=
  { b with
    front := ⟨0, b.front.pos⟩
    rear := ⟨0, b.front.pos⟩ }

------------------------------------------------------------
-- Put and Get
------------------------------------------------------------

/- One turn of the loop of `Buffer_Puts`. -/
def push
    (b : Buffer maxSize)
    (x : UInt8) : Buffer maxSize :=
  { b with
    rear := next b.rear
    buffer := b.buffer.set (next b.rear).val x }

/- The loop of `Buffer_Puts`. -/
def putsLoop
    (b : Buffer maxSize) :
    List UInt8 → Buffer maxSize
| [] => b
| x :: xs => putsLoop (b.push x) xs

/-
  `Buffer_Puts` of the first `length` bytes of `data`. A
  chunk that does not fit is refused whole.
-/
def puts
    (b : Buffer maxSize)
    (data : List UInt8)
    (length : Nat) :
    Bool × Buffer maxSize :=
  if u32 (maxSize - b.size) ≤ length then
    (false, b)
  else
    (true, b.putsLoop (data.take length))

/- The loop of `Buffer_Gets`. -/
def getsLoop
    (b : Buffer maxSize) :
    Nat → List UInt8 × Buffer maxSize
| 0 => ([], b)
| length + 1 =>
    let front := next b.front
    let later := getsLoop { b with front := front } length
    (b.buffer[front] :: later.1, later.2)

/-
  `Buffer_Gets`: the bytes written to `data`, or nothing when
  fewer than `length` are held.
-/
def gets
    (b : Buffer maxSize)
    (length : Nat) :
    Option (List UInt8 × Buffer maxSize) :=
  if b.size < length then
    none
  else
    some (b.getsLoop length)

------------------------------------------------------------
-- Query
------------------------------------------------------------

/-
  The loop of `Buffer_Query`. After a mismatch the matcher
  tries the current byte once more as the first byte of the
  pattern. `none` stands for an `indexReturn` of -1.
-/
def queryLoop
    (b : Buffer maxSize)
    (data : List UInt8) :
    Nat → Fin maxSize → Nat → Option (Fin maxSize) →
      Option (Fin maxSize)
| 0, _, _, _ => none
| size + 1, index, indexData, indexReturn =>
    if b.buffer[index] = data.getD indexData 0 then
      let indexReturn :=
        if indexData = 0 then some index else indexReturn
      if indexData + 1 = data.length then
        indexReturn
      else
        queryLoop b data size (next index) (indexData + 1)
          indexReturn
    else if b.buffer[index] = data.getD 0 0 then
      if 1 = data.length then
        some index
      else
        queryLoop b data size (next index) 1 (some index)
    else
      queryLoop b data size (next index) 0 none

/- `Buffer_Query` -/
def query
    (b : Buffer maxSize)
    (data : List UInt8)
    (startPosition : Fin maxSize) :
    Option (Fin maxSize) :=
  let size :=
    u32 (b.rear.val - startPosition.val + 1 + maxSize) %
      maxSize
  b.queryLoop data size startPosition 0 none

end Buffer
