import GpsTracker.Gps.Command
import GpsTracker.Gps.Parity
import Mathlib.Data.List.GetD

/-
  `GPS_CMDSend`, and how it agrees with the parity checks.

  The function completes a command in the caller's memory
  and sends it. What it sends is accepted by the check of
  its format, and no longer when one byte is changed.

  Main declarations:
    * `Gps.storeBytes`, `Gps.cmdSend`
    * `Gps.IsCommand`, `Gps.Agrees`
    * `Gps.cmdSend_agrees`
-/

open CString Machine

------------------------------------------------------------
-- The Function
------------------------------------------------------------

namespace Gps

/- `GPS_BUFFER_MAX_LENGTH+6`, the size of a command buffer. -/
def cmdBufferLength : Nat := 536

/-
  Stores from an index on, one after another. There is no
  result when one of them is outside the memory.
-/
def storeBytes
    (memory : List UInt8)
    (i : Nat) :
    List UInt8 → Option (List UInt8)
| [] => some memory
| b :: bytes =>
    if i < memory.length then
      storeBytes (memory.set i b) (i + 1) bytes
    else
      none

/-
  The loop of `GPS_CMDSend` over an NMEA command, from an
  index on: the parity, and the index of the NUL.
-/
def cmdParityLoop :
    List UInt8 → Nat → UInt8 → Option (UInt8 × Nat)
| [], _, _ => none
| b :: str, i, result =>
    if b ≠ 0 then
      cmdParityLoop str (i + 1) (result ^^^ b)
    else
      some (result, i)

/- The bytes that `GPS_Send` sends; `len` is a `uint16_t`. -/
def gpsSend
    (cmd : List UInt8)
    (len : Nat) : List UInt8 :=
  cmd.take (u16 len)

/-
  What `GPS_CMDSend` has done: the memory of the command,
  the bytes sent, and whether the ring buffer was cleared.
-/
structure CmdSent where
  str : List UInt8
  sent : List UInt8
  cleared : Bool
deriving DecidableEq

/-
  `GPS_CMDSend`. There is no result when it leaves the
  memory of the command or `Hex_Str`.
-/
def cmdSend (str : List UInt8) : Format → Option CmdSent
| .nmea => do
    let (result, i) ←
      cmdParityLoop (str.drop 2) 2 (str.getD 1 0)
    let high ← hexStr (i8 result / 16)
    let low ← hexStr (result.toNat % 16 : Nat)
    let str ← storeBytes str i
      [byte '*', high, low, 13, 10, 0]
    some
      { str := str
        sent := gpsSend str (text str).length
        cleared := true }
| .binary => do
    let len := u16 (word str 2 - 3)
    let result :=
      (List.range' 3 (len - 3)).foldl
        (fun result i => result ^^^ str.getD i 0)
        (str.getD 2 0)
    let str ← storeBytes str len [result, 0x0d, 0x0a]
    some
      { str := str
        sent := gpsSend str (len + 3)
        cleared := false }

theorem storeBytes_eq
    {memory bytes : List UInt8}
    {i : Nat}
    (hFits : i + bytes.length ≤ memory.length) :
    storeBytes memory i bytes =
      some (memory.take i ++ bytes ++
        memory.drop (i + bytes.length)) := by
  induction bytes generalizing memory i with
  | nil => simp [storeBytes]
  | cons b bytes ih =>
      rw [List.length_cons] at hFits
      have hHere : i < memory.length := by omega
      have hTake : (memory.set i b).take (i + 1) =
          memory.take i ++ [b] := by
        rw [List.set_eq_take_append_cons_drop, if_pos hHere,
          List.take_append, List.length_take,
          Nat.min_eq_left (Nat.le_of_lt hHere),
          Nat.add_sub_cancel_left, List.take_take]
        simp
      have hDrop : (memory.set i b).drop
          (i + 1 + bytes.length) =
          memory.drop (i + (bytes.length + 1)) := by
        rw [List.drop_set, if_pos (by omega)]
        congr 1
        omega
      rw [storeBytes, if_pos hHere,
        ih (by rw [List.length_set]; omega), hTake, hDrop,
        List.append_assoc (memory.take i) [b] bytes,
        List.singleton_append, List.length_cons]

/- The loop comes to the NUL. -/
theorem cmdParityLoop_append
    {str : List UInt8}
    (hNul : 0 ∉ str)
    (rest : List UInt8)
    (i : Nat)
    (result : UInt8) :
    cmdParityLoop (str ++ 0 :: rest) i result =
      some (result ^^^ Xor.checksum str, i + str.length) := by
  induction str generalizing i result with
  | nil => simp [cmdParityLoop, Xor.checksum]
  | cons b str ih =>
      rw [List.mem_cons, not_or] at hNul
      rw [List.cons_append, cmdParityLoop,
        if_pos (Ne.symm hNul.1), ih hNul.2,
        Xor.checksum_cons, UInt8.xor_assoc, List.length_cons,
        Nat.add_right_comm, Nat.add_assoc]

end Gps

------------------------------------------------------------
-- NMEA Commands
------------------------------------------------------------

namespace Gps

/- A character of a command: seven bits, no NUL and no '*'. -/
def CmdChar (b : UInt8) : Prop :=
  b.toNat < 128 ∧ b ≠ 0 ∧ b ≠ byte '*'

variable {tail : List UInt8}

theorem highBit_of_cmdChars
    (hChars : ∀ b ∈ tail, CmdChar b) :
    Xor.highBit (Xor.checksum tail) = false := by
  apply Xor.highBit_checksum_of_clear
  intro b hb
  have hLess := (hChars b hb).1
  simpa [Xor.highBit] using hLess

theorem star_notMem_cmdChars
    (hChars : ∀ b ∈ tail, CmdChar b) :
    byte '*' ∉ byte '$' :: tail := by
  rw [List.mem_cons, not_or]
  exact ⟨by decide, fun hMem => (hChars _ hMem).2.2 rfl⟩

theorem nul_notMem_cmdChars
    (hChars : ∀ b ∈ tail, CmdChar b) :
    0 ∉ byte '$' :: tail := by
  rw [List.mem_cons, not_or]
  exact ⟨by decide, fun hMem => (hChars _ hMem).2.1 rfl⟩

/- The check of a command with anything behind its '*'. -/
theorem checkParity_of_cmdChars
    (hTail : tail ≠ [])
    (hChars : ∀ b ∈ tail, CmdChar b)
    (digits : List UInt8) :
    checkParity
        (some (byte '$' :: tail ++ byte '*' :: digits)) =
      some (decide (DigitsOf (Xor.checksum tail) digits)) := by
  have hClear := highBit_of_cmdChars hChars
  have hStar := star_notMem_cmdChars hChars
  have hNul := nul_notMem_cmdChars hChars
  rcases List.exists_cons_of_ne_nil hTail with
    ⟨second, body, rfl⟩
  have hCheck := checkParity_append hStar hNul digits
  rw [hClear] at hCheck
  exact hCheck

/- What `GPS_CMDSend` puts behind the '*'. -/
def parityTail (result : UInt8) : List UInt8 :=
  [upperHex (result.toNat / 16),
    upperHex (result.toNat % 16), 13, 10]

theorem digitsOf_parityTail
    (result : UInt8)
    (rest : List UInt8) :
    DigitsOf result (parityTail result ++ rest) :=
  ⟨rfl, rfl⟩

theorem nul_notMem_parityTail
    (result : UInt8) :
    0 ∉ parityTail result := by
  have hByte := result.toNat_lt
  have hHigh : upperHex (result.toNat / 16) ≠ 0 :=
    upperHex_ne_zero (by omega)
  have hLow : upperHex (result.toNat % 16) ≠ 0 :=
    upperHex_ne_zero (by omega)
  simp [parityTail, Ne.symm hHigh, Ne.symm hLow]

/- The command that is sent. -/
def completed (tail : List UInt8) : List UInt8 :=
  byte '$' :: tail ++
    byte '*' :: parityTail (Xor.checksum tail)

theorem nul_notMem_completed
    (hChars : ∀ b ∈ tail, CmdChar b) :
    0 ∉ completed tail := by
  intro hMem
  rcases List.mem_append.mp hMem with hCmd | hEnd
  · exact nul_notMem_cmdChars hChars hCmd
  · rcases List.mem_cons.mp hEnd with hStar | hMem
    · revert hStar
      decide
    · exact nul_notMem_parityTail _ hMem

theorem length_completed
    (tail : List UInt8) :
    (completed tail).length = tail.length + 6 := by
  simp [completed, parityTail]

/- The stores of `GPS_CMDSend` behind an NMEA command. -/
theorem storeBytes_parityTail
    {rest : List UInt8}
    (hFits : 5 ≤ rest.length) :
    storeBytes (byte '$' :: tail ++ 0 :: rest)
        (tail.length + 1)
        [byte '*',
          upperHex ((Xor.checksum tail).toNat / 16),
          upperHex ((Xor.checksum tail).toNat % 16),
          13, 10, 0] =
      some (completed tail ++ 0 :: rest.drop 5) := by
  have hTake : (byte '$' :: tail ++ 0 :: rest).take
      (tail.length + 1) = byte '$' :: tail :=
    List.take_left' rfl
  have hRest : (byte '$' :: tail ++ 0 :: rest).drop
      (tail.length + 1 + 6) = rest.drop 5 := by
    rw [← List.drop_drop, List.drop_left' (by rfl)]
    rfl
  rw [storeBytes_eq (by simp; omega), hTake]
  simp only [List.length_cons, List.length_nil, Nat.zero_add,
    Nat.reduceAdd]
  rw [hRest]
  simp [completed, parityTail]

/- `GPS_CMDSend` of an NMEA command. -/
theorem cmdSend_nmea
    (hTail : tail ≠ [])
    (hChars : ∀ b ∈ tail, CmdChar b)
    {rest : List UInt8}
    (hFits : 5 ≤ rest.length)
    (hWidth : tail.length < 65000) :
    cmdSend (byte '$' :: tail ++ 0 :: rest) .nmea =
      some
        { str := completed tail ++ 0 :: rest.drop 5
          sent := completed tail
          cleared := true } := by
  have hNul : 0 ∉ tail := fun hMem =>
    (hChars _ hMem).2.1 rfl
  have hClear := highBit_of_cmdChars hChars
  rcases List.exists_cons_of_ne_nil hTail with
    ⟨second, body, rfl⟩
  rw [List.mem_cons, not_or] at hNul
  have hLoop := cmdParityLoop_append hNul.2 rest 2 second
  rw [← Xor.checksum_cons] at hLoop
  have hDrop : (byte '$' :: second :: body ++ 0 :: rest).drop 2 =
      body ++ 0 :: rest := rfl
  have hSecond : (byte '$' :: second :: body ++
      0 :: rest).getD 1 0 = second := rfl
  have hByte := (Xor.checksum (second :: body)).toNat_lt
  simp only [cmdSend, hDrop, hSecond, hLoop,
    Option.bind_eq_bind, Option.bind_some]
  rw [i8_div_of_clear hClear, hexStr_of_lt (by omega),
    hexStr_of_lt (by omega)]
  have hStore :=
    @storeBytes_parityTail (second :: body) rest hFits
  have hIndex : 2 + body.length =
      (second :: body).length + 1 := by
    rw [List.length_cons]
    omega
  have hText : text (completed (second :: body) ++
      0 :: rest.drop 5) = completed (second :: body) :=
    text_append_nul (nul_notMem_completed hChars) _
  have hLength := length_completed (second :: body)
  have hWhole : u16 ((completed (second :: body)).length : Nat) =
      (completed (second :: body)).length :=
    wrap_natCast_of_lt (by omega)
  rw [Option.bind_some, Option.bind_some, hIndex, hStore,
    Option.bind_some, hText, gpsSend, hWhole, List.take_left]

end Gps

namespace Gps

/- An NMEA command in the buffer of a caller. -/
structure NmeaCommand (str : List UInt8) : Prop where
  buffer : str.length = cmdBufferLength
  dollar : (text str).head? = some (byte '$')
  least : 2 ≤ (text str).length
  most : (text str).length ≤ 529
  chars : ∀ b ∈ (text str).tail,
    b.toNat < 128 ∧ b ≠ byte '*'

/-
  The completed command fits its buffer, with its first '*'
  behind the command. It is sent whole and accepted; with
  another character before the '*' it is rejected.
-/
structure NmeaAgrees
    (str : List UInt8)
    (s : CmdSent) : Prop where
  buffer : s.str.length = cmdBufferLength
  fits : (text s.str).length < cmdBufferLength
  star : strstr s.str 0 (ascii "*") =
    some (text str).length
  sent : s.sent = text s.str
  accepted : checkParity (some s.str) = some true
  rejected : ∀ k b,
    1 ≤ k → k < (text str).length → CmdChar b →
    b ≠ s.str.getD k 0 →
    checkParity (some (s.str.set k b)) = some false

/- The parts of an NMEA command in its buffer. -/
theorem NmeaCommand.exists_parts
    {str : List UInt8}
    (hCommand : NmeaCommand str) :
    ∃ tail rest,
      str = byte '$' :: tail ++ 0 :: rest ∧
        text str = byte '$' :: tail ∧
        tail ≠ [] ∧ ∀ b ∈ tail, CmdChar b := by
  have hMost := hCommand.most
  have hBuffer := hCommand.buffer
  have hLeast := hCommand.least
  have hNul : 0 ∈ str := by
    by_contra hNone
    rw [text_of_nul_notMem hNone, hBuffer] at hMost
    revert hMost
    decide
  rcases exists_eq_text_append hNul with ⟨rest, hStr⟩
  rcases List.head?_eq_some_iff.mp hCommand.dollar with
    ⟨tail, hText⟩
  refine ⟨tail, rest, by rw [← hText]; exact hStr, hText,
    ?_, ?_⟩
  · rintro rfl
    rw [hText] at hLeast
    revert hLeast
    decide
  · intro b hb
    have hChar := hCommand.chars b (by rw [hText]; exact hb)
    refine ⟨hChar.1, ?_, hChar.2⟩
    rintro rfl
    apply nul_notMem_text str
    rw [hText]
    exact List.mem_cons_of_mem _ hb

/- Another character before the '*' changes the parity. -/
theorem checkParity_set
    {tail : List UInt8}
    (hChars : ∀ b ∈ tail, CmdChar b)
    {k : Nat}
    (hk : k < tail.length)
    {b : UInt8}
    (hChar : CmdChar b)
    (hNe : b ≠ tail[k])
    (rest : List UInt8) :
    checkParity
        (some (byte '$' :: tail.set k b ++
          byte '*' ::
            (parityTail (Xor.checksum tail) ++ rest))) =
      some false := by
  have hSet : ∀ c ∈ tail.set k b, CmdChar c := by
    intro c hc
    rcases List.mem_or_eq_of_mem_set hc with hOld | rfl
    · exact hChars c hOld
    · exact hChar
  have hTail : tail.set k b ≠ [] := by
    intro hNil
    have hLength := congrArg List.length hNil
    rw [List.length_set, List.length_nil] at hLength
    omega
  rw [checkParity_of_cmdChars hTail hSet, Option.some.injEq,
    decide_eq_false_iff_not]
  intro hDigits
  exact Xor.checksum_set_ne hk hNe
    (digitsOf_inj hDigits (digitsOf_parityTail _ rest))

theorem cmdSend_nmea_agrees
    {str : List UInt8}
    (hCommand : NmeaCommand str) :
    ∃ s, cmdSend str .nmea = some s ∧ NmeaAgrees str s := by
  rcases hCommand.exists_parts with
    ⟨tail, rest, rfl, hText, hTail, hChars⟩
  have hMost := hCommand.most
  have hBuffer := hCommand.buffer
  rw [hText] at hMost
  simp only [List.length_append, List.length_cons,
    cmdBufferLength] at hMost hBuffer
  have hSend :
      cmdSend (byte '$' :: tail ++ 0 :: rest) .nmea = _ :=
    cmdSend_nmea hTail hChars (by omega) (by omega)
  refine ⟨_, hSend, ?_⟩
  have hSent : text (completed tail ++ 0 :: rest.drop 5) =
      completed tail :=
    text_append_nul (nul_notMem_completed hChars) _
  have hShape : completed tail ++ 0 :: rest.drop 5 =
      byte '$' :: tail ++ byte '*' ::
        (parityTail (Xor.checksum tail) ++
          0 :: rest.drop 5) := by
    simp [completed]
  have hLength := length_completed tail
  constructor
  · simp only [List.length_append, List.length_cons,
      List.length_drop, cmdBufferLength]
    omega
  · show (text (completed tail ++ 0 :: rest.drop 5)).length <
      cmdBufferLength
    rw [hSent, cmdBufferLength]
    omega
  · rw [hText]
    exact (strstr_singleton_eq_some_iff (by decide)).mpr
      ⟨byte '$' :: tail, _, hShape,
        star_notMem_cmdChars hChars,
        nul_notMem_cmdChars hChars, by simp⟩
  · exact hSent.symm
  · show checkParity
      (some (completed tail ++ 0 :: rest.drop 5)) = some true
    rw [hShape, checkParity_of_cmdChars hTail hChars,
      decide_eq_true (digitsOf_parityTail _ _)]
  · intro k b hFrom hk hChar hNe
    rw [hText, List.length_cons] at hk
    have hBefore : k - 1 < tail.length := by omega
    have hIndex : k = k - 1 + 1 := by omega
    simp only [hShape] at hNe ⊢
    rw [hIndex] at hNe ⊢
    have hOld : b ≠ tail[k - 1] := by
      rw [List.cons_append, List.getD_cons_succ,
        List.getD_append _ _ _ _ hBefore,
        List.getD_eq_getElem _ _ hBefore] at hNe
      exact hNe
    rw [List.cons_append, List.set_cons_succ,
      List.set_append_left _ _ hBefore, ← List.cons_append]
    exact checkParity_set hChars hBefore hChar hOld _

end Gps

------------------------------------------------------------
-- Binary Commands
------------------------------------------------------------

namespace Gps

/- A parity loop over indices, from one on. -/
theorem foldl_range'_getD
    (data : List UInt8)
    (start n : Nat)
    (result : UInt8) :
    (List.range' start n).foldl
        (fun result i => result ^^^ data.getD i 0) result =
      result ^^^ Xor.checksum ((data.drop start).take n) := by
  induction n generalizing start result with
  | zero => simp [Xor.checksum]
  | succ n ih =>
      rw [List.range'_succ, List.foldl_cons, ih]
      by_cases hInside : start < data.length
      · rw [List.drop_eq_getElem_cons hInside,
          List.take_succ_cons, Xor.checksum_cons,
          ← UInt8.xor_assoc, List.getD_eq_getElem _ _ hInside]
      · have hBehind : data.drop start = [] :=
          List.drop_of_length_le (by omega)
        have hNext : data.drop (start + 1) = [] :=
          List.drop_of_length_le (by omega)
        have hZero : data.getD start 0 = 0 :=
          List.getD_eq_default _ _ (by omega)
        rw [hBehind, hNext, hZero, UInt8.xor_zero,
          List.take_nil, List.take_nil]

/- The parity of a binary message, from its length on. -/
def binaryParity
    (data : List UInt8)
    (len : Nat) : UInt8 :=
  Xor.checksum ((data.drop 2).take (len - 2))

theorem parityLoop_eq_binaryParity
    {data : List UInt8}
    {len : Nat}
    (hLeast : 3 ≤ len)
    (hFits : 3 ≤ data.length) :
    (List.range' 3 (len - 3)).foldl
        (fun result i => result ^^^ data.getD i 0)
        (data.getD 2 0) =
      binaryParity data len := by
  have hCount : len - 2 = len - 3 + 1 := by omega
  rw [foldl_range'_getD, binaryParity,
    List.drop_eq_getElem_cons (show 2 < data.length by omega),
    hCount, List.take_succ_cons, Xor.checksum_cons,
    List.getD_eq_getElem _ _ (show 2 < data.length by omega)]

/- A message passes when all its bytes cancel. -/
theorem checkParityBinary_iff
    {data : List UInt8}
    {len : Nat}
    (hLen : u16 (word data 2 - 3) = len)
    (hLeast : 3 ≤ len)
    (hFits : len < data.length) :
    checkParityBinary data = true ↔
      Xor.checksum ((data.drop 2).take (len - 1)) = 0 := by
  have hInside : len - 2 < (data.drop 2).length := by
    rw [List.length_drop]
    omega
  have hCount : len - 1 = len - 2 + 1 := by omega
  have hLast : (data.drop 2)[len - 2] = data[len] := by
    rw [List.getElem_drop]
    congr 1
    omega
  simp only [checkParityBinary, hLen]
  rw [parityLoop_eq_binaryParity hLeast (by omega), beq_iff_eq,
    hCount, List.take_add_one, List.getElem?_eq_getElem hInside,
    Xor.checksum_append, hLast,
    List.getD_eq_getElem _ _ hFits]
  simp [binaryParity, Xor.checksum]

/-
  A binary message in the memory of a caller, with room for
  all bytes that its length field speaks of.
-/
structure BinaryCommand (str : List UInt8) : Prop where
  least : 7 ≤ word str 2
  buffer : word str 2 ≤ str.length

/-
  As many bytes are sent as the length field says, "\r\n"
  last. They are accepted, and rejected with another byte
  behind the length field, up to the parity.
-/
structure BinaryAgrees
    (str : List UInt8)
    (s : CmdSent) : Prop where
  length : s.sent.length = word str 2
  ends : s.sent.drop (word str 2 - 2) = crlf
  accepted : checkParityBinary s.sent = true
  rejected : ∀ k b,
    4 ≤ k → k ≤ word str 2 - 3 →
    b ≠ s.sent.getD k 0 →
    checkParityBinary (s.sent.set k b) = false

theorem word_lt
    (data : List UInt8)
    (i : Nat) :
    word data i < 65536 := by
  have hLow := (data.getD i 0).toNat_lt
  have hHigh := (data.getD (i + 1) 0).toNat_lt
  unfold word
  omega

/- `GPS_CMDSend` of a binary message. -/
theorem cmdSend_binary
    {str : List UInt8}
    (hCommand : BinaryCommand str) :
    ∃ memory,
      cmdSend str .binary =
        some
          { str := memory
            sent := str.take (word str 2 - 3) ++
              binaryParity str (word str 2 - 3) :: crlf
            cleared := false } := by
  have hLeast := hCommand.least
  have hBuffer := hCommand.buffer
  have hWidth := word_lt str 2
  have hLen : u16 (word str 2 - 3) = word str 2 - 3 := by
    unfold u16 wrap
    omega
  have hStore := storeBytes_eq
    (show word str 2 - 3 + [binaryParity str (word str 2 - 3),
      0x0d, 0x0a].length ≤ str.length by
        simp only [List.length_cons, List.length_nil]
        omega)
  have hWhole : u16 (word str 2 - 3 + 3 : Nat) =
      word str 2 - 3 + 3 :=
    wrap_natCast_of_lt (by omega)
  have hSent (rest : List UInt8) :
      gpsSend (str.take (word str 2 - 3) ++
        [binaryParity str (word str 2 - 3), 0x0d, 0x0a] ++ rest)
          (word str 2 - 3 + 3) =
        str.take (word str 2 - 3) ++
          binaryParity str (word str 2 - 3) :: crlf := by
    rw [gpsSend, hWhole, List.take_left' (by simp; omega)]
    rfl
  simp only [cmdSend, hLen]
  rw [parityLoop_eq_binaryParity (by omega) (by omega), hStore,
    Option.bind_eq_bind, Option.bind_some, hSent]
  exact ⟨_, rfl⟩

/- The message that is sent, with its length field. -/
theorem word_binary_sent
    {str rest : List UInt8}
    {len : Nat}
    (hLeast : 4 ≤ len)
    (hFits : len ≤ str.length) :
    word (str.take len ++ rest) 2 = word str 2 := by
  have hInside : (str.take len).length = len := by
    rw [List.length_take]
    omega
  unfold word
  rw [List.getD_append _ _ _ _ (by omega),
    List.getD_append _ _ _ _ (by omega),
    List.getD_eq_getElem _ _ (by omega),
    List.getD_eq_getElem _ _ (by omega),
    List.getElem_take, List.getElem_take,
    List.getD_eq_getElem _ _ (by omega),
    List.getD_eq_getElem _ _ (by omega)]

/- A change behind the length field leaves the field. -/
theorem word_set
    (data : List UInt8)
    {k : Nat}
    (hFrom : 4 ≤ k)
    (b : UInt8) :
    word (data.set k b) 2 = word data 2 := by
  unfold word
  rw [List.getD_eq_getElem?_getD, List.getD_eq_getElem?_getD,
    List.getElem?_set_ne (by omega),
    List.getElem?_set_ne (by omega),
    ← List.getD_eq_getElem?_getD, ← List.getD_eq_getElem?_getD]

/- The bytes of a message cancel with their parity. -/
theorem checksum_binary_sent
    {str rest : List UInt8}
    {len : Nat}
    (hLeast : 4 ≤ len)
    (hFits : len ≤ str.length) :
    Xor.checksum (((str.take len ++
      binaryParity str len :: rest).drop 2).take (len - 1)) =
        0 := by
  have hDrop : 2 ≤ (str.take len).length := by
    rw [List.length_take]
    omega
  have hTake : ((str.drop 2).take (len - 2) ++
      binaryParity str len :: rest).take (len - 1) =
        (str.drop 2).take (len - 2) ++
          [binaryParity str len] := by
    have hLength :
        ((str.drop 2).take (len - 2)).length = len - 2 := by
      rw [List.length_take, List.length_drop]
      omega
    rw [List.append_cons]
    apply List.take_left'
    rw [List.length_append, hLength, List.length_singleton]
    omega
  rw [List.drop_append_of_le_length hDrop, List.drop_take,
    hTake, Xor.checksum_append]
  simp [binaryParity, Xor.checksum]

/- A message that passes does not with another byte in it. -/
theorem checkParityBinary_set
    {data : List UInt8}
    {len : Nat}
    (hLen : u16 (word data 2 - 3) = len)
    (hFits : len < data.length)
    (hPasses : checkParityBinary data = true)
    {k : Nat}
    (hFrom : 4 ≤ k)
    (hTo : k ≤ len)
    {b : UInt8}
    (hNe : b ≠ data.getD k 0) :
    checkParityBinary (data.set k b) = false := by
  have hCancel := (checkParityBinary_iff hLen
    (by omega) hFits).mp hPasses
  have hSet : u16 (word (data.set k b) 2 - 3) = len := by
    rw [word_set data hFrom, hLen]
  have hk : k - 2 < ((data.drop 2).take (len - 1)).length := by
    rw [List.length_take, List.length_drop]
    omega
  have hOld : b ≠ ((data.drop 2).take (len - 1))[k - 2] := by
    have hIndex : 2 + (k - 2) = k := by omega
    rw [List.getD_eq_getElem _ _ (by omega)] at hNe
    rw [List.getElem_take, List.getElem_drop]
    simp only [hIndex]
    exact hNe
  have hChanged := Xor.checksum_set_ne hk hOld
  rw [hCancel] at hChanged
  rw [← Bool.not_eq_true, checkParityBinary_iff hSet
    (by omega) (by rw [List.length_set]; exact hFits),
    List.drop_set, if_neg (by omega), List.take_set]
  exact hChanged

theorem cmdSend_binary_agrees
    {str : List UInt8}
    (hCommand : BinaryCommand str) :
    ∃ s, cmdSend str .binary = some s ∧
      BinaryAgrees str s := by
  rcases cmdSend_binary hCommand with ⟨memory, hSend⟩
  refine ⟨_, hSend, ?_⟩
  have hLeast := hCommand.least
  have hBuffer := hCommand.buffer
  have hWidth := word_lt str 2
  have hField := @word_binary_sent str
    (binaryParity str (word str 2 - 3) :: crlf)
    (word str 2 - 3) (by omega) (by omega)
  have hCancel := @checksum_binary_sent str crlf
    (word str 2 - 3) (by omega) (by omega)
  have hInside : (str.take (word str 2 - 3)).length =
      word str 2 - 3 := by
    rw [List.length_take]
    omega
  have hEnds : (str.take (word str 2 - 3) ++
      binaryParity str (word str 2 - 3) :: crlf).drop
        (word str 2 - 2) = crlf := by
    rw [List.append_cons]
    apply List.drop_left'
    rw [List.length_append, hInside, List.length_singleton]
    omega
  have hLength : (str.take (word str 2 - 3) ++
      binaryParity str (word str 2 - 3) :: crlf).length =
        word str 2 := by
    rw [List.length_append, hInside, List.length_cons,
      length_crlf]
    omega
  generalize str.take (word str 2 - 3) ++
    binaryParity str (word str 2 - 3) :: crlf = sent at *
  have hLen : u16 (word sent 2 - 3) = word str 2 - 3 := by
    rw [hField]
    unfold u16 wrap
    omega
  have hPasses : checkParityBinary sent = true :=
    (checkParityBinary_iff hLen (by omega) (by omega)).mpr
      hCancel
  exact
    { length := hLength
      ends := hEnds
      accepted := hPasses
      rejected := fun k b hFrom hTo hNe =>
        checkParityBinary_set hLen (by omega) hPasses hFrom
          hTo hNe }

end Gps

------------------------------------------------------------
-- Both Formats
------------------------------------------------------------

namespace Gps

/- What is passed to `GPS_CMDSend` in a format. -/
def IsCommand
    (str : List UInt8) : Format → Prop
| .nmea => NmeaCommand str
| .binary => BinaryCommand str

/- The check of a format agrees with what was sent. -/
def Agrees
    (str : List UInt8)
    (s : CmdSent) : Format → Prop
| .nmea => NmeaAgrees str s
| .binary => BinaryAgrees str s

/- The sender and the checker agree in both formats. -/
theorem cmdSend_agrees
    {str : List UInt8}
    {format : Format}
    (hCommand : IsCommand str format) :
    ∃ s, cmdSend str format = some s ∧ Agrees str s format := by
  cases format with
  | nmea => exact cmdSend_nmea_agrees hCommand
  | binary => exact cmdSend_binary_agrees hCommand

/- A command in a buffer of a caller, with zeros behind it. -/
def inBuffer (command : List UInt8) : List UInt8 :=
  command ++
    List.replicate (cmdBufferLength - command.length) 0

/- A reboot, and the message that leaves the binary mode. -/
theorem cmdSend_agrees_reboot_nmea_mode :
    let reboot := inBuffer (ascii "$PGKC030,1,1")
    let nmeaMode := inBuffer
      [0xaa, 0xf0, 0x0e, 0, 0x95, 0, 0, 0x80, 0x25, 0, 0]
    (∃ s, cmdSend reboot .nmea = some s ∧
        NmeaAgrees reboot s) ∧
      ∃ s, cmdSend nmeaMode .binary = some s ∧
        BinaryAgrees nmeaMode s := by
  intro reboot nmeaMode
  have hReboot : IsCommand reboot .nmea :=
    { buffer := by decide +kernel
      dollar := by decide +kernel
      least := by decide +kernel
      most := by decide +kernel
      chars := by decide +kernel }
  have hNmeaMode : IsCommand nmeaMode .binary :=
    { least := by decide +kernel
      buffer := by decide +kernel }
  exact ⟨cmdSend_agrees hReboot, cmdSend_agrees hNmeaMode⟩

end Gps
