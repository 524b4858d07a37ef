import GpsTracker.Gps.AckSound

/-
  The decision on an ack, with every read of the ack checked.

  `GPS_Update` hands over a block of as many bytes as the
  ack has, without a NUL behind it. Here the functions read
  from the block alone: there is no result when a byte
  outside of it is read. A search reads up to what it finds,
  or up to the NUL that ends the string. What is read from
  `Hex_Str` outside of the array may be any byte.

  Main declarations:
    * `Gps.strstrIn`, `Gps.checkParityIn`
    * `Gps.waitedAckIn`, `Gps.sendWaiteNormalAckIn`
    * `Gps.sendWaiteNormalAck_of_read`
-/

open CString Machine ListSearch

------------------------------------------------------------
-- Checked Reads
------------------------------------------------------------

namespace Gps

/- `strstr` from an index of a block on. -/
def strstrIn
    (block : List UInt8)
    (start : Nat)
    (pattern : List UInt8) : Option (Option Nat) :=
  match strstr block start pattern with
  | some index => some (some index)
  | none =>
      if 0 ∈ block.drop start then
        some none
      else
        none

/- A 16-bit little-endian field. -/
def wordIn
    (data : List UInt8)
    (i : Nat) : Option Nat := do
  let low ← data[i]?
  let high ← data[i + 1]?
  some (low.toNat + 256 * high.toNat)

/- `Hex_Str[i]`, with what stands around the array. -/
def hexStrIn
    (around : Int → UInt8)
    (i : Int) : UInt8 :=
  (hexStr i).getD (around i)

/- `hex == c`, of an `unsigned char` and a `char`. -/
def sameHex (hex c : UInt8) : Bool :=
  (hex.toNat : Int) = i8 c

/- `GPS_CheckParity` -/
def checkParityIn
    (around : Int → UInt8) :
    Option (List UInt8) → Option Bool
| none => some false
| some str => do
    match ← strstrIn str 0 (ascii "*") with
    | none => some false
    | some _ =>
        let first ← str[1]?
        let (result, str) ← parityLoop (str.drop 2) first
        let high ← str[0]?
        if sameHex (hexStrIn around (i8 result / 16)) high then
          let low ← str[1]?
          some (sameHex
            (hexStrIn around (result.toNat % 16 : Nat)) low)
        else
          some false

/- `GPS_CheckParityBinary` -/
def checkParityBinaryIn
    (data : List UInt8) : Option Bool := do
  let start ← data[2]?
  let len := u16 ((← wordIn data 2) - 3)
  let result ← (List.range' 3 (len - 3)).foldlM
    (fun result i => (data[i]?).map (result ^^^ ·)) start
  let parity ← data[len]?
  some (result == parity)

/- The comparison with the binary header. -/
def isBinaryIn (data : List UInt8) : Option Bool := do
  let first ← data[0]?
  if first = 0xaa then
    let second ← data[1]?
    some (second == 0xf0)
  else
    some false

/- `GPS_GetAckCmd` -/
def getAckCmdIn (str : List UInt8) : Option Cmd := do
  match ← strstrIn str 0 cmdHeader with
  | none => some .fail
  | some index =>
      let hundreds ← str[index + 5]?
      let tens ← str[index + 6]?
      let ones ← str[index + 7]?
      let ackCmd0 := u16 (digit hundreds * 100 +
        digit tens * 10 + digit ones)
      some (if isCmdValid ackCmd0 then
        Cmd.ofCode ackCmd0
      else
        .fail)

/- `GPS_GetAckCmdBinary` -/
def getAckCmdBinaryIn (data : List UInt8) : Option Cmd := do
  if ← isBinaryIn data then
    let ackCmd0 ← wordIn data 4
    some (if isCmdValid ackCmd0 then
      Cmd.ofCode ackCmd0
    else
      .fail)
  else
    some .fail

/- The command and the result that `GPS_AckCheck` reads. -/
def ackFieldsIn
    (ackStr : List UInt8) :
    Option (Option (Nat × UInt8)) := do
  if ← isBinaryIn ackStr then
    let ackCmd ← wordIn ackStr 6
    let result ← ackStr[8]?
    some (some (ackCmd, result))
  else
    match ← strstrIn ackStr 0 cmdHeader with
    | none => some none
    | some index =>
        match ← strstrIn ackStr (index + cmdHeader.length)
            (ascii ",") with
        | none => some none
        | some index =>
            match ← strstrIn ackStr (index + 1)
                (ascii ",") with
            | none => some none
            | some index2 =>
                let field := (ackStr.drop (index + 1)).take
                  (index2 - (index + 1))
                let result ← ackStr[index2 + 1]?
                some (some (accumulate field 0, result - 48))

/- `GPS_AckCheck` behind its reads. -/
def ackResult
    (cmdSend : Cmd) :
    Option (Nat × UInt8) → CmdAck
| none => .fail
| some (ackCmd, result) =>
    if ¬ isCmdValid ackCmd then
      .fail
    else if ackCmd ≠ cmdSend.code then
      .fail
    else if ¬ isCmdAckValid result.toNat then
      .fail
    else
      CmdAck.ofCode result.toNat

/- `GPS_AckCheck` -/
def ackCheckIn
    (ackStr : List UInt8)
    (cmdSend : Cmd) : Option CmdAck := do
  let fields ← ackFieldsIn ackStr
  some (ackResult cmdSend fields)

/- The end of `GPS_SendCMDWaitAck`. -/
def waitedAckIn
    (around : Int → UInt8)
    (gpsAckMsg : List UInt8) :
    Option (Cmd × Option (List UInt8)) := do
  if ← isBinaryIn gpsAckMsg then
    if ← checkParityBinaryIn gpsAckMsg then
      let ackCmd ← getAckCmdBinaryIn gpsAckMsg
      some (ackCmd, some gpsAckMsg)
    else
      some (.fail, none)
  else
    let index ← strstrIn gpsAckMsg 0 cmdHeader
    let ack := index.map gpsAckMsg.drop
    if ← checkParityIn around ack then
      match ack with
      | none => some (.fail, none)
      | some ack =>
          let ackCmd ← getAckCmdIn ack
          some (ackCmd, some ack)
    else
      some (.fail, none)

/- The comparison of a pack ack, which stops early. -/
def packAckedIn
    (cmdStr ackStr : List UInt8) : Option Bool := do
  let low ← ackStr[6]?
  if cmdStr.getD 6 0 = low then
    let high ← ackStr[7]?
    if cmdStr.getD 7 0 = high then
      let result ← ackStr[8]?
      some (result == 1)
    else
      some false
  else
    some false

/-
  `GPS_SendWaiteNormalAck` on a block that was handed over.
-/
def sendWaiteNormalAckIn
    (around : Int → UInt8)
    (cmdSend : Cmd)
    (cmdStr gpsAckMsg : List UInt8) : Option Bool := do
  let (ackCmd, ackStr) ← waitedAckIn around gpsAckMsg
  match ackCmd, ackStr with
  | .ackGpd, some ackStr => packAckedIn cmdStr ackStr
  | .ack, some ackStr =>
      let result ← ackCheckIn ackStr cmdSend
      some (result == .execSuccess)
  | _, _ => some false

end Gps

------------------------------------------------------------
-- What Is Read Decides
------------------------------------------------------------

namespace Gps

variable {block : List UInt8}

theorem getD_append_of_read
    {i : Nat}
    {b : UInt8}
    (hRead : block[i]? = some b)
    (behind : List UInt8) :
    (block ++ behind).getD i 0 = b := by
  rcases List.getElem?_eq_some_iff.mp hRead with ⟨hi, _⟩
  rw [List.getD_eq_getElem?_getD,
    List.getElem?_append_left hi, hRead]
  rfl

/- What stands behind a memory only prolongs its string. -/
theorem exists_text_append
    (memory behind : List UInt8) :
    ∃ more, text (memory ++ behind) = text memory ++ more := by
  by_cases hNul : 0 ∈ memory
  · rcases exists_eq_text_append hNul with ⟨rest, hMemory⟩
    refine ⟨[], ?_⟩
    rw [List.append_nil]
    nth_rewrite 1 [hMemory]
    rw [List.append_assoc, List.cons_append,
      text_append_nul (nul_notMem_text memory)]
  · exact ⟨text behind, by
      rw [text_append hNul, text_of_nul_notMem hNul]⟩

theorem text_append_of_nul
    {memory : List UInt8}
    (hNul : 0 ∈ memory)
    (behind : List UInt8) :
    text (memory ++ behind) = text memory := by
  rcases exists_eq_text_append hNul with ⟨rest, hMemory⟩
  nth_rewrite 1 [hMemory]
  rw [List.append_assoc, List.cons_append,
    text_append_nul (nul_notMem_text memory)]

/- A search that stays in the block finds the same. -/
theorem strstr_append_of_search
    {start : Nat}
    {pattern : List UInt8}
    (hPattern : pattern ≠ [])
    {found : Option Nat}
    (hSearch : strstrIn block start pattern = some found)
    (behind : List UInt8) :
    strstr (block ++ behind) start pattern = found := by
  have hStart : start ≤ block.length := by
    by_contra hOutside
    have hNothing : block.drop start = [] :=
      List.drop_of_length_le (by omega)
    have hNone : find pattern [] = none := by
      cases pattern with
      | nil => exact absurd rfl hPattern
      | cons _ _ => rfl
    simp [strstrIn, strstr, hNothing, text, hNone] at hSearch
  unfold strstrIn strstr at hSearch
  unfold strstr
  rw [List.drop_append_of_le_length hStart]
  cases hFind : find pattern (text (block.drop start)) with
  | some index =>
      rcases exists_text_append (block.drop start) behind with
        ⟨more, hMore⟩
      rw [hMore, find_append_of_some more hPattern hFind]
      rw [hFind] at hSearch
      exact Option.some.inj hSearch
  | none =>
      rw [hFind] at hSearch
      simp only [Option.map_none] at hSearch
      split_ifs at hSearch with hNul
      rw [text_append_of_nul hNul, hFind]
      exact Option.some.inj hSearch

theorem le_of_search
    {start index : Nat}
    {pattern : List UInt8}
    (hPattern : pattern ≠ [])
    (hSearch : strstrIn block start pattern =
      some (some index)) :
    index ≤ block.length := by
  have hFound := strstr_append_of_search hPattern hSearch []
  rw [List.append_nil] at hFound
  rcases Option.map_eq_some_iff.mp hFound with ⟨k, hFind, rfl⟩
  have hInText := find_add_length_le hPattern hFind
  have hPrefix := (text_isPrefix (block.drop start)).length_le
  have hPositive := List.length_pos_iff.mpr hPattern
  rw [List.length_drop] at hPrefix
  omega

theorem word_append_of_read
    {i n : Nat}
    (hRead : wordIn block i = some n)
    (behind : List UInt8) :
    word (block ++ behind) i = n := by
  simp only [wordIn, Option.bind_eq_bind,
    Option.bind_eq_some_iff, Option.some.injEq] at hRead
  rcases hRead with ⟨low, hLow, high, hHigh, rfl⟩
  rw [word, getD_append_of_read hLow,
    getD_append_of_read hHigh]

theorem isBinary_append_of_read
    {binary : Bool}
    (hRead : isBinaryIn block = some binary)
    (behind : List UInt8) :
    isBinary (block ++ behind) = binary := by
  simp only [isBinaryIn, Option.bind_eq_bind,
    Option.bind_eq_some_iff] at hRead
  rcases hRead with ⟨first, hFirst, hRead⟩
  rw [isBinary, getD_append_of_read hFirst]
  split_ifs at hRead with hHeader
  · rcases Option.bind_eq_some_iff.mp hRead with
      ⟨second, hSecond, hBoth⟩
    rw [getD_append_of_read hSecond, hHeader]
    exact Option.some.inj hBoth
  · rw [← Option.some.inj hRead]
    simp [hHeader]

theorem parityLoop_append_behind
    {str rest : List UInt8}
    {result result' : UInt8}
    (hLoop : parityLoop str result = some (result', rest))
    (behind : List UInt8) :
    parityLoop (str ++ behind) result =
      some (result', rest ++ behind) := by
  induction str generalizing result with
  | nil => cases hLoop
  | cons b str ih =>
      rw [parityLoop] at hLoop
      rw [List.cons_append, parityLoop]
      split_ifs at hLoop ⊢
      · cases hLoop
        rfl
      · exact ih hLoop

/- Against a digit the sign does not matter. -/
theorem sameHex_of_mem
    {hex : UInt8}
    (hDigit : hex ∈ hexDigits)
    (c : UInt8) :
    sameHex hex c = (hex == c) := by
  have hSmall : ∀ hex ∈ hexDigits, hex.toNat < 128 := by
    decide +kernel
  have hHex := hSmall hex hDigit
  have hChar := c.toNat_lt
  rw [Bool.eq_iff_iff, beq_iff_eq, ← UInt8.toNat_inj, sameHex,
    decide_eq_true_iff]
  by_cases hSign : c.toNat < 128
  · rw [i8_of_lt hSign]
    omega
  · rw [i8_of_le (Nat.le_of_not_lt hSign)]
    omega

/- A check that stays in the block and in `Hex_Str`. -/
theorem checkParity_of_read
    {around : Int → UInt8}
    {passed : Bool}
    (hRead : checkParityIn around (some block) = some passed)
    (behind : List UInt8)
    {result : Bool}
    (hCheck : checkParity (some (block ++ behind)) =
      some result) :
    result = passed := by
  simp only [checkParityIn, Option.bind_eq_bind,
    Option.bind_eq_some_iff] at hRead
  rcases hRead with ⟨star, hSearch, hRead⟩
  have hStar := strstr_append_of_search (by decide) hSearch
    behind
  cases star with
  | none =>
      simp only [checkParity, hStar] at hCheck
      rw [← Option.some.inj hCheck, ← Option.some.inj hRead]
  | some p =>
      simp only [Option.bind_eq_some_iff] at hRead
      rcases hRead with
        ⟨first, hFirst, ⟨parity, digits⟩, hLoop, high, hHigh,
          hRead⟩
      have hTwo : 2 ≤ block.length := by
        have hOne := (List.getElem?_eq_some_iff.mp hFirst).1
        omega
      have hWhole := parityLoop_append_behind hLoop behind
      rw [← List.drop_append_of_le_length hTwo] at hWhole
      simp only [checkParity, hStar, hWhole,
        getD_append_of_read hFirst, getD_append_of_read hHigh,
        Option.bind_eq_bind, Option.bind_some,
        Option.bind_eq_some_iff, Option.some.injEq] at hCheck
      rcases hCheck with
        ⟨first', hFirst', second', hSecond', rfl⟩
      simp only [hexStrIn, hFirst', hSecond',
        Option.getD_some, beq_iff_eq,
        sameHex_of_mem (mem_hexDigits_of_hexStr hFirst'),
        sameHex_of_mem (mem_hexDigits_of_hexStr hSecond')]
        at hRead
      split_ifs at hRead with hSame
      · rcases Option.bind_eq_some_iff.mp hRead with
          ⟨low, hLow, hBoth⟩
        rw [getD_append_of_read hLow, hSame, beq_self_eq_true,
          Bool.true_and]
        exact Option.some.inj hBoth
      · rw [← Option.some.inj hRead]
        simp [hSame]

theorem foldlM_read
    {start n : Nat}
    {result parity : UInt8}
    (hRead : (List.range' start n).foldlM
      (fun result i => (block[i]?).map (result ^^^ ·)) result =
        some parity)
    (behind : List UInt8) :
    (List.range' start n).foldl
      (fun result i => result ^^^ (block ++ behind).getD i 0)
      result = parity := by
  induction n generalizing start result with
  | zero => exact Option.some.inj hRead
  | succ n ih =>
      rw [List.range'_succ, List.foldlM_cons,
        Option.bind_eq_bind, Option.bind_eq_some_iff] at hRead
      rcases hRead with ⟨next, hNext, hRead⟩
      rcases Option.map_eq_some_iff.mp hNext with
        ⟨b, hByte, rfl⟩
      rw [List.range'_succ, List.foldl_cons,
        getD_append_of_read hByte]
      exact ih hRead

theorem checkParityBinary_of_read
    {passed : Bool}
    (hRead : checkParityBinaryIn block = some passed)
    (behind : List UInt8) :
    checkParityBinary (block ++ behind) = passed := by
  simp only [checkParityBinaryIn, Option.bind_eq_bind,
    Option.bind_eq_some_iff, Option.some.injEq] at hRead
  rcases hRead with
    ⟨start, hStart, n, hWord, result, hLoop, parity, hParity,
      rfl⟩
  simp only [checkParityBinary,
    word_append_of_read hWord, getD_append_of_read hStart,
    foldlM_read hLoop, getD_append_of_read hParity]

theorem getAckCmd_of_read
    {cmd : Cmd}
    (hRead : getAckCmdIn block = some cmd)
    (behind : List UInt8) :
    getAckCmd (block ++ behind) = cmd := by
  simp only [getAckCmdIn, Option.bind_eq_bind,
    Option.bind_eq_some_iff] at hRead
  rcases hRead with ⟨found, hSearch, hRead⟩
  have hHeader := strstr_append_of_search (by decide) hSearch
    behind
  cases found with
  | none =>
      simp only [getAckCmd, hHeader]
      exact Option.some.inj hRead
  | some index =>
      simp only [Option.bind_eq_some_iff] at hRead
      rcases hRead with
        ⟨hundreds, hHundreds, tens, hTens, ones, hOnes, hRead⟩
      simp only [getAckCmd, hHeader,
        getD_append_of_read hHundreds,
        getD_append_of_read hTens, getD_append_of_read hOnes]
      exact Option.some.inj hRead

theorem getAckCmdBinary_of_read
    {cmd : Cmd}
    (hRead : getAckCmdBinaryIn block = some cmd)
    (behind : List UInt8) :
    getAckCmdBinary (block ++ behind) = cmd := by
  simp only [getAckCmdBinaryIn, Option.bind_eq_bind,
    Option.bind_eq_some_iff] at hRead
  rcases hRead with ⟨binary, hBinary, hRead⟩
  rw [getAckCmdBinary, isBinary_append_of_read hBinary]
  cases binary with
  | false => exact Option.some.inj hRead
  | true =>
      rcases Option.bind_eq_some_iff.mp hRead with
        ⟨ackCmd0, hWord, hCmd⟩
      rw [word_append_of_read hWord]
      exact Option.some.inj hCmd

theorem ackCheck_eq_ackResult
    (ackStr : List UInt8)
    (cmdSend : Cmd) :
    ackCheck ackStr cmdSend =
      ackResult cmdSend (ackFields ackStr) := by
  unfold ackCheck ackResult
  rfl

/- The fields behind the first comma. -/
theorem ackFields_of_second
    {index : Nat}
    {fields : Option (Nat × UInt8)}
    (hRead : (do
      match ← strstrIn block (index + 1) (ascii ",") with
      | none => some none
      | some index2 =>
          let field := (block.drop (index + 1)).take
            (index2 - (index + 1))
          let result ← block[index2 + 1]?
          some (some (accumulate field 0, result - 48))) =
      some fields)
    (behind : List UInt8) :
    (do
      let index2 ←
        strstr (block ++ behind) (index + 1) (ascii ",")
      let field := ((block ++ behind).drop (index + 1)).take
        (index2 - (index + 1))
      some (accumulate field 0,
        (block ++ behind).getD (index2 + 1) 0 - 48)) =
      fields := by
  rcases Option.bind_eq_some_iff.mp hRead with
    ⟨found, hSearch, hRead⟩
  have hSecond := strstr_append_of_search (by decide) hSearch
    behind
  rw [hSecond]
  cases found with
  | none => exact Option.some.inj hRead
  | some index2 =>
      rcases Option.bind_eq_some_iff.mp hRead with
        ⟨result, hResult, hRead⟩
      have hInside := (List.getElem?_eq_some_iff.mp hResult).1
      have hField : ((block ++ behind).drop (index + 1)).take
          (index2 - (index + 1)) =
            (block.drop (index + 1)).take
              (index2 - (index + 1)) := by
        by_cases hStart : index + 1 ≤ block.length
        · rw [List.drop_append_of_le_length hStart,
            List.take_append_of_le_length
              (by rw [List.length_drop]; omega)]
        · have hNothing : index2 - (index + 1) = 0 := by
            omega
          rw [hNothing, List.take_zero, List.take_zero]
      simp only [Option.bind_eq_bind, Option.bind_some, hField,
        getD_append_of_read hResult]
      exact Option.some.inj hRead

theorem ackFields_of_read
    {fields : Option (Nat × UInt8)}
    (hRead : ackFieldsIn block = some fields)
    (behind : List UInt8) :
    ackFields (block ++ behind) = fields := by
  simp only [ackFieldsIn, Option.bind_eq_bind,
    Option.bind_eq_some_iff] at hRead
  rcases hRead with ⟨binary, hBinary, hRead⟩
  rw [ackFields, isBinary_append_of_read hBinary]
  cases binary with
  | true =>
      simp only [if_true, Option.bind_eq_some_iff] at hRead
      rcases hRead with ⟨ackCmd, hWord, result, hResult, hRead⟩
      rw [if_pos rfl, word_append_of_read hWord,
        getD_append_of_read hResult]
      exact Option.some.inj hRead
  | false =>
      simp only [Bool.false_eq_true, if_false,
        Option.bind_eq_some_iff] at hRead
      rcases hRead with ⟨found, hSearch, hRead⟩
      have hHeader := strstr_append_of_search (by decide)
        hSearch behind
      rw [if_neg Bool.false_ne_true, hHeader]
      cases found with
      | none => exact Option.some.inj hRead
      | some index =>
          rcases Option.bind_eq_some_iff.mp hRead with
            ⟨found, hSearch, hRead⟩
          have hFirst := strstr_append_of_search (by decide)
            hSearch behind
          simp only [Option.bind_eq_bind, Option.bind_some,
            hFirst]
          cases found with
          | none => exact Option.some.inj hRead
          | some index =>
              exact ackFields_of_second hRead behind

/- The checked functions agree where `GPS_AckCheck` ends. -/
theorem ackCheck_of_read
    {cmdSend : Cmd}
    {result : CmdAck}
    (hRead : ackCheckIn block cmdSend = some result)
    (behind : List UInt8) :
    ackCheck (block ++ behind) cmdSend = result := by
  rcases Option.bind_eq_some_iff.mp hRead with
    ⟨fields, hFields, hResult⟩
  rw [ackCheck_eq_ackResult, ackFields_of_read hFields]
  exact Option.some.inj hResult

theorem packAcked_of_read
    {cmdStr : List UInt8}
    {result : Bool}
    (hRead : packAckedIn cmdStr block = some result)
    (behind : List UInt8) :
    packAcked cmdStr (block ++ behind) = result := by
  rcases Option.bind_eq_some_iff.mp hRead with
    ⟨low, hLow, hRead⟩
  rw [packAcked, getD_append_of_read hLow]
  split_ifs at hRead with hSame
  · rcases Option.bind_eq_some_iff.mp hRead with
      ⟨high, hHigh, hRead⟩
    rw [getD_append_of_read hHigh, hSame]
    split_ifs at hRead with hSame'
    · rcases Option.bind_eq_some_iff.mp hRead with
        ⟨last, hLast, hRead⟩
      rw [getD_append_of_read hLast, hSame']
      simpa using hRead
    · rw [beq_eq_false_iff_ne.mpr hSame', Bool.and_false,
        Bool.false_and]
      exact Option.some.inj hRead
  · rw [beq_eq_false_iff_ne.mpr hSame, Bool.false_and,
      Bool.false_and]
    exact Option.some.inj hRead

/- The end of `GPS_SendCMDWaitAck`, without its memory. -/
theorem waitedAck_of_read
    {around : Int → UInt8}
    {ackCmd : Cmd}
    {ackStr : Option (List UInt8)}
    (hRead : waitedAckIn around block = some (ackCmd, ackStr))
    (behind : List UInt8)
    {result : Cmd × Option (List UInt8)}
    (hWaited : waitedAck (block ++ behind) = some result) :
    result = (ackCmd, ackStr.map (· ++ behind)) := by
  simp only [waitedAckIn, Option.bind_eq_bind,
    Option.bind_eq_some_iff] at hRead
  rcases hRead with ⟨binary, hBinary, hRead⟩
  rw [waitedAck, isBinary_append_of_read hBinary] at hWaited
  cases binary with
  | true =>
      simp only [if_true, Option.bind_eq_some_iff] at hRead
      rcases hRead with ⟨passed, hPassed, hRead⟩
      rw [if_pos rfl, checkParityBinary_of_read hPassed]
        at hWaited
      cases passed with
      | true =>
          rcases Option.bind_eq_some_iff.mp hRead with
            ⟨cmd, hCmd, hRead⟩
          rw [getAckCmdBinary_of_read hCmd] at hWaited
          cases hRead
          exact (Option.some.inj hWaited).symm
      | false =>
          cases hRead
          exact (Option.some.inj hWaited).symm
  | false =>
      simp only [Bool.false_eq_true, if_false,
        Option.bind_eq_some_iff] at hRead hWaited
      rcases hRead with ⟨found, hSearch, passed, hPassed, hRead⟩
      have hHeader := strstr_append_of_search (by decide)
        hSearch behind
      rw [hHeader] at hWaited
      cases found with
      | none =>
          cases hPassed
          cases hRead
          exact (Option.some.inj hWaited).symm
      | some index =>
          have hFits := le_of_search (by decide) hSearch
          simp only [Option.map_some,
            List.drop_append_of_le_length hFits]
            at hWaited hPassed hRead
          cases hCheck : checkParity
              (some (block.drop index ++ behind)) with
          | none =>
              rw [hCheck] at hWaited
              cases hWaited
          | some checked =>
              have hSame := checkParity_of_read hPassed behind
                hCheck
              subst hSame
              rw [hCheck] at hWaited
              cases checked with
              | false =>
                  cases hRead
                  exact (Option.some.inj hWaited).symm
              | true =>
                  rcases Option.bind_eq_some_iff.mp hRead with
                    ⟨cmd, hCmd, hRead⟩
                  simp only [getAckCmd_of_read hCmd]
                    at hWaited
                  cases hRead
                  exact (Option.some.inj hWaited).symm

/-
  What `GPS_SendWaiteNormalAck` decides inside the block is
  what it decides with anything behind the block.
-/
theorem sendWaiteNormalAck_of_read
    {around : Int → UInt8}
    {cmdSend : Cmd}
    {cmdStr : List UInt8}
    {decided : Bool}
    (hRead : sendWaiteNormalAckIn around cmdSend cmdStr block =
      some decided)
    (behind : List UInt8)
    {result : Bool}
    (hResult : sendWaiteNormalAck cmdSend cmdStr
      (block ++ behind) = some result) :
    result = decided := by
  rcases Option.bind_eq_some_iff.mp hRead with
    ⟨⟨ackCmd, ackStr⟩, hWaited, hRead⟩
  rcases Option.map_eq_some_iff.mp hResult with
    ⟨waited, hWaited', hResult⟩
  have hSame := waitedAck_of_read hWaited behind hWaited'
  subst hSame
  cases ackStr with
  | none =>
      cases ackCmd <;>
        exact hResult.symm.trans (Option.some.inj hRead)
  | some ackStr =>
      cases ackCmd with
      | ackGpd =>
          rw [← hResult]
          exact packAcked_of_read hRead behind
      | ack =>
          rcases Option.bind_eq_some_iff.mp hRead with
            ⟨checked, hChecked, hRead⟩
          rw [← hResult]
          simp only [Option.map_some,
            ackCheck_of_read hChecked]
          exact Option.some.inj hRead
      | _ => exact hResult.symm.trans (Option.some.inj hRead)

end Gps
