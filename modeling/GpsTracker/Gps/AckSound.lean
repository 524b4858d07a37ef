import GpsTracker.Gps.Ack
import GpsTracker.Gps.Parity

/-
  Which acks are taken for success.

  Of an ack with the right parity, `GPS_SendWaiteNormalAck`
  reads numbers: three characters as digits, a field modulo
  2^16, one character of the result. The ack of a pack is
  compared with the bytes of whatever command was sent. The
  reading is sound exactly for acks that are read plainly.

  Main declarations:
    * `Gps.ackNumber`, `Gps.ReadsAs`
    * `Gps.sendWaiteNormalAck_eq_true_iff`
    * `Gps.Genuine`, `Gps.ReadPlainly`
    * `Gps.sendWaiteNormalAck_sound_iff`
-/

open CString Machine ListSearch

------------------------------------------------------------
-- Command Numbers
------------------------------------------------------------

namespace Gps

theorem isCmdValid_code_iff
    (cmd : Cmd) :
    isCmdValid cmd.code = true ↔ cmd ∈ validCmds := by
  cases cmd <;> decide

theorem ofCode_code
    {cmd : Cmd}
    (hValid : cmd ∈ validCmds) :
    Cmd.ofCode cmd.code = cmd := by
  cases cmd <;> first
    | rfl
    | exact absurd hValid (by decide)

/- What a checked command number is cast to. -/
theorem ofCode_eq_iff
    {number : Nat}
    {cmd : Cmd}
    (hValid : cmd ∈ validCmds) :
    (if isCmdValid number then Cmd.ofCode number else .fail) =
        cmd ↔
      number = cmd.code := by
  constructor
  · intro hCast
    have hOfCode : Cmd.ofCode number = cmd := by
      split at hCast
      · exact hCast
      · subst hCast
        exact absurd hValid (by decide)
    unfold Cmd.ofCode at hOfCode
    cases hFind : validCmds.find? fun c => number = c.code with
    | none =>
        rw [hFind] at hOfCode
        subst hOfCode
        exact absurd hValid (by decide)
    | some found =>
        rw [hFind] at hOfCode
        subst hOfCode
        simpa using List.find?_some hFind
  · intro hNumber
    subst hNumber
    rw [if_pos ((isCmdValid_code_iff cmd).mpr hValid),
      ofCode_code hValid]

/- Only the character '3' is read as success. -/
theorem execSuccess_iff
    (result : UInt8) :
    (isCmdAckValid result.toNat = true ∧
        CmdAck.ofCode result.toNat = .execSuccess) ↔
      result = 3 := by
  constructor
  · intro hBoth
    have hOfCode := hBoth.2
    unfold CmdAck.ofCode at hOfCode
    cases hFind :
        validAcks.find? fun a => result.toNat = a.code with
    | none =>
        rw [hFind] at hOfCode
        cases hOfCode
    | some found =>
        rw [hFind] at hOfCode
        have hFound : found = .execSuccess := hOfCode
        have hCode := List.find?_some hFind
        rw [hFound] at hCode
        exact UInt8.toNat_inj.mp (of_decide_eq_true hCode)
  · rintro rfl
    exact ⟨by decide, by decide⟩

theorem ackCheck_eq_execSuccess_iff
    {ackStr : List UInt8}
    {cmdSend : Cmd} :
    ackCheck ackStr cmdSend = .execSuccess ↔
      cmdSend ∈ validCmds ∧
        ackFields ackStr = some (cmdSend.code, 3) := by
  unfold ackCheck
  cases hFields : ackFields ackStr with
  | none => simp
  | some fields =>
      rcases fields with ⟨ackCmd, result⟩
      have hSuccess := execSuccess_iff result
      have hValid := isCmdValid_code_iff cmdSend
      simp only [Option.some.injEq, Prod.mk.injEq]
      by_cases hCmd : ackCmd = cmdSend.code
      · subst hCmd
        rw [← hSuccess, ← hValid]
        split
        · next hNot => simp [hNot]
        · next hIs =>
            rw [if_neg (by simp)]
            split
            · next hNot => simp [hNot]
            · next hAck => simp_all
      · simp only [hCmd, false_and, and_false, iff_false]
        split <;> simp

end Gps

------------------------------------------------------------
-- The Number Fields
------------------------------------------------------------

namespace Gps

/- The decimal numeral of a number. -/
def numeral (n : Nat) : List UInt8 :=
  (Nat.toDigits 10 n).map byte

/- The number that a field stands for, digits or not. -/
def fieldValue (field : List UInt8) : Int :=
  field.foldl (fun value b => value * 10 + digit b) 0

theorem u16_accumulate
    (field : List UInt8)
    (value : Int) :
    accumulate field (u16 value) =
      u16 (field.foldl
        (fun value b => value * 10 + digit b) value) := by
  induction field generalizing value with
  | nil => rfl
  | cons b field ih =>
      have hStep : u16 ((u16 value : Nat) * 10 + digit b) =
          u16 (value * 10 + digit b) := by
        unfold u16 wrap
        omega
      rw [accumulate, hStep, ih, List.foldl_cons]

theorem accumulate_eq
    (field : List UInt8) :
    accumulate field 0 = u16 (fieldValue field) :=
  u16_accumulate field 0

/-
  The command number of the ack itself: the two bytes of a
  binary ack, or three characters as digits.
-/
def ackNumber (ack : List UInt8) : Int :=
  if isBinary ack then
    word ack 4
  else
    digit (ack.getD 5 0) * 100 + digit (ack.getD 6 0) * 10 +
      digit (ack.getD 7 0)

/-
  An NMEA ack whose second field stands for the command,
  modulo 2^16, and whose third field starts with a '3'.
-/
def ReadsAs
    (cmdSend : Cmd)
    (ack : List UInt8) : Prop :=
  ∃ skipped field,
    cmdHeader ++ skipped ++ ascii "," ++ field ++ ascii ",3" <+:
        ack ∧
      byte ',' ∉ skipped ∧ 0 ∉ skipped ∧
      byte ',' ∉ field ∧ 0 ∉ field ∧
      u16 (fieldValue field) = cmdSend.code

/- The header of an ack that `GPS_Update` hands over. -/
def Headed (ack : List UInt8) : Prop :=
  cmdHeader <+: ack ∨ cmdBinaryHeader <+: ack

theorem isBinary_iff
    {ack : List UInt8} :
    isBinary ack = true ↔ cmdBinaryHeader <+: ack := by
  rcases ack with _ | ⟨first, _ | ⟨second, rest⟩⟩
  · decide
  · simp [isBinary, cmdBinaryHeader]
  · simp only [isBinary, cmdBinaryHeader, List.getD_cons_zero,
      List.getD_cons_succ, Bool.and_eq_true, beq_iff_eq,
      List.cons_prefix_cons, List.nil_prefix, and_true]
    exact and_congr eq_comm eq_comm

theorem exists_of_nmea
    {ack : List UInt8}
    (hNmea : cmdHeader <+: ack) :
    isBinary ack = false ∧
      strstr ack 0 cmdHeader = some 0 := by
  rcases hNmea with ⟨rest, rfl⟩
  refine ⟨rfl, ?_⟩
  have hNul : 0 ∉ cmdHeader := by decide
  unfold strstr
  rw [List.drop_zero, text_append hNul, find_self_append]
  rfl

theorem headed_cases
    {ack : List UInt8}
    (hHeaded : Headed ack)
    (hBinary : isBinary ack = false) :
    cmdHeader <+: ack := by
  rcases hHeaded with hNmea | hHeader
  · exact hNmea
  · rw [isBinary_iff.mpr hHeader] at hBinary
    cases hBinary

/- Byte minus '0', both as `uint8_t`, is 3 for a '3' only. -/
theorem sub_eq_three_iff
    (b : UInt8) :
    b - 48 = 3 ↔ b = byte '3' := by
  constructor
  · intro hSub
    have hAdd : b = 3 + 48 := by rw [← hSub]; simp
    rw [hAdd]
    rfl
  · rintro rfl
    rfl

/- The memory behind two parts and a separator. -/
theorem drop_parts
    (header skipped rest : List UInt8)
    (c : UInt8) :
    (header ++ (skipped ++ c :: rest)).drop
        (0 + header.length + skipped.length + 1) = rest := by
  have hParts : header ++ (skipped ++ c :: rest) =
      header ++ skipped ++ [c] ++ rest := by
    simp
  rw [hParts]
  exact List.drop_left' (by simp [Nat.add_assoc])

theorem getD_eq_headD_drop
    (memory : List UInt8)
    (n : Nat) :
    memory.getD n 0 = (memory.drop n).headD 0 := by
  rw [List.getD_eq_getElem?_getD, List.headD_eq_head?_getD,
    List.head?_drop]

theorem headD_eq_iff
    {memory : List UInt8}
    {b : UInt8}
    (hByte : b ≠ 0) :
    memory.headD 0 = b ↔ ∃ behind, memory = b :: behind := by
  cases memory with
  | nil => simpa using hByte.symm
  | cons first memory => simp

/- The fields of an NMEA ack. -/
theorem ackFields_eq_iff
    {ack : List UInt8}
    {cmdSend : Cmd}
    (hNmea : cmdHeader <+: ack) :
    ackFields ack = some (cmdSend.code, 3) ↔
      ReadsAs cmdSend ack := by
  rcases exists_of_nmea hNmea with ⟨hNotBinary, hHeader⟩
  rcases hNmea with ⟨body, rfl⟩
  have hComma : byte ',' ≠ 0 := by decide
  have hThree : byte '3' ≠ 0 := by decide
  have hBody : (cmdHeader ++ body).drop
      (0 + cmdHeader.length) = body := by
    rw [Nat.zero_add, List.drop_left]
  rw [ackFields, hNotBinary, hHeader]
  simp only [Bool.false_eq_true, if_false, Option.bind_eq_bind,
    Option.bind_some, Option.bind_eq_some_iff,
    Option.some.injEq, Prod.mk.injEq, accumulate_eq,
    sub_eq_three_iff, getD_eq_headD_drop, headD_eq_iff hThree]
  constructor
  · intro hFields
    rcases hFields with
      ⟨index, hFirst, index2, hSecond, hValue, behind, hBehind⟩
    rcases (strstr_singleton_eq_some_iff hComma).mp hFirst with
      ⟨skipped, rest, hDrop, hSkipped, hSkippedNul, rfl⟩
    rcases (strstr_singleton_eq_some_iff hComma).mp hSecond with
      ⟨field, rest2, hDrop2, hField, hFieldNul, rfl⟩
    rw [hBody] at hDrop
    subst hDrop
    rw [drop_parts] at hDrop2 hValue
    subst hDrop2
    rw [Nat.add_assoc _ field.length, ← List.drop_drop,
      drop_parts, List.drop_append, List.drop_of_length_le
        (Nat.le_succ _), Nat.add_sub_cancel_left] at hBehind
    have hRest2 : rest2 = byte '3' :: behind := hBehind
    subst hRest2
    rw [Nat.add_sub_cancel_left, List.take_left] at hValue
    refine ⟨skipped, field, ⟨behind, ?_⟩, hSkipped,
      hSkippedNul, hField, hFieldNul, hValue⟩
    simp [ascii]
  · intro hReads
    rcases hReads with
      ⟨skipped, field, ⟨behind, hAck⟩, hSkipped, hSkippedNul,
        hField, hFieldNul, hValue⟩
    have hWhole : cmdHeader ++ body =
        cmdHeader ++ (skipped ++ byte ',' ::
          (field ++ byte ',' :: byte '3' :: behind)) := by
      rw [← hAck]
      simp [ascii]
    have hParts := List.append_cancel_left hWhole
    subst hParts
    have hRest := drop_parts cmdHeader skipped
      (field ++ byte ',' :: byte '3' :: behind) (byte ',')
    have hFirst := (strstr_singleton_eq_some_iff hComma).mpr
      ⟨skipped, _, hBody, hSkipped, hSkippedNul, rfl⟩
    have hSecond := (strstr_singleton_eq_some_iff hComma).mpr
      ⟨field, _, hRest, hField, hFieldNul, rfl⟩
    refine ⟨_, hFirst, _, hSecond, ?_, behind, ?_⟩
    · rw [drop_parts, Nat.add_sub_cancel_left, List.take_left]
      exact hValue
    · rw [Nat.add_assoc _ field.length, ← List.drop_drop,
        drop_parts, List.drop_append, List.drop_of_length_le
          (Nat.le_succ _), Nat.add_sub_cancel_left]
      rfl

end Gps

------------------------------------------------------------
-- What Is Read as Success
------------------------------------------------------------

namespace Gps

variable {cmdSend : Cmd}
variable {cmdStr ack : List UInt8}

/- The parity that stands in the ack is the right one. -/
def ParityCorrect (ack : List UInt8) : Prop :=
  if isBinary ack then
    checkParityBinary ack = true
  else
    checkParity (some ack) = some true

instance
    (ack : List UInt8) :
    Decidable (ParityCorrect ack) := by
  unfold ParityCorrect
  infer_instance

/- The command of a binary ack. -/
theorem getAckCmdBinary_eq_iff
    (hBinary : isBinary ack = true)
    {cmd : Cmd}
    (hValid : cmd ∈ validCmds) :
    getAckCmdBinary ack = cmd ↔ ackNumber ack = cmd.code := by
  unfold getAckCmdBinary ackNumber
  rw [hBinary, if_pos rfl, if_pos rfl, ofCode_eq_iff hValid]
  exact Nat.cast_inj.symm

/- The command of an NMEA ack. -/
theorem getAckCmd_eq_iff
    (hNmea : cmdHeader <+: ack)
    {cmd : Cmd}
    (hValid : cmd ∈ validCmds) :
    getAckCmd ack = cmd ↔ ackNumber ack = cmd.code := by
  rcases exists_of_nmea hNmea with ⟨hNotBinary, hHeader⟩
  unfold getAckCmd ackNumber
  rw [hHeader, hNotBinary]
  simp only [Nat.zero_add]
  rw [ofCode_eq_iff hValid, if_neg (by simp)]
  have hFive := i8_bounds (ack.getD 5 0)
  have hSix := i8_bounds (ack.getD 6 0)
  have hSeven := i8_bounds (ack.getD 7 0)
  have hCode : cmd.code < 1000 := by
    cases cmd <;> decide
  unfold u16 wrap digit
  omega

/- The command of the ack, whatever its format. -/
theorem waitedAck_of_parity
    (hHeaded : Headed ack)
    (hParity : ParityCorrect ack) :
    ∃ ackCmd, waitedAck ack = some (ackCmd, some ack) ∧
      ∀ cmd ∈ validCmds,
        ackCmd = cmd ↔ ackNumber ack = cmd.code := by
  unfold ParityCorrect at hParity
  unfold waitedAck
  cases hBinary : isBinary ack with
  | true =>
      rw [hBinary] at hParity
      have hChecked : checkParityBinary ack = true := hParity
      exact ⟨getAckCmdBinary ack, by simp [hChecked],
        fun _ hValid => getAckCmdBinary_eq_iff hBinary hValid⟩
  | false =>
      rw [hBinary] at hParity
      have hChecked : checkParity (some ack) = some true :=
        hParity
      have hNmea := headed_cases hHeaded hBinary
      have hHeader := (exists_of_nmea hNmea).2
      exact ⟨getAckCmd ack, by simp [hHeader, hChecked],
        fun _ hValid => getAckCmd_eq_iff hNmea hValid⟩

/-
  The acks that `GPS_SendWaiteNormalAck` reads as success:
  any pack ack whose index bytes are those of the command
  string, and any ack whose fields stand for the command
  and for success.
-/
theorem sendWaiteNormalAck_eq_true_iff
    (hHeaded : Headed ack)
    (hParity : ParityCorrect ack) :
    sendWaiteNormalAck cmdSend cmdStr ack = some true ↔
      ackNumber ack = 3 ∧ packAcked cmdStr ack = true ∨
        ackNumber ack = 1 ∧ cmdSend ∈ validCmds ∧
          ackFields ack = some (cmdSend.code, 3) := by
  rcases waitedAck_of_parity hHeaded hParity with
    ⟨ackCmd, hWaited, hNumber⟩
  have hAck : ackCmd = .ack ↔ ackNumber ack = 1 :=
    hNumber .ack (by decide)
  have hAckGpd : ackCmd = .ackGpd ↔ ackNumber ack = 3 :=
    hNumber .ackGpd (by decide)
  rw [← hAck, ← hAckGpd, ← ackCheck_eq_execSuccess_iff,
    sendWaiteNormalAck, hWaited]
  cases ackCmd <;> simp

end Gps

------------------------------------------------------------
-- Soundness
------------------------------------------------------------

namespace Gps

variable {cmdSend : Cmd}
variable {cmdStr ack : List UInt8}

/- An NMEA ack of success, up to its parity digits. -/
def spelledAck (cmdSend : Cmd) : List UInt8 :=
  ascii "$PGKC001," ++ numeral cmdSend.code ++ ascii ",3*"

/- The acks that mean that a command was executed. -/
inductive Genuine
    (cmdSend : Cmd)
    (cmdStr ack : List UInt8) : Prop where
  | nmea
      (high low : UInt8)
      (hHigh : high ∈ hexDigits)
      (hLow : low ∈ hexDigits)
      (hText : spelledAck cmdSend ++ [high, low] <+: ack)
  | binary
      (hHeader : isBinary ack = true)
      (hNumber : word ack 4 = 1)
      (hCmd : word ack 6 = cmdSend.code)
      (hResult : ack.getD 8 0 = 3)
  | pack
      (hSend : cmdSend = .gpdPack)
      (hHeader : isBinary ack = true)
      (hNumber : word ack 4 = 3)
      (hIndex : word ack 6 = word cmdStr 6)
      (hResult : ack.getD 8 0 = 1)

/-
  The acks that cannot be mistaken: one that is read as the
  ack of this pack is the ack of a pack, and one whose
  characters stand for the command spells it.
-/
structure ReadPlainly
    (cmdSend : Cmd)
    (cmdStr ack : List UInt8) : Prop where
  pack : ackNumber ack = 3 →
    word ack 6 = word cmdStr 6 →
    ack.getD 8 0 = 1 →
    isBinary ack = true ∧ cmdSend = .gpdPack
  spelled : cmdSend ∈ validCmds →
    isBinary ack = false →
    ackNumber ack = 1 →
    ReadsAs cmdSend ack →
    spelledAck cmdSend <+: ack

theorem word_eq_iff
    {left right : List UInt8}
    {i : Nat} :
    word left i = word right i ↔
      left.getD i 0 = right.getD i 0 ∧
        left.getD (i + 1) 0 = right.getD (i + 1) 0 := by
  have hLeft := (left.getD i 0).toNat_lt
  have hRight := (right.getD i 0).toNat_lt
  rw [← UInt8.toNat_inj, ← UInt8.toNat_inj]
  unfold word
  omega

theorem packAcked_iff :
    packAcked cmdStr ack = true ↔
      word ack 6 = word cmdStr 6 ∧ ack.getD 8 0 = 1 := by
  rw [eq_comm (a := word ack 6), word_eq_iff]
  simp only [packAcked, Bool.and_eq_true, beq_iff_eq]

theorem mem_hexDigits_of_hexStr
    {i : Int}
    {b : UInt8}
    (hHex : hexStr i = some b) :
    b ∈ hexDigits := by
  unfold hexStr at hHex
  split at hHex
  · exact List.mem_of_getElem? hHex
  · cases hHex

/- Two hexadecimal digits stand behind the first '*'. -/
theorem exists_hex_of_parity
    {first second : UInt8}
    {str : List UInt8}
    (hStar : byte '*' ∉ str)
    (hText : first :: second :: str ++ ascii "*" <+: ack)
    (hParity : checkParity (some ack) = some true) :
    ∃ high low, high ∈ hexDigits ∧ low ∈ hexDigits ∧
      first :: second :: str ++ ascii "*" ++ [high, low] <+:
        ack := by
  have hZero : (0 : UInt8) ∉ hexDigits := by decide
  rcases hText with ⟨rest, rfl⟩
  have hLoop := parityLoop_append hStar rest second
  generalize second ^^^ Xor.checksum str = result at hLoop
  have hDrop : (first :: second :: str ++ ascii "*" ++
      rest).drop 2 = str ++ byte '*' :: rest := by
    simp [ascii]
  have hSecond : (first :: second :: str ++ ascii "*" ++
      rest).getD 1 0 = second := rfl
  simp only [checkParity] at hParity
  split at hParity
  · cases hParity
  · simp only [hDrop, hSecond, hLoop, Option.bind_eq_bind,
      Option.bind_some, Option.bind_eq_some_iff,
      Option.some.injEq, Bool.and_eq_true, beq_iff_eq]
      at hParity
    rcases hParity with ⟨high, hHigh, low, hLow, hFirst, hNext⟩
    have hHighMem := mem_hexDigits_of_hexStr hHigh
    have hLowMem := mem_hexDigits_of_hexStr hLow
    refine ⟨high, low, hHighMem, hLowMem, ?_⟩
    rw [List.prefix_append_right_inj]
    rcases rest with _ | ⟨b, _ | ⟨b', rest⟩⟩
    · rw [hFirst] at hHighMem
      exact absurd hHighMem hZero
    · rw [hNext] at hLowMem
      exact absurd hLowMem hZero
    · rw [hFirst, hNext]
      exact ⟨rest, rfl⟩

/- What is spelled out has the number of a command ack. -/
theorem ackNumber_of_spelled
    (hText : spelledAck cmdSend <+: ack) :
    isBinary ack = false ∧ ackNumber ack = 1 := by
  rcases hText with ⟨rest, rfl⟩
  have hBinary : isBinary (spelledAck cmdSend ++ rest) = false :=
    rfl
  have hFive : (spelledAck cmdSend ++ rest).getD 5 0 =
      byte '0' := rfl
  have hSix : (spelledAck cmdSend ++ rest).getD 6 0 =
      byte '0' := rfl
  have hSeven : (spelledAck cmdSend ++ rest).getD 7 0 =
      byte '1' := rfl
  refine ⟨hBinary, ?_⟩
  rw [ackNumber, hBinary, if_neg Bool.false_ne_true, hFive,
    hSix, hSeven]
  decide

theorem genuine_of_spelled
    (hText : spelledAck cmdSend <+: ack)
    (hParity : ParityCorrect ack) :
    Genuine cmdSend cmdStr ack := by
  have hBinary := (ackNumber_of_spelled hText).1
  have hChecked : checkParity (some ack) = some true := by
    rw [ParityCorrect, hBinary] at hParity
    exact hParity
  have hSplit : spelledAck cmdSend =
      byte '$' :: byte 'P' :: (ascii "GKC001," ++
        numeral cmdSend.code ++ ascii ",3") ++ ascii "*" := by
    simp [spelledAck, ascii]
  have hStar : byte '*' ∉ ascii "GKC001," ++
      numeral cmdSend.code ++ ascii ",3" := by
    cases cmdSend <;> decide +kernel
  rw [hSplit] at hText
  rcases exists_hex_of_parity hStar hText hChecked with
    ⟨high, low, hHigh, hLow, hWhole⟩
  exact .nmea high low hHigh hLow (by rwa [hSplit])

/-
  A command is taken for executed only on an ack that says
  so, for an ack with the right parity, exactly when the ack
  is read plainly.
-/
theorem sendWaiteNormalAck_sound_iff
    (hHeaded : Headed ack)
    (hParity : ParityCorrect ack) :
    (sendWaiteNormalAck cmdSend cmdStr ack = some true →
        Genuine cmdSend cmdStr ack) ↔
      ReadPlainly cmdSend cmdStr ack := by
  rw [sendWaiteNormalAck_eq_true_iff hHeaded hParity,
    packAcked_iff]
  constructor
  · intro hSound
    constructor
    · intro hNumber hIndex hResult
      cases hSound (Or.inl ⟨hNumber, hIndex, hResult⟩) with
      | nmea high low hHigh hLow hText =>
          have hSpelled := ackNumber_of_spelled
            ((List.prefix_append _ _).trans hText)
          omega
      | binary hHeader hOne =>
          rw [ackNumber, hHeader, if_pos rfl] at hNumber
          omega
      | pack hSend hHeader => exact ⟨hHeader, hSend⟩
    · intro hValid hBinary hNumber hReads
      have hFields :=
        (ackFields_eq_iff (headed_cases hHeaded hBinary)).mpr
          hReads
      cases hSound (Or.inr ⟨hNumber, hValid, hFields⟩) with
      | nmea high low hHigh hLow hText =>
          exact (List.prefix_append _ _).trans hText
      | binary hHeader =>
          rw [hHeader] at hBinary
          cases hBinary
      | pack hSend hHeader =>
          rw [hHeader] at hBinary
          cases hBinary
  · intro hPlain hSuccess
    rcases hSuccess with
      ⟨hNumber, hIndex, hResult⟩ | ⟨hNumber, hValid, hFields⟩
    · rcases hPlain.pack hNumber hIndex hResult with
        ⟨hHeader, hSend⟩
      rw [ackNumber, hHeader, if_pos rfl] at hNumber
      exact .pack hSend hHeader (by omega) hIndex hResult
    · cases hBinary : isBinary ack with
      | true =>
          rw [ackNumber, hBinary, if_pos rfl] at hNumber
          rw [ackFields, hBinary, if_pos rfl] at hFields
          simp only [Option.some.injEq, Prod.mk.injEq]
            at hFields
          exact .binary hBinary (by omega) hFields.1 hFields.2
      | false =>
          have hNmea := headed_cases hHeaded hBinary
          exact genuine_of_spelled
            (hPlain.spelled hValid hBinary hNumber
              ((ackFields_eq_iff hNmea).mp hFields))
            hParity

/- The ack of a reboot, which is the ack of no other command. -/
theorem sendWaiteNormalAck_sound_reboot :
    let ack := ascii "$PGKC001,30,3*1E\r\n"
    (sendWaiteNormalAck .reboot [] ack = some true →
        Genuine .reboot [] ack) ↔
      ReadPlainly .reboot [] ack :=
  sendWaiteNormalAck_sound_iff (Or.inl (by decide)) (by decide)

/- The message that leaves the binary mode. -/
def nmeaModeCmd : List UInt8 :=
  [0xaa, 0xf0, 0x0e, 0, 0x95, 0, 0, 0x80, 0x25, 0, 0]

/- The ack of a pack with the index 0x8000. -/
def packAck : List UInt8 :=
  [0xaa, 0xf0, 0x0c, 0, 3, 0, 0, 0x80, 1, 0x8e, 13, 10]

/-
  A result field "30" is read as a 3, and the ack of a pack
  as the ack of the command that leaves the binary mode.
-/
theorem wrong_acks_succeed :
    (ParityCorrect (ascii "$PGKC001,101,30*1D\r\n") ∧
        sendWaiteNormalAck .nmeaOutputInterval
            (ascii "$PGKC101,1000*02\r\n")
            (ascii "$PGKC001,101,30*1D\r\n") = some true ∧
        ¬ Genuine .nmeaOutputInterval
            (ascii "$PGKC101,1000*02\r\n")
            (ascii "$PGKC001,101,30*1D\r\n")) ∧
      ParityCorrect packAck ∧
        sendWaiteNormalAck .format nmeaModeCmd packAck =
          some true ∧
        ¬ Genuine .format nmeaModeCmd packAck := by
  refine ⟨⟨by decide, by decide, ?_⟩, by decide, by decide, ?_⟩
  · intro hGenuine
    cases hGenuine with
    | nmea high low hHigh hLow hText =>
        have hSpelled := (List.prefix_append _ _).trans hText
        exact absurd hSpelled (by decide)
    | binary hHeader => exact absurd hHeader (by decide)
    | pack hSend => cases hSend
  · intro hGenuine
    cases hGenuine with
    | nmea high low hHigh hLow hText =>
        have hSpelled := (List.prefix_append _ _).trans hText
        exact absurd hSpelled (by decide)
    | binary hHeader hNumber =>
        exact absurd hNumber (by decide)
    | pack hSend => cases hSend

/- What `GPS_Update` hands over starts with a header. -/
theorem headed_of_handedOver
    {s : State}
    (hInFlight : s.semCmdSending = true)
    {data ack : List UInt8}
    {result : UpdateState}
    (hUpdates : Updates true s data result)
    (hHanded : HandedOver ack result)
    (behind : List UInt8) :
    Headed (ack ++ behind) := by
  have hTakes := (updates_handedOver_iff hInFlight data ack).mp
    ⟨result, hUpdates, hHanded⟩
  rcases hTakes with hNmea | ⟨_, hBinary⟩
  · rcases hNmea with ⟨start, length, index0, hTakes⟩
    left
    have hInText := find_occursAt hTakes.index0_eq
    rcases text_isPrefix (ackCopy (received s.live data)
      (start + length)) with ⟨hidden, hCopy⟩
    have hInCopy := occursAt_append_of_occursAt hidden hInText
    rw [hCopy, OccursAt, hTakes.ack_eq] at hInCopy
    exact hInCopy.trans (List.prefix_append _ _)
  · rcases hBinary with ⟨start, length, index0, hTakes⟩
    right
    have hInCopy := find_occursAt hTakes.index0_eq
    rw [OccursAt, hTakes.ack_eq] at hInCopy
    exact hInCopy.trans (List.prefix_append _ _)

end Gps
