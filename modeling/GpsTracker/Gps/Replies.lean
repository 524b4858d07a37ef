import GpsTracker.Gps.RequestsSent

/-
  The acks that answer a request.

  An ack names the command it is for, or the number of the
  pack, and a result. For every such ack it is decided here
  what `GPS_SendWaiteNormalAck` makes of it, after every
  request.

  Main declarations:
    * `Gps.Reply`, `Gps.Reply.bytes`
    * `Gps.Reply.Confirms`
    * `Gps.sendWaiteNormalAck_reply`
-/

open CString Machine ListSearch

------------------------------------------------------------
-- Acks
------------------------------------------------------------

namespace Gps

/- A 16-bit field whose bytes are not a "\r\n". -/
structure Field where
  number : UInt16
  hBytes : number ≠ 0x0a0d
deriving DecidableEq

/-
  The ack of a command in either format, and that of a pack,
  which tells whether the pack was received.
-/
inductive Reply where
  | nmea (cmd : UInt16) (result : CmdAck)
  | binary (cmd : Field) (result : CmdAck)
  | pack (index : Field) (received : Bool)
deriving DecidableEq

/- A binary ack up to its parity. -/
def ackMessage (kind : Cmd) (field result : Nat) : List UInt8 :=
  cmdBinaryHeader ++ littleEndian 12 ++
    littleEndian kind.code ++ littleEndian field ++
      [UInt8.ofNat result]

def Reply.bytes : Reply → List UInt8
  | .nmea cmd result =>
      completed (nmeaTail .ack
        [number cmd.toNat, number result.code])
  | .binary cmd result =>
      closed (ackMessage .ack cmd.number.toNat result.code)
  | .pack index received =>
      closed (ackMessage .ackGpd index.number.toNat
        received.toNat)

/- The acks that `gps.c` shows in its comments. -/
example :
    Reply.bytes (.nmea 101 .execSuccess) =
        ascii "$PGKC001,101,3*2D\r\n" ∧
      Reply.bytes (.pack ⟨0, by decide⟩ true) =
        [ 0xaa, 0xf0, 0x0c, 0x00, 0x03, 0x00, 0x00, 0x00,
          0x01, 0x0e, 0x0d, 0x0a ] := by
  decide +kernel

/- The ack says that the request was executed. -/
def Reply.Confirms (request : Request) : Reply → Prop
  | .nmea cmd result =>
      cmd.toNat = request.cmd.code ∧ result = .execSuccess
  | .binary cmd result =>
      cmd.number.toNat = request.cmd.code ∧
        result = .execSuccess
  | .pack index received =>
      index.number.toNat = word request.sent 6 ∧
        received = true

instance
    (request : Request)
    (reply : Reply) :
    Decidable (reply.Confirms request) :=
  match reply with
  | .nmea _ _ => instDecidableAnd
  | .binary _ _ => instDecidableAnd
  | .pack _ _ => instDecidableAnd

theorem CmdAck.code_le
    (result : CmdAck) :
    result.code ≤ 4 := by
  cases result <;> decide

theorem isText_ack
    (cmd : UInt16)
    (result : CmdAck) :
    ∀ arg ∈ [number cmd.toNat, number result.code],
      Minmea.IsText arg := by
  have hResult := result.code_le
  have hCode : IsArg (number result.code) :=
    isArg_number (by omega)
  intro arg hArg
  rcases List.mem_pair.mp hArg with rfl | rfl
  · exact (isArg_uint16 cmd).1
  · exact hCode.1

theorem length_ackMessage
    (kind : Cmd)
    (field result : Nat) :
    (ackMessage kind field result).length = 9 := rfl

theorem message_ackMessage
    {kind : Cmd}
    (field result : Nat) :
    Message kind (ackMessage kind field result) := by
  have hCode := kind.code_lt
  constructor
  · exact ⟨_, by
      unfold ackMessage
      simp only [List.append_assoc]
      rfl⟩
  · rfl
  · exact word_littleEndian (by omega)
      (littleEndian field ++ [UInt8.ofNat result])
  · rw [length_ackMessage]
    decide
  · rw [length_ackMessage]
    decide

end Gps

------------------------------------------------------------
-- What Is Read
------------------------------------------------------------

namespace Gps

theorem fieldValue_padded
    (width n : Nat) :
    fieldValue (Decimal.padded width n) = (n % 10 ^ width : Nat) := by
  induction width generalizing n with
  | zero =>
      rw [Nat.pow_zero, Nat.mod_one]
      rfl
  | succ width ih =>
      have hIh := ih (n / 10)
      unfold fieldValue at hIh ⊢
      rw [Decimal.padded, List.foldl_append, hIh,
        List.foldl_cons, List.foldl_nil,
        digit_digit (Nat.mod_lt n (by decide)), Nat.pow_succ',
        Nat.mod_mul]
      push_cast
      omega

/- A numeral stands for its number. -/
theorem fieldValue_number
    (n : Nat) :
    fieldValue (number n) = n := by
  have hLess := (Decimal.length_numeral_le_iff
    (List.length_pos_iff.mpr (Decimal.numeral_ne_nil n))).mp
      (le_refl (Decimal.numeral n).length)
  unfold number
  rw [Decimal.numeral_eq_padded, fieldValue_padded,
    Nat.mod_eq_of_lt hLess]

/- A numeral has no separator in it. -/
theorem notMem_number
    (n : Nat) :
    byte ',' ∉ number n ∧ 0 ∉ number n := by
  have hText : Minmea.IsText (number n) := fun _ hc =>
    Minmea.isfield_of_isDigit
      (Decimal.isDigit_of_mem_numeral hc)
  exact ⟨Minmea.comma_notMem hText,
    fun hMem => absurd (hText 0 hMem) (by decide)⟩

/- The two commas of an NMEA ack, and what is read there. -/
theorem ackFields_of_parts
    {skipped field : List UInt8}
    (hSkipped : byte ',' ∉ skipped ∧ 0 ∉ skipped)
    (hField : byte ',' ∉ field ∧ 0 ∉ field)
    (result : UInt8)
    (behind : List UInt8) :
    ackFields (cmdHeader ++ (skipped ++ byte ',' ::
        (field ++ byte ',' :: result :: behind))) =
      some (u16 (fieldValue field), result - 48) := by
  have hComma : byte ',' ≠ 0 := by decide
  have hRest := drop_parts cmdHeader skipped
    (field ++ byte ',' :: result :: behind) (byte ',')
  have hResult : (cmdHeader ++ (skipped ++ byte ',' ::
      (field ++ byte ',' :: result :: behind))).drop
        (0 + cmdHeader.length + skipped.length + 1 +
          field.length + 1) = result :: behind := by
    rw [Nat.add_assoc _ field.length, ← List.drop_drop, hRest,
      List.drop_append, List.drop_of_length_le
        (Nat.le_succ _), Nat.add_sub_cancel_left]
    rfl
  have hBody : (cmdHeader ++ (skipped ++ byte ',' ::
      (field ++ byte ',' :: result :: behind))).drop
        (0 + cmdHeader.length) =
      skipped ++ byte ',' ::
        (field ++ byte ',' :: result :: behind) := by
    rw [Nat.zero_add, List.drop_left]
  rcases exists_of_nmea (List.prefix_append cmdHeader
      (skipped ++ byte ',' ::
        (field ++ byte ',' :: result :: behind))) with
    ⟨hNotBinary, hHeader⟩
  have hFirst := (strstr_singleton_eq_some_iff hComma).mpr
    ⟨skipped, _, hBody, hSkipped.1, hSkipped.2, rfl⟩
  have hSecond := (strstr_singleton_eq_some_iff hComma).mpr
    ⟨field, _, hRest, hField.1, hField.2, rfl⟩
  rw [ackFields, hNotBinary, hHeader]
  simp only [Bool.false_eq_true, if_false, Option.bind_eq_bind,
    Option.bind_some]
  rw [show ascii "," = [byte ','] from rfl, hFirst,
    Option.bind_some, hSecond, Option.bind_some,
    accumulate_eq, hRest, Nat.add_sub_cancel_left,
    List.take_left, getD_eq_headD_drop, hResult, List.headD_cons]

/- The fields of an NMEA ack, whatever stands behind it. -/
theorem ackFields_nmea
    (cmd : UInt16)
    (result : CmdAck)
    (behind : List UInt8) :
    ackFields
        (Reply.bytes (.nmea cmd result) ++ behind) =
      some (cmd.toNat, UInt8.ofNat result.code) := by
  have hOne : Decimal.padded 3 Cmd.ack.code = ascii "001" := by
    decide
  have hResult : number result.code =
      [Decimal.digit result.code] ∧
        Decimal.digit result.code - 48 =
          UInt8.ofNat result.code := by
    cases result <;> decide
  let rest := byte '*' :: parityTail (Xor.checksum
    (nmeaTail .ack
      [number cmd.toNat, number result.code])) ++ behind
  have hShape : Reply.bytes (.nmea cmd result) ++ behind =
      cmdHeader ++ (ascii "001" ++ byte ',' ::
        (number cmd.toNat ++ byte ',' ::
          Decimal.digit result.code :: rest)) := by
    simp only [Reply.bytes, completed, rest]
    rw [hResult.1]
    simp [nmeaTail, Minmea.separated, hOne, cmdHeader, ascii]
  have hWide : u16 (cmd.toNat : Int) = cmd.toNat :=
    wrap_natCast_of_lt cmd.toNat_lt
  rw [hShape, ackFields_of_parts ⟨by decide, by decide⟩
    (notMem_number cmd.toNat), fieldValue_number, hWide,
    hResult.2]

theorem ackFields_binary
    (kind : Cmd)
    {field result : Nat}
    (hField : field < 65536)
    (behind : List UInt8) :
    ackFields (closed (ackMessage kind field result) ++
        behind) =
      some (field, UInt8.ofNat result) := by
  have hBinary := isBinary_iff.mpr
    (headed_closed (@message_ackMessage kind field result)
      behind)
  rw [ackFields, hBinary, if_pos rfl,
    word_closed (by rw [length_ackMessage]; decide)]
  exact congrArg some (congrArg₂ Prod.mk
    (word_littleEndian hField [UInt8.ofNat result]) rfl)

end Gps

------------------------------------------------------------
-- What Is Decided
------------------------------------------------------------

namespace Gps

/- The kind of a reply, as the reader of acks finds it. -/
def Reply.kind : Reply → Cmd
  | .nmea _ _ => .ack
  | .binary _ _ => .ack
  | .pack _ _ => .ackGpd

theorem Reply.headed
    (reply : Reply)
    (behind : List UInt8) :
    Headed (reply.bytes ++ behind) := by
  cases reply with
  | nmea cmd result => exact Or.inl ⟨_, rfl⟩
  | binary cmd result =>
      exact Or.inr (headed_closed (message_ackMessage _ _) _)
  | pack index received =>
      exact Or.inr (headed_closed (message_ackMessage _ _) _)

theorem Reply.parityCorrect
    (reply : Reply)
    (behind : List UInt8) :
    ParityCorrect (reply.bytes ++ behind) := by
  cases reply with
  | nmea cmd result =>
      exact parityCorrect_completed (isText_ack cmd result) _ _
  | binary cmd result =>
      exact parityCorrect_closed (message_ackMessage _ _) _
  | pack index received =>
      exact parityCorrect_closed (message_ackMessage _ _) _

theorem Reply.ackNumber
    (reply : Reply)
    (behind : List UInt8) :
    Gps.ackNumber (reply.bytes ++ behind) = reply.kind.code := by
  cases reply with
  | nmea cmd result => exact ackNumber_completed _ _ _
  | binary cmd result =>
      exact ackNumber_closed (message_ackMessage _ _) _
  | pack index received =>
      exact ackNumber_closed (message_ackMessage _ _) _

theorem Request.valid
    (request : Request) :
    request.cmd ∈ validCmds := by
  cases request with
  | nmea request => exact request.valid
  | binary request => exact request.valid

theorem Request.eight_le_length_sent
    (request : Request) :
    8 ≤ request.sent.length := by
  cases request with
  | nmea request =>
      have hTail : 7 ≤ (nmeaTail request.cmd
          request.args).length := by
        unfold nmeaTail
        rw [List.length_append, List.length_append,
          Decimal.length_padded]
        exact Nat.le_add_right 7 _
      show 8 ≤ (completed (nmeaTail request.cmd
        request.args)).length
      rw [length_completed]
      omega
  | binary request =>
      have hLeast := request.isMessage.least
      show 8 ≤ (closed request.message).length
      rw [length_closed]
      omega

/- The index and the result that a pack ack is asked for. -/
theorem packAcked_pack
    (request : Request)
    (rest : List UInt8)
    (index : Field)
    (received : Bool)
    (behind : List UInt8) :
    packAcked (request.sent ++ rest)
        (Reply.bytes (.pack index received) ++ behind) =
      true ↔
      Reply.Confirms request (.pack index received) := by
  have hLength := request.eight_le_length_sent
  have hIndex : word (Reply.bytes (.pack index received) ++
      behind) 6 = index.number.toNat := by
    unfold Reply.bytes
    rw [word_closed (by rw [length_ackMessage]; decide)]
    exact word_littleEndian index.number.toNat_lt
      [UInt8.ofNat received.toNat]
  have hResult : (Reply.bytes (.pack index received) ++
      behind).getD 8 0 = UInt8.ofNat received.toNat := rfl
  have hReceived : UInt8.ofNat received.toNat = 1 ↔
      received = true := by
    cases received <;> decide
  rw [packAcked_iff, hIndex, hResult, hReceived,
    word_append (by omega)]
  rfl

/- The fields that stand for success. -/
theorem fields_eq_iff
    {field : Nat}
    {result : CmdAck}
    {cmd : Cmd} :
    some (field, UInt8.ofNat result.code) =
        some (cmd.code, (3 : UInt8)) ↔
      field = cmd.code ∧ result = .execSuccess := by
  rw [Option.some.injEq, Prod.mk.injEq]
  cases result <;> simp [CmdAck.code]

/-
  A reply is taken for success exactly when it confirms the
  request, whatever stands behind the two in memory.
-/
theorem sendWaiteNormalAck_reply
    (request : Request)
    (reply : Reply)
    (rest behind : List UInt8) :
    sendWaiteNormalAck request.cmd (request.sent ++ rest)
        (reply.bytes ++ behind) =
      some (decide (reply.Confirms request)) := by
  have hHeaded := reply.headed behind
  have hParity := reply.parityCorrect behind
  have hNumber := reply.ackNumber behind
  have hValue : ∃ value, sendWaiteNormalAck request.cmd
      (request.sent ++ rest) (reply.bytes ++ behind) =
        some value := by
    rcases waitedAck_of_parity hHeaded hParity with
      ⟨ackCmd, hWaited, _⟩
    unfold sendWaiteNormalAck
    rw [hWaited]
    exact ⟨_, rfl⟩
  have hTrue : sendWaiteNormalAck request.cmd
      (request.sent ++ rest) (reply.bytes ++ behind) =
        some true ↔ reply.Confirms request := by
    rw [sendWaiteNormalAck_eq_true_iff hHeaded hParity, hNumber]
    cases reply with
    | nmea cmd result =>
        rw [ackFields_nmea, fields_eq_iff]
        simp [Reply.kind, Cmd.code, request.valid,
          Reply.Confirms]
    | binary cmd result =>
        unfold Reply.bytes
        rw [ackFields_binary _ cmd.number.toNat_lt,
          fields_eq_iff]
        simp [Reply.kind, Cmd.code, request.valid,
          Reply.Confirms]
    | pack index received =>
        rw [packAcked_pack]
        simp [Reply.kind, Cmd.code]
  rcases hValue with ⟨value, hValue⟩
  rw [hValue, Option.some.injEq] at hTrue ⊢
  exact Bool.eq_iff_iff.mpr
    (hTrue.trans decide_eq_true_iff.symm)

end Gps
