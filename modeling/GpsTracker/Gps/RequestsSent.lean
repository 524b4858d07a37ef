import GpsTracker.Gps.Requests

/-
  What is sent for a request.

  Whatever the stack held before, a request is sent as one
  whole message that the library's own reader accepts, and
  no other request is the same message.

  Main declarations:
    * `Gps.nmeaTail`, `Gps.Message`, `Gps.closed`
    * `Gps.RequestSent`, `Gps.request_sent`
    * `Gps.Request.sent`, `Gps.request_sent_eq_iff`
-/

open CString Machine ListSearch

------------------------------------------------------------
-- Text Requests Are Sent
------------------------------------------------------------

namespace Gps

/- The command behind its '$'. -/
def nmeaTail
    (cmd : Cmd)
    (args : List (List UInt8)) : List UInt8 :=
  ascii "PGKC" ++ Decimal.padded 3 cmd.code ++
    Minmea.separated args

theorem nmeaTail_ne_nil
    (cmd : Cmd)
    (args : List (List UInt8)) :
    nmeaTail cmd args ≠ [] :=
  List.cons_ne_nil _ _

theorem Cmd.code_lt
    (cmd : Cmd) :
    cmd.code < 1000 := by
  cases cmd <;> decide

theorem Cmd.code_inj
    {cmd cmd' : Cmd}
    (hCode : cmd.code = cmd'.code) :
    cmd = cmd' := by
  revert hCode
  cases cmd <;> cases cmd' <;> decide

theorem threeDigits_code
    (cmd : Cmd) :
    threeDigits cmd.code = Decimal.padded 3 cmd.code := by
  cases cmd <;> decide

theorem nmeaText_eq
    (cmd : Cmd)
    (args : List (List UInt8)) :
    nmeaText cmd args = byte '$' :: nmeaTail cmd args := by
  unfold nmeaText
  rw [threeDigits_code]
  rfl

/- What a text request is made of is no control character. -/
theorem cmdChar_of_isBody
    {c : UInt8}
    (hc : Minmea.isBody c = true) :
    CmdChar c ∧ c ≠ 13 := by
  have hAll : ∀ n : Fin 256,
      Minmea.isBody (UInt8.ofFin n) = true →
        ((UInt8.ofFin n).toNat < 128 ∧
          UInt8.ofFin n ≠ 0 ∧ UInt8.ofFin n ≠ byte '*') ∧
          UInt8.ofFin n ≠ 13 := by
    decide +kernel
  exact hAll c.toFin hc

theorem isBody_nmeaTail
    {args : List (List UInt8)}
    (hArgs : ∀ arg ∈ args, Minmea.IsText arg)
    (cmd : Cmd) :
    ∀ b ∈ nmeaTail cmd args, Minmea.isBody b = true := by
  intro b hb
  unfold nmeaTail Minmea.separated at hb
  rw [List.mem_append, List.mem_append, List.mem_flatMap] at hb
  rcases hb with (hb | hb) | ⟨arg, hArg, hb⟩
  · revert b
    decide +kernel
  · exact Minmea.isBody_of_isfield (Minmea.isfield_padded hb)
  · rcases List.mem_cons.mp hb with rfl | hb
    · decide
    · exact Minmea.isBody_of_isfield (hArgs arg hArg b hb)

theorem length_separated_le
    {args : List (List UInt8)}
    (hArgs : ∀ arg ∈ args, IsArg arg) :
    (Minmea.separated args).length ≤ 11 * args.length := by
  induction args with
  | nil => exact le_refl 0
  | cons arg args ih =>
      rw [List.forall_mem_cons] at hArgs
      have hArg := hArgs.1.2
      have hRest := ih hArgs.2
      unfold Minmea.separated at hRest ⊢
      rw [List.flatMap_cons, List.length_append,
        List.length_cons, List.length_cons]
      omega

theorem length_nmeaTail_le
    {args : List (List UInt8)}
    (hArgs : ∀ arg ∈ args, IsArg arg)
    (cmd : Cmd) :
    (nmeaTail cmd args).length ≤ 7 + 11 * args.length := by
  have hSeparated := length_separated_le hArgs
  have hHeader : (ascii "PGKC").length = 4 := rfl
  unfold nmeaTail
  rw [List.length_append, List.length_append,
    Decimal.length_padded, hHeader]
  omega

/- A text with room behind it is written whole. -/
theorem nmeaCall_temp
    {temp : List UInt8}
    (hTemp : temp.length = cmdBufferLength)
    {cmd : Cmd}
    {args : List (List UInt8)}
    (hRoom : (nmeaTail cmd args).length < 529) :
    ∃ rest, (nmeaCall temp cmd args).temp =
        byte '$' :: nmeaTail cmd args ++ 0 :: rest ∧
      (nmeaTail cmd args).length + rest.length + 2 =
        cmdBufferLength := by
  have hTake : (temp.take bufferMaxLength).length = 530 := by
    rw [List.length_take, hTemp]
    rfl
  have hWhole : (byte '$' :: nmeaTail cmd args).take 529 =
      byte '$' :: nmeaTail cmd args :=
    List.take_of_length_le (by rw [List.length_cons]; omega)
  refine ⟨(temp.take bufferMaxLength).drop
    ((nmeaTail cmd args).length + 2) ++
      temp.drop bufferMaxLength, ?_, ?_⟩
  · unfold nmeaCall snprintf
    simp only [nmeaText_eq, hTake, Nat.add_one_sub_one, hWhole]
    simp
  · rw [List.length_append, List.length_drop, hTake,
      List.length_drop, hTemp]
    unfold cmdBufferLength bufferMaxLength
    omega

/- The reader of an ack takes a digit for its value. -/
theorem digit_digit
    {d : Nat}
    (hd : d < 10) :
    digit (Decimal.digit d) = d := by
  have hAll : ∀ d : Fin 10,
      digit (Decimal.digit d.val) = d.val := by
    decide
  exact hAll ⟨d, hd⟩

/- It finds the number of a command in what is sent. -/
theorem ackNumber_completed
    (cmd : Cmd)
    (args : List (List UInt8))
    (behind : List UInt8) :
    ackNumber (completed (nmeaTail cmd args) ++ behind) =
      cmd.code := by
  have hBinary :
      isBinary (completed (nmeaTail cmd args) ++ behind) =
        false := rfl
  have hFive :
      (completed (nmeaTail cmd args) ++ behind).getD 5 0 =
        Decimal.digit (cmd.code / 10 / 10 % 10) := rfl
  have hSix :
      (completed (nmeaTail cmd args) ++ behind).getD 6 0 =
        Decimal.digit (cmd.code / 10 % 10) := rfl
  have hSeven :
      (completed (nmeaTail cmd args) ++ behind).getD 7 0 =
        Decimal.digit (cmd.code % 10) := rfl
  have hCode := cmd.code_lt
  rw [ackNumber, hBinary, if_neg Bool.false_ne_true, hFive,
    hSix, hSeven, digit_digit (by omega),
    digit_digit (by omega), digit_digit (by omega)]
  omega

/- Its parity is right, whatever stands behind it. -/
theorem parityCorrect_completed
    {args : List (List UInt8)}
    (hArgs : ∀ arg ∈ args, Minmea.IsText arg)
    (cmd : Cmd)
    (behind : List UInt8) :
    ParityCorrect
      (completed (nmeaTail cmd args) ++ behind) := by
  have hBinary :
      isBinary (completed (nmeaTail cmd args) ++ behind) =
        false := rfl
  have hShape : completed (nmeaTail cmd args) ++ behind =
      byte '$' :: nmeaTail cmd args ++ byte '*' ::
        (parityTail (Xor.checksum (nmeaTail cmd args)) ++
          behind) := by
    simp [completed]
  have hChecked : checkParity
      (some (completed (nmeaTail cmd args) ++ behind)) =
        some true := by
    rw [hShape, checkParity_of_cmdChars (nmeaTail_ne_nil _ _)
      (fun b hb => (cmdChar_of_isBody
        (isBody_nmeaTail hArgs cmd b hb)).1)]
    exact congrArg some
      (decide_eq_true (digitsOf_parityTail _ behind))
  rw [ParityCorrect, hBinary]
  exact hChecked

theorem upperHex_ne_cr
    {n : Nat}
    (hDigit : n < 16) :
    upperHex n ≠ 13 := by
  have hAll : ∀ n : Fin 16, upperHex n.val ≠ 13 := by decide
  exact hAll ⟨n, hDigit⟩

/- The "\r\n" of a completed text is its only one. -/
theorem find_crlf_completed
    {tail : List UInt8}
    (hCr : 13 ∉ tail) :
    find crlf (completed tail) = some (tail.length + 4) := by
  have hByte := (Xor.checksum tail).toNat_lt
  have hHigh := @upperHex_ne_cr
    ((Xor.checksum tail).toNat / 16) (by omega)
  have hLow := @upperHex_ne_cr
    ((Xor.checksum tail).toNat % 16) (by omega)
  have hSplit : completed tail =
      (byte '$' :: tail ++
        [byte '*', upperHex ((Xor.checksum tail).toNat / 16),
          upperHex ((Xor.checksum tail).toNat % 16)]) ++
        crlf := by
    simp [completed, parityTail, crlf]
  have hNone : 13 ∉ byte '$' :: tail ++
      [byte '*', upperHex ((Xor.checksum tail).toNat / 16),
        upperHex ((Xor.checksum tail).toNat % 16)] := by
    simp only [List.mem_append, List.mem_cons,
      List.not_mem_nil, or_false, not_or]
    exact ⟨⟨by decide, hCr⟩, by decide, hHigh.symm,
      hLow.symm⟩
  rw [hSplit, show crlf = 13 :: [10] from rfl,
    find_append_of_head_notMem hNone]
  simp [find]

end Gps

------------------------------------------------------------
-- What Is Sent
------------------------------------------------------------

namespace Gps

/- The text of a request that is sent. -/
def NmeaRequest.sent (request : NmeaRequest) : List UInt8 :=
  completed (nmeaTail request.cmd request.args)

theorem NmeaRequest.valid
    (request : NmeaRequest) :
    request.cmd ∈ validCmds := by
  cases request <;> simp [NmeaRequest.cmd, validCmds]

theorem NmeaRequest.cmdChar
    (request : NmeaRequest) :
    ∀ b ∈ nmeaTail request.cmd request.args,
      CmdChar b ∧ b ≠ 13 := fun b hb =>
  cmdChar_of_isBody
    (isBody_nmeaTail request.isText request.cmd b hb)

/- A text request is sent whole, over any stack. -/
theorem NmeaRequest.send_eq
    (request : NmeaRequest)
    {temp : List UInt8}
    (hTemp : temp.length = cmdBufferLength) :
    ∃ rest, (Request.nmea request).send temp =
        some
          { str := request.sent ++ 0 :: rest
            sent := request.sent
            cleared := true } ∧
      request.sent.length + rest.length + 1 =
        cmdBufferLength := by
  have hTail := length_nmeaTail_le request.isArg request.cmd
  have hArgs := request.length_args_le
  rcases nmeaCall_temp hTemp
      (show (nmeaTail request.cmd request.args).length < 529 by
        omega) with ⟨rest, hCall, hLength⟩
  have hRoom : 5 ≤ rest.length := by
    unfold cmdBufferLength at hLength
    omega
  have hWidth : (nmeaTail request.cmd request.args).length <
      65000 := by
    omega
  refine ⟨rest.drop 5, ?_, ?_⟩
  · unfold Request.send Request.call
    simp only
    rw [NmeaRequest.call_eq, hCall]
    exact cmdSend_nmea (nmeaTail_ne_nil _ _)
      (fun b hb => (request.cmdChar b hb).1) hRoom hWidth
  · unfold NmeaRequest.sent
    rw [length_completed, List.length_drop]
    omega

end Gps

------------------------------------------------------------
-- Binary Requests Are Sent
------------------------------------------------------------

namespace Gps

/-
  A message up to its parity, whose length field counts the
  parity and the "\r\n" too.
-/
structure Message
    (cmd : Cmd)
    (message : List UInt8) : Prop where
  header : cmdBinaryHeader <+: message
  field : word message 2 = message.length + 3
  cmd : word message 4 = cmd.code
  least : 8 ≤ message.length
  fits : message.length ≤ 520

/- The message with its parity and its end. -/
def closed (message : List UInt8) : List UInt8 :=
  message ++ binaryParity message message.length :: crlf

theorem length_closed
    (message : List UInt8) :
    (closed message).length = message.length + 3 := by
  unfold closed
  rw [List.length_append, List.length_cons, length_crlf]

/- A field that stands in the first bytes. -/
theorem word_append
    {message rest : List UInt8}
    {i : Nat}
    (hInside : i + 1 < message.length) :
    word (message ++ rest) i = word message i := by
  unfold word
  rw [List.getD_append _ _ _ _ (by omega),
    List.getD_append _ _ _ _ hInside]

theorem binaryParity_append
    {message : List UInt8}
    (hLeast : 2 ≤ message.length)
    (rest : List UInt8) :
    binaryParity (message ++ rest) message.length =
      binaryParity message message.length := by
  have hLength : (message.drop 2).length =
      message.length - 2 :=
    List.length_drop
  unfold binaryParity
  rw [List.drop_append_of_le_length hLeast,
    List.take_append_of_le_length (by omega)]

variable {cmd : Cmd}
variable {message : List UInt8}

/- A binary message is closed in its memory and sent. -/
theorem cmdSend_message
    (hMessage : Message cmd message)
    {rest : List UInt8}
    (hRoom : 3 ≤ rest.length) :
    cmdSend (message ++ rest) .binary =
      some
        { str := closed message ++ rest.drop 3
          sent := closed message
          cleared := false } := by
  have hLeast := hMessage.least
  have hFits := hMessage.fits
  have hLen : u16 (word (message ++ rest) 2 - 3) =
      message.length := by
    rw [word_append (by omega), hMessage.field]
    unfold u16 wrap
    omega
  have hStore := storeBytes_eq
    (show message.length +
        [binaryParity message message.length, 0x0d,
          0x0a].length ≤ (message ++ rest).length by
      rw [List.length_append]
      exact Nat.add_le_add_left hRoom _)
  have hMemory : (message ++ rest).take message.length ++
      [binaryParity message message.length, 0x0d, 0x0a] ++
        (message ++ rest).drop (message.length +
          [binaryParity message message.length, 0x0d,
            0x0a].length) =
      closed message ++ rest.drop 3 := by
    rw [List.take_left, List.drop_append,
      List.drop_of_length_le (Nat.le_add_right _ _),
      Nat.add_sub_cancel_left]
    rfl
  have hWhole : u16 (message.length + 3 : Nat) =
      message.length + 3 :=
    wrap_natCast_of_lt (by omega)
  rw [hMemory] at hStore
  simp only [cmdSend, hLen]
  rw [parityLoop_eq_binaryParity (by omega)
      (by rw [List.length_append]; omega),
    binaryParity_append (by omega), hStore,
    Option.bind_eq_bind, Option.bind_some, gpsSend, hWhole,
    List.take_left' (length_closed message)]

theorem headed_closed
    (hMessage : Message cmd message)
    (behind : List UInt8) :
    cmdBinaryHeader <+: closed message ++ behind :=
  hMessage.header.trans
    ((List.prefix_append _ _).trans (List.prefix_append _ _))

/- The fields of a message stay where they are. -/
theorem word_closed
    {i : Nat}
    (hInside : i + 1 < message.length)
    (behind : List UInt8) :
    word (closed message ++ behind) i = word message i := by
  unfold closed
  rw [List.append_assoc, word_append hInside]

/- Its parity is right, whatever stands behind it. -/
theorem parityCorrect_closed
    (hMessage : Message cmd message)
    (behind : List UInt8) :
    ParityCorrect (closed message ++ behind) := by
  have hLeast := hMessage.least
  have hFits := hMessage.fits
  have hLength := length_closed message
  have hBinary :=
    isBinary_iff.mpr (headed_closed hMessage behind)
  have hLen : u16 (word (closed message ++ behind) 2 - 3) =
      message.length := by
    rw [word_closed (by omega), hMessage.field]
    unfold u16 wrap
    omega
  have hCancel := @checksum_binary_sent message
    (crlf ++ behind) message.length (by omega) (le_refl _)
  have hShape : closed message ++ behind =
      message ++ binaryParity message message.length ::
        (crlf ++ behind) := by
    simp [closed]
  rw [List.take_length, ← hShape] at hCancel
  rw [ParityCorrect, hBinary]
  exact (checkParityBinary_iff hLen (by omega)
    (by rw [List.length_append]; omega)).mpr hCancel

theorem ackNumber_closed
    (hMessage : Message cmd message)
    (behind : List UInt8) :
    ackNumber (closed message ++ behind) = cmd.code := by
  have hLeast := hMessage.least
  rw [ackNumber, isBinary_iff.mpr (headed_closed hMessage behind),
    if_pos rfl, word_closed (by omega), hMessage.cmd]

end Gps

namespace Gps

theorem word_littleEndian
    {n : Nat}
    (hn : n < 65536)
    (rest : List UInt8) :
    word (littleEndian n ++ rest) 0 = n := by
  show (UInt8.ofNat n).toNat +
    256 * (UInt8.ofNat (n / 256)).toNat = n
  simp only [UInt8.toNat_ofNat']
  omega

theorem length_gpdPack
    (index : Nat)
    (pack : Option (List UInt8)) :
    (gpdPack index pack).length = 8 + (pack.getD []).length := by
  simp [gpdPack, cmdBinaryHeader, littleEndian]
  omega

theorem message_gpdPack
    {index : Nat}
    {pack : Option (List UInt8)}
    (hLength : (pack.getD []).length =
      if index = 0xffff then 0 else 512) :
    Message .gpdPack (gpdPack index pack) := by
  have hWhole := length_gpdPack index pack
  constructor
  · exact ⟨_, by
      unfold gpdPack
      simp only [List.append_assoc]
      rfl⟩
  · rw [hWhole, hLength]
    unfold gpdPack
    split
    · rfl
    · rfl
  · rfl
  · omega
  · rw [hWhole, hLength]
    split
    · decide
    · decide

theorem BinaryRequest.isMessage
    (request : BinaryRequest) :
    Message request.cmd request.message := by
  cases request with
  | nmeaMode =>
      exact
        { header := by decide
          field := by decide
          cmd := by decide
          least := by decide
          fits := by decide }
  | gpdPack index hIndex pack =>
      apply message_gpdPack
      have hNat : index.toNat ≠ 0xffff := fun hEq =>
        hIndex (UInt16.toNat_inj.mp hEq)
      rw [if_neg hNat]
      exact pack.length_eq
  | gpdEnd => exact message_gpdPack rfl

theorem BinaryRequest.valid
    (request : BinaryRequest) :
    request.cmd ∈ validCmds := by
  cases request <;> simp [BinaryRequest.cmd, validCmds]

/- The message of a request that is sent. -/
def BinaryRequest.sent (request : BinaryRequest) : List UInt8 :=
  closed request.message

/- A binary request is sent whole, over any stack. -/
theorem BinaryRequest.send_eq
    (request : BinaryRequest)
    {temp : List UInt8}
    (hTemp : temp.length = cmdBufferLength) :
    ∃ rest, (Request.binary request).send temp =
        some
          { str := request.sent ++ rest
            sent := request.sent
            cleared := false } ∧
      request.sent.length + rest.length = cmdBufferLength := by
  have hMessage := request.isMessage
  have hFits := hMessage.fits
  unfold cmdBufferLength at hTemp ⊢
  have hRoom : 3 ≤
      (temp.drop request.message.length).length := by
    rw [List.length_drop]
    omega
  refine ⟨(temp.drop request.message.length).drop 3, ?_, ?_⟩
  · unfold Request.send Request.call
    simp only
    rw [BinaryRequest.call_eq]
    exact cmdSend_message hMessage hRoom
  · unfold BinaryRequest.sent
    rw [length_closed, List.length_drop, List.length_drop]
    omega

end Gps

------------------------------------------------------------
-- All Requests
------------------------------------------------------------

namespace Gps

def Request.sent : Request → List UInt8
  | .nmea request => request.sent
  | .binary request => request.sent

theorem Request.sent_eq
    {request : Request}
    {temp : List UInt8}
    {s : CmdSent}
    (hTemp : temp.length = cmdBufferLength)
    (hSend : request.send temp = some s) :
    s.sent = request.sent := by
  cases request with
  | nmea request =>
      rcases request.send_eq hTemp with ⟨rest, hEq, _⟩
      rw [hEq] at hSend
      cases hSend
      rfl
  | binary request =>
      rcases request.send_eq hTemp with ⟨rest, hEq, _⟩
      rw [hEq] at hSend
      cases hSend
      rfl

end Gps

------------------------------------------------------------
-- No Two Requests Are One Message
------------------------------------------------------------

namespace Gps

theorem completed_inj
    {tail tail' : List UInt8}
    (hSame : completed tail = completed tail') :
    tail = tail' := by
  have hLength := congrArg List.length hSame
  rw [length_completed, length_completed] at hLength
  have hParts := List.append_inj_left hSame
    (by rw [List.length_cons, List.length_cons]; omega)
  exact (List.cons.inj hParts).2

theorem separated_inj
    {args args' : List (List UInt8)}
    (hArgs : ∀ arg ∈ args, IsArg arg)
    (hArgs' : ∀ arg ∈ args', IsArg arg)
    (hSame : Minmea.separated args =
      Minmea.separated args') :
    args = args' := by
  have hBlank : Minmea.IsText [] := fun _ hMem =>
    absurd hMem List.not_mem_nil
  have hSplit := Minmea.splitOn_separated hBlank
    fun arg hArg => (hArgs arg hArg).1
  have hSplit' := Minmea.splitOn_separated hBlank
    fun arg hArg => (hArgs' arg hArg).1
  rw [hSame, hSplit'] at hSplit
  exact (List.cons.inj hSplit).2.symm

theorem NmeaRequest.sent_inj
    {request request' : NmeaRequest}
    (hSame : request.sent = request'.sent) :
    request = request' := by
  have hTails := completed_inj hSame
  unfold nmeaTail at hTails
  have hParts := List.append_inj hTails (by
    rw [List.length_append, List.length_append,
      Decimal.length_padded, Decimal.length_padded])
  have hCode := congrArg (Numeral.value 10)
    (List.append_cancel_left hParts.1)
  rw [Decimal.value_padded_of_lt request.cmd.code_lt,
    Decimal.value_padded_of_lt request'.cmd.code_lt] at hCode
  exact NmeaRequest.eq_of_args (Cmd.code_inj hCode)
    (separated_inj request.isArg request'.isArg hParts.2)

/- The length of a message tells its kind. -/
theorem BinaryRequest.length_message
    (request : BinaryRequest) :
    request.message.length =
      match request with
      | .nmeaMode => 11
      | .gpdPack _ _ _ => 520
      | .gpdEnd => 8 := by
  cases request with
  | nmeaMode => rfl
  | gpdPack index hIndex pack =>
      show (Gps.gpdPack index.toNat (some pack.bytes)).length = 520
      rw [length_gpdPack, Option.getD_some, pack.length_eq]
  | gpdEnd => rfl

/- The two fields of a pack are read back. -/
theorem word_gpdPack
    {index : Nat}
    (hIndex : index < 65536)
    (pack : Option (List UInt8)) :
    word (gpdPack index pack) 6 = index := by
  have hShape : gpdPack index pack =
      (gpdPack index pack).take 6 ++
        (littleEndian index ++ pack.getD []) := by
    unfold gpdPack
    rw [List.append_assoc, List.take_left' (by rfl)]
  have hField := word_littleEndian hIndex (pack.getD [])
  rw [hShape]
  exact hField

theorem drop_gpdPack
    (index : Nat)
    (pack : List UInt8) :
    (gpdPack index (some pack)).drop 8 = pack :=
  List.drop_left' (by rfl)

theorem gpdPack_inj
    {index index' : UInt16}
    {pack pack' : List UInt8}
    (hSame : gpdPack index.toNat (some pack) =
      gpdPack index'.toNat (some pack')) :
    index = index' ∧ pack = pack' := by
  constructor
  · rw [← UInt16.toNat_inj,
      ← word_gpdPack index.toNat_lt (some pack), hSame,
      word_gpdPack index'.toNat_lt]
  · rw [← drop_gpdPack index.toNat pack, hSame, drop_gpdPack]

theorem BinaryRequest.message_inj
    {request request' : BinaryRequest}
    (hSame : request.message = request'.message) :
    request = request' := by
  have hLength := request.length_message
  rw [hSame, request'.length_message] at hLength
  cases request with
  | nmeaMode => cases request' <;> simp_all
  | gpdEnd => cases request' <;> simp_all
  | gpdPack index hIndex pack =>
      cases request' with
      | nmeaMode => simp at hLength
      | gpdEnd => simp at hLength
      | gpdPack index' hIndex' pack' =>
          rcases gpdPack_inj hSame with ⟨rfl, hBytes⟩
          cases pack
          cases pack'
          cases hBytes
          rfl

theorem BinaryRequest.sent_inj
    {request request' : BinaryRequest}
    (hSame : request.sent = request'.sent) :
    request = request' := by
  have hLength := congrArg List.length hSame
  unfold BinaryRequest.sent at hLength hSame
  rw [length_closed, length_closed] at hLength
  exact BinaryRequest.message_inj
    (List.append_inj_left hSame (by omega))

theorem Request.sent_inj
    {request request' : Request}
    (hSame : request.sent = request'.sent) :
    request = request' := by
  have hNotMixed (nmea : NmeaRequest) (binary : BinaryRequest) :
      nmea.sent ≠ binary.sent := by
    intro hMixed
    have hHeader : cmdBinaryHeader <+: nmea.sent := by
      rw [hMixed]
      exact binary.isMessage.header.trans
        (List.prefix_append _ _)
    cases isBinary_iff.mpr hHeader
  cases request with
  | nmea request =>
      cases request' with
      | nmea request' =>
          exact congrArg _ (NmeaRequest.sent_inj hSame)
      | binary request' =>
          exact absurd hSame (hNotMixed _ _)
  | binary request =>
      cases request' with
      | nmea request' =>
          exact absurd hSame.symm (hNotMixed _ _)
      | binary request' =>
          exact congrArg _ (BinaryRequest.sent_inj hSame)

/- What is sent tells the request, whatever the stacks held. -/
theorem request_sent_eq_iff
    {request request' : Request}
    {temp temp' : List UInt8}
    {s s' : CmdSent}
    (hTemp : temp.length = cmdBufferLength)
    (hTemp' : temp'.length = cmdBufferLength)
    (hSend : request.send temp = some s)
    (hSend' : request'.send temp' = some s') :
    s.sent = s'.sent ↔ request = request' := by
  rw [Request.sent_eq hTemp hSend,
    Request.sent_eq hTemp' hSend']
  constructor
  · exact Request.sent_inj
  · rintro rfl
    rfl

/- Two intervals, over two stacks. -/
theorem request_sent_eq_iff_outputInterval :
    ∃ s s',
      (Request.nmea (.outputInterval 1000)).send
          (List.replicate cmdBufferLength 0xcd) = some s ∧
        (Request.nmea (.outputInterval 10000)).send
            (List.replicate cmdBufferLength 0) = some s' ∧
        (s.sent = s'.sent ↔
          Request.nmea (.outputInterval 1000) =
            .nmea (.outputInterval 10000)) := by
  have hTemp (b : UInt8) :
      (List.replicate cmdBufferLength b).length =
        cmdBufferLength :=
    List.length_replicate ..
  rcases NmeaRequest.send_eq (.outputInterval 1000)
      (hTemp 0xcd) with ⟨_, hSend, _⟩
  rcases NmeaRequest.send_eq (.outputInterval 10000)
      (hTemp 0) with ⟨_, hSend', _⟩
  exact ⟨_, _, hSend, hSend',
    request_sent_eq_iff (hTemp 0xcd) (hTemp 0) hSend hSend'⟩

end Gps
