import GpsTracker.Gps.AckReads
import GpsTracker.Gps.CmdSend

/-
  When the decision on an ack reads inside its block.

  A binary ack must hold the byte that its length field
  points to, and then the fields of its kind. An NMEA ack
  must hold a '*' with two characters behind it, and two
  commas with a character behind them, or a NUL that ends
  the search. The later bytes are only asked for where the
  earlier ones let the decision go on.

  Main declarations:
    * `Gps.BinaryInside`, `Gps.NmeaInside`
    * `Gps.ReadsInside`, `Gps.reads_inside_iff`
-/

open CString Machine ListSearch

------------------------------------------------------------
-- Stages
------------------------------------------------------------

/- A stage that can only have one value. -/
theorem isSome_bind_iff_of_value
    {α β : Type}
    {x : Option α}
    {v : α}
    (hValue : ∀ a, x = some a → a = v)
    (f : α → Option β) :
    (x.bind f).isSome = true ↔
      x.isSome = true ∧ (f v).isSome = true := by
  cases hx : x with
  | none => simp
  | some a =>
      have hSame := hValue a hx
      subst hSame
      simp

/- A stage that is left out unless a condition holds. -/
theorem isSome_ite_iff
    {α : Type}
    {condition : Prop}
    [Decidable condition]
    {x : Option α}
    {a : α} :
    (if condition then x else some a).isSome = true ↔
      (condition → x.isSome = true) := by
  by_cases hCondition : condition
  · simp [hCondition]
  · simp [hCondition]

/-
  What a function gives with anything behind a block, it
  gives on the block.
-/
theorem eq_of_forall_behind
    {α : Type}
    {block : List UInt8}
    {v : α}
    (f : List UInt8 → α)
    (hBehind : ∀ behind, f (block ++ behind) = v) :
    v = f block := by
  rw [← hBehind [], List.append_nil]

namespace Gps

variable {ack cmdStr : List UInt8}
variable {cmdSend : Cmd}

theorem eq_getD_of_read
    {i : Nat}
    (b : UInt8)
    (hRead : ack[i]? = some b) :
    b = ack.getD i 0 :=
  eq_of_forall_behind (·.getD i 0) (getD_append_of_read hRead)

/- A read, and what is done with the byte. -/
theorem isSome_read_bind_iff
    {β : Type}
    (i : Nat)
    (f : UInt8 → Option β) :
    ((ack[i]?).bind f).isSome = true ↔
      i < ack.length ∧ (f (ack.getD i 0)).isSome = true := by
  have hInside : (ack[i]?).isSome = true ↔ i < ack.length := by
    simp
  rw [isSome_bind_iff_of_value eq_getD_of_read, hInside]

theorem isSome_wordIn_iff
    (i : Nat) :
    (wordIn ack i).isSome = true ↔ i + 1 < ack.length := by
  simp only [wordIn, Option.bind_eq_bind,
    isSome_read_bind_iff, Option.isSome_some, and_true]
  omega

theorem eq_word_of_read
    {i : Nat}
    (n : Nat)
    (hRead : wordIn ack i = some n) :
    n = word ack i :=
  eq_of_forall_behind (word · i) (word_append_of_read hRead)

/- The search for a character ends inside the block. -/
def SearchEnds
    (c : UInt8)
    (block : List UInt8) : Prop :=
  c ∈ block ∨ 0 ∈ block

theorem isSome_strstrIn_iff
    {c : UInt8}
    (hChar : c ≠ 0)
    (start : Nat) :
    (strstrIn ack start [c]).isSome = true ↔
      SearchEnds c (ack.drop start) := by
  unfold strstrIn SearchEnds
  cases hFind : strstr ack start [c] with
  | some index =>
      rcases (strstr_singleton_eq_some_iff hChar).mp hFind with
        ⟨skipped, rest, hDrop, _⟩
      simp [hDrop]
  | none =>
      by_cases hNul : 0 ∈ ack.drop start
      · simp [hNul]
      · have hAbsent : c ∉ ack.drop start := by
          intro hMem
          rcases List.eq_append_cons_of_mem hMem with
            ⟨skipped, rest, hDrop, hSkipped⟩
          have hFound := (strstr_singleton_eq_some_iff
            hChar).mpr ⟨skipped, rest, hDrop, hSkipped,
              fun hZero => hNul (by
                rw [hDrop]
                exact List.mem_append_left _ hZero), rfl⟩
          rw [hFind] at hFound
          cases hFound
        simp [hNul, hAbsent]

theorem eq_strstr_of_search
    {start : Nat}
    {pattern : List UInt8}
    (hPattern : pattern ≠ [])
    (found : Option Nat)
    (hSearch : strstrIn ack start pattern = some found) :
    found = strstr ack start pattern :=
  eq_of_forall_behind (strstr · start pattern)
    (strstr_append_of_search hPattern hSearch)

end Gps

------------------------------------------------------------
-- The Decision Behind the Parity
------------------------------------------------------------

namespace Gps

variable {ack cmdStr : List UInt8}
variable {cmdSend : Cmd}

/-
  The bytes of a pack ack, as far as the comparison with the
  command goes.
-/
def PackInside (cmdStr ack : List UInt8) : Prop :=
  6 < ack.length ∧
    (cmdStr.getD 6 0 = ack.getD 6 0 →
      7 < ack.length ∧
        (cmdStr.getD 7 0 = ack.getD 7 0 → 8 < ack.length))

theorem isSome_packAckedIn_iff :
    (packAckedIn cmdStr ack).isSome = true ↔
      PackInside cmdStr ack := by
  simp only [packAckedIn, PackInside, Option.bind_eq_bind,
    isSome_read_bind_iff, isSome_ite_iff, Option.isSome_some,
    and_true]

/- The commas of an NMEA ack, and the character behind. -/
structure CommasInside (ack : List UInt8) : Prop where
  first : SearchEnds (byte ',') (ack.drop 5)
  second : ∀ i, strstr ack 5 (ascii ",") = some i →
    SearchEnds (byte ',') (ack.drop (i + 1))
  result : ∀ i j, strstr ack 5 (ascii ",") = some i →
    strstr ack (i + 1) (ascii ",") = some j →
    j + 1 < ack.length

theorem isBinaryIn_eq
    (hTwo : 2 ≤ ack.length) :
    isBinaryIn ack = some (isBinary ack) := by
  have hSome : (isBinaryIn ack).isSome = true := by
    simp only [isBinaryIn, Option.bind_eq_bind,
      isSome_read_bind_iff, isSome_ite_iff,
      Option.isSome_some, and_true]
    exact ⟨by omega, fun _ => by omega⟩
  rcases Option.isSome_iff_exists.mp hSome with
    ⟨binary, hBinary⟩
  have hSame : binary = isBinary ack :=
    eq_of_forall_behind isBinary
      (isBinary_append_of_read hBinary)
  rw [hBinary, hSame]

theorem isSome_ackFieldsIn_of_binary
    (hTwo : 2 ≤ ack.length)
    (hBinary : isBinary ack = true) :
    (ackFieldsIn ack).isSome = true ↔ 8 < ack.length := by
  simp only [ackFieldsIn, isBinaryIn_eq hTwo, hBinary,
    Option.bind_eq_bind, Option.bind_some, if_true]
  rw [isSome_bind_iff_of_value eq_word_of_read,
    isSome_wordIn_iff, isSome_read_bind_iff]
  simp only [Option.isSome_some, and_true]
  omega

theorem strstrIn_header
    (hNmea : cmdHeader <+: ack) :
    strstrIn ack 0 cmdHeader = some (some 0) := by
  rw [strstrIn, (exists_of_nmea hNmea).2]

theorem isSome_ackFieldsIn_of_nmea
    (hNmea : cmdHeader <+: ack) :
    (ackFieldsIn ack).isSome = true ↔ CommasInside ack := by
  have hTwo : 2 ≤ ack.length :=
    (show 2 ≤ cmdHeader.length by decide).trans
      hNmea.length_le
  have hComma : byte ',' ≠ 0 := by decide
  simp only [ackFieldsIn, isBinaryIn_eq hTwo,
    (exists_of_nmea hNmea).1, strstrIn_header hNmea,
    Option.bind_eq_bind, Option.bind_some,
    Bool.false_eq_true, if_false]
  have hFive : 0 + cmdHeader.length = 5 := rfl
  have hSearch (start : Nat) :
      (strstrIn ack start (ascii ",")).isSome = true ↔
        SearchEnds (byte ',') (ack.drop start) :=
    isSome_strstrIn_iff hComma start
  rw [hFive, isSome_bind_iff_of_value
    (eq_strstr_of_search (by decide)), hSearch]
  constructor
  · rintro ⟨hFirst, hRest⟩
    refine ⟨hFirst, ?_, ?_⟩
    · intro i hi
      rw [hi] at hRest
      simp only [isSome_bind_iff_of_value
        (eq_strstr_of_search (show ascii "," ≠ [] by decide)),
        hSearch] at hRest
      exact hRest.1
    · intro i j hi hj
      rw [hi] at hRest
      simp only [isSome_bind_iff_of_value
        (eq_strstr_of_search (show ascii "," ≠ [] by decide)),
        hj, isSome_read_bind_iff] at hRest
      exact hRest.2.1
  · rintro ⟨hFirst, hSecond, hResult⟩
    refine ⟨hFirst, ?_⟩
    cases hi : strstr ack 5 (ascii ",") with
    | none => rfl
    | some i =>
        simp only [isSome_bind_iff_of_value
          (eq_strstr_of_search (show ascii "," ≠ [] by decide)),
          hSearch]
        refine ⟨hSecond i hi, ?_⟩
        cases hj : strstr ack (i + 1) (ascii ",") with
        | none => rfl
        | some j =>
            simp only [isSome_read_bind_iff,
              Option.isSome_some, and_true]
            exact hResult i j hi hj

end Gps

namespace Gps

variable {ack cmdStr : List UInt8}
variable {cmdSend : Cmd}

/- `GPS_SendWaiteNormalAck` once it has the command. -/
def decideIn
    (cmdSend : Cmd)
    (cmdStr ackStr : List UInt8)
    (ackCmd : Cmd) : Option Bool :=
  match ackCmd with
  | .ackGpd => packAckedIn cmdStr ackStr
  | .ack => do
      let result ← ackCheckIn ackStr cmdSend
      some (result == .execSuccess)
  | _ => some false

/- The parity, the command, and then the decision. -/
theorem bind_stages
    {conclude : Cmd × Option (List UInt8) → Option Bool}
    (hFail : conclude (.fail, none) = some false)
    (hAck : ∀ ackCmd, conclude (ackCmd, some ack) =
      decideIn cmdSend cmdStr ack ackCmd)
    (check : Option Bool)
    (command : Option Cmd) :
    (check.bind fun passed =>
        if passed then
          command.bind fun ackCmd => some (ackCmd, some ack)
        else
          some (.fail, none)).bind conclude =
      check.bind fun passed =>
        if passed then
          command.bind (decideIn cmdSend cmdStr ack)
        else
          some false := by
  cases check with
  | none => rfl
  | some passed =>
      cases passed with
      | false => exact hFail
      | true =>
          cases command with
          | none => rfl
          | some ackCmd => exact hAck ackCmd

theorem isSome_decideIn_iff
    {ackCmd : Cmd} :
    (decideIn cmdSend cmdStr ack ackCmd).isSome = true ↔
      (ackCmd = .ack → (ackFieldsIn ack).isSome = true) ∧
        (ackCmd = .ackGpd → PackInside cmdStr ack) := by
  cases ackCmd with
  | ack =>
      cases hFields : ackFieldsIn ack <;>
        simp [decideIn, ackCheckIn, hFields]
  | ackGpd => simp [decideIn, isSome_packAckedIn_iff]
  | _ => simp [decideIn]

end Gps

------------------------------------------------------------
-- Binary Acks
------------------------------------------------------------

namespace Gps

variable {ack cmdStr : List UInt8}
variable {around : Int → UInt8}
variable {cmdSend : Cmd}

/- Where the length field says that the parity is. -/
def parityIndex (ack : List UInt8) : Nat :=
  u16 (word ack 2 - 3)

/- The bytes from the length field on, and their parity. -/
def BinaryPasses (ack : List UInt8) : Prop :=
  ack.getD 2 0 ^^^
      Xor.checksum ((ack.drop 3).take (parityIndex ack - 3)) =
    ack.getD (parityIndex ack) 0

theorem binaryPasses_iff :
    checkParityBinary ack = true ↔ BinaryPasses ack := by
  simp only [checkParityBinary, foldl_range'_getD, beq_iff_eq]
  rfl

/-
  A binary ack holds its length field and its parity. If the
  parity is right it holds the command number, the result of
  a command ack, and the pack index of a pack ack.
-/
structure BinaryInside (cmdStr ack : List UInt8) : Prop where
  field : 3 < ack.length
  parity : parityIndex ack < ack.length
  number : BinaryPasses ack → 5 < ack.length
  result : BinaryPasses ack → word ack 4 = 1 →
    8 < ack.length
  pack : BinaryPasses ack → word ack 4 = 3 →
    PackInside cmdStr ack

theorem isSome_foldlM
    {data : List UInt8}
    (start n : Nat)
    (result : UInt8)
    (hFits : start + n ≤ data.length) :
    ((List.range' start n).foldlM
      (fun result i => (data[i]?).map (result ^^^ ·))
      result).isSome = true := by
  induction n generalizing start result with
  | zero => rfl
  | succ n ih =>
      have hHere : start < data.length := by omega
      rw [List.range'_succ, List.foldlM_cons,
        List.getElem?_eq_getElem hHere]
      exact ih (start + 1) _ (by omega)

theorem isSome_checkParityBinaryIn_iff :
    (checkParityBinaryIn ack).isSome = true ↔
      3 < ack.length ∧ parityIndex ack < ack.length := by
  constructor
  · intro hSome
    simp only [checkParityBinaryIn, Option.bind_eq_bind,
      isSome_read_bind_iff] at hSome
    rw [isSome_bind_iff_of_value eq_word_of_read,
      isSome_wordIn_iff] at hSome
    rcases hSome with ⟨_, hField, hRest⟩
    refine ⟨hField, ?_⟩
    rcases Option.isSome_iff_exists.mp hRest with
      ⟨passed, hPassed⟩
    rcases Option.bind_eq_some_iff.mp hPassed with
      ⟨result, _, hParity⟩
    rcases Option.bind_eq_some_iff.mp hParity with
      ⟨parity, hRead, _⟩
    exact (List.getElem?_eq_some_iff.mp hRead).1
  · rintro ⟨hField, hParity⟩
    simp only [checkParityBinaryIn, Option.bind_eq_bind,
      isSome_read_bind_iff]
    rw [isSome_bind_iff_of_value eq_word_of_read,
      isSome_wordIn_iff]
    refine ⟨by omega, hField, ?_⟩
    have hLoop := isSome_foldlM 3 (parityIndex ack - 3)
      (ack.getD 2 0)
      (show 3 + (parityIndex ack - 3) ≤ ack.length by omega)
    rcases Option.isSome_iff_exists.mp hLoop with
      ⟨result, hResult⟩
    unfold parityIndex at hResult hParity
    rw [hResult, Option.bind_some, isSome_read_bind_iff]
    exact ⟨hParity, rfl⟩

theorem isSome_getAckCmdBinaryIn_iff
    (hTwo : 2 ≤ ack.length)
    (hBinary : isBinary ack = true) :
    (getAckCmdBinaryIn ack).isSome = true ↔
      5 < ack.length := by
  simp only [getAckCmdBinaryIn, isBinaryIn_eq hTwo, hBinary,
    Option.bind_eq_bind, Option.bind_some, if_true]
  rw [isSome_bind_iff_of_value eq_word_of_read,
    isSome_wordIn_iff]
  exact and_iff_left rfl

/- The stages of the decision on a binary ack. -/
theorem sendWaiteNormalAckIn_of_binary
    (hTwo : 2 ≤ ack.length)
    (hBinary : isBinary ack = true) :
    sendWaiteNormalAckIn around cmdSend cmdStr ack =
      (checkParityBinaryIn ack).bind fun passed =>
        if passed then
          (getAckCmdBinaryIn ack).bind
            (decideIn cmdSend cmdStr ack)
        else
          some false := by
  simp only [sendWaiteNormalAckIn, waitedAckIn,
    isBinaryIn_eq hTwo, hBinary, Option.bind_eq_bind,
    Option.bind_some, if_true]
  apply bind_stages
  · rfl
  · intro ackCmd
    cases ackCmd <;> rfl

theorem isSome_of_binary_iff
    (hTwo : 2 ≤ ack.length)
    (hBinary : isBinary ack = true) :
    (sendWaiteNormalAckIn around cmdSend cmdStr
        ack).isSome = true ↔
      BinaryInside cmdStr ack := by
  have hPassed : ∀ passed,
      checkParityBinaryIn ack = some passed →
        passed = checkParityBinary ack :=
    fun _ hRead => eq_of_forall_behind checkParityBinary
      (checkParityBinary_of_read hRead)
  have hCmd : ∀ cmd, getAckCmdBinaryIn ack = some cmd →
      cmd = getAckCmdBinary ack :=
    fun _ hRead => eq_of_forall_behind getAckCmdBinary
      (getAckCmdBinary_of_read hRead)
  have hNumber : ackNumber ack = (word ack 4 : Nat) := by
    rw [ackNumber, hBinary, if_pos rfl]
  have hAck : getAckCmdBinary ack = .ack ↔ word ack 4 = 1 := by
    rw [getAckCmdBinary_eq_iff hBinary (by decide), hNumber]
    exact Nat.cast_inj
  have hAckGpd : getAckCmdBinary ack = .ackGpd ↔
      word ack 4 = 3 := by
    rw [getAckCmdBinary_eq_iff hBinary (by decide), hNumber]
    exact Nat.cast_inj
  rw [sendWaiteNormalAckIn_of_binary hTwo hBinary,
    isSome_bind_iff_of_value hPassed,
    isSome_checkParityBinaryIn_iff, isSome_ite_iff,
    binaryPasses_iff, isSome_bind_iff_of_value hCmd,
    isSome_getAckCmdBinaryIn_iff hTwo hBinary,
    isSome_decideIn_iff, hAck, hAckGpd,
    isSome_ackFieldsIn_of_binary hTwo hBinary]
  constructor
  · rintro ⟨⟨hField, hParity⟩, hRest⟩
    exact
      { field := hField
        parity := hParity
        number := fun hPasses => (hRest hPasses).1
        result := fun hPasses => (hRest hPasses).2.1
        pack := fun hPasses => (hRest hPasses).2.2 }
  · intro hInside
    exact ⟨⟨hInside.field, hInside.parity⟩, fun hPasses =>
      ⟨hInside.number hPasses, hInside.result hPasses,
        hInside.pack hPasses⟩⟩

end Gps

------------------------------------------------------------
-- NMEA Acks
------------------------------------------------------------

namespace Gps

variable {ack cmdStr : List UInt8}
variable {around : Int → UInt8}
variable {cmdSend : Cmd}

/- The character behind the '*' is the first digit. -/
def HighMatches
    (around : Int → UInt8)
    (ack : List UInt8)
    (p : Nat) : Prop :=
  sameHex (hexStrIn around (i8 (parityOf ack p) / 16))
    (ack.getD (p + 1) 0) = true

/- The next one is the second digit. -/
def LowMatches
    (ack : List UInt8)
    (p : Nat) : Prop :=
  upperHex ((parityOf ack p).toNat % 16) =
    ack.getD (p + 2) 0

/-
  An NMEA ack holds a '*' or a NUL before it, a character
  behind the '*', another one if that is the first digit of
  the parity, and what the ack of its number is made of if
  the second digit is right, too.
-/
structure NmeaInside
    (around : Int → UInt8)
    (cmdStr ack : List UInt8) : Prop where
  star : SearchEnds (byte '*') ack
  high : ∀ p, strstr ack 0 (ascii "*") = some p →
    p + 1 < ack.length
  low : ∀ p, strstr ack 0 (ascii "*") = some p →
    HighMatches around ack p → p + 2 < ack.length
  result : ∀ p, strstr ack 0 (ascii "*") = some p →
    HighMatches around ack p → LowMatches ack p →
    ackNumber ack = 1 → CommasInside ack
  pack : ∀ p, strstr ack 0 (ascii "*") = some p →
    HighMatches around ack p → LowMatches ack p →
    ackNumber ack = 3 → PackInside cmdStr ack

/- The '*' stands behind the header. -/
theorem five_le_of_star
    (hNmea : cmdHeader <+: ack)
    {p : Nat}
    (hStar : strstr ack 0 (ascii "*") = some p) :
    5 ≤ p := by
  rcases (strstr_singleton_eq_some_iff (by decide)).mp hStar
    with ⟨before, digits, hAck, _, _, rfl⟩
  rcases hNmea with ⟨rest, rfl⟩
  by_contra hEarly
  have hLess : before.length < cmdHeader.length := by
    show before.length < 5
    omega
  have hAll : ∀ k < cmdHeader.length,
      cmdHeader.getD k 0 ≠ byte '*' := by
    decide
  apply hAll before.length hLess
  rw [← List.getD_append cmdHeader rest 0 _ hLess]
  rw [List.drop_zero] at hAck
  rw [hAck, List.getD_append_right _ _ _ _ (Nat.le_refl _),
    Nat.sub_self]
  rfl

theorem checkParityIn_of_star
    {p : Nat}
    (hStar : strstr ack 0 (ascii "*") = some p)
    (hp : 2 ≤ p) :
    checkParityIn around (some ack) =
      (ack[p + 1]?).bind fun high =>
        if sameHex
            (hexStrIn around (i8 (parityOf ack p) / 16))
            high then
          (ack[p + 2]?).bind fun low =>
            some (sameHex (hexStrIn around
              ((parityOf ack p).toNat % 16 : Nat)) low)
        else
          some false := by
  have hSearch : strstrIn ack 0 (ascii "*") = some (some p) := by
    rw [strstrIn, hStar]
  rcases exists_parts_of_star hStar hp with
    ⟨first, second, body, digits, rfl, ⟨hClear, _⟩, rfl⟩
  have hBody : byte '*' ∉ body := by
    simp only [List.mem_cons, not_or] at hClear
    exact hClear.2.2
  have hParity : parityOf (first :: second :: body ++
      byte '*' :: digits) (body.length + 2) =
        Xor.checksum (second :: body) := by
    simp [parityOf]
  have hDigits (k : Nat) : (first :: second :: body ++
      byte '*' :: digits)[body.length + 2 + (k + 1)]? =
        digits[k]? := by
    have hLength : (first :: second :: body).length =
        body.length + 2 := rfl
    rw [List.getElem?_append_right (by omega), hLength,
      Nat.add_sub_cancel_left, List.getElem?_cons_succ]
  have hSecond : (first :: second :: body ++
      byte '*' :: digits)[1]? = some second := rfl
  rw [hParity, hDigits 0, hDigits 1]
  simp only [checkParityIn, hSearch, hSecond,
    parityLoop_parts hBody, Option.bind_eq_bind,
    Option.bind_some]

/- The stages of the decision on an NMEA ack with a '*'. -/
theorem sendWaiteNormalAckIn_of_nmea
    (hNmea : cmdHeader <+: ack) :
    sendWaiteNormalAckIn around cmdSend cmdStr ack =
      (checkParityIn around (some ack)).bind fun passed =>
        if passed then
          (getAckCmdIn ack).bind (decideIn cmdSend cmdStr ack)
        else
          some false := by
  have hTwo : 2 ≤ ack.length :=
    (show 2 ≤ cmdHeader.length by decide).trans
      hNmea.length_le
  simp only [sendWaiteNormalAckIn, waitedAckIn,
    isBinaryIn_eq hTwo, (exists_of_nmea hNmea).1,
    strstrIn_header hNmea, Option.bind_eq_bind,
    Option.bind_some, Bool.false_eq_true, if_false,
    Option.map_some, List.drop_zero]
  apply bind_stages
  · rfl
  · intro ackCmd
    cases ackCmd <;> rfl

theorem isSome_getAckCmdIn
    (hNmea : cmdHeader <+: ack)
    (hLength : 7 < ack.length) :
    (getAckCmdIn ack).isSome = true := by
  simp only [getAckCmdIn, strstrIn_header hNmea,
    Option.bind_eq_bind, Option.bind_some,
    isSome_read_bind_iff, Option.isSome_some, and_true]
  omega

/- What happens behind the parity of an NMEA ack. -/
theorem isSome_behind_parity_iff
    (hNmea : cmdHeader <+: ack)
    (hLength : 7 < ack.length) :
    ((getAckCmdIn ack).bind
        (decideIn cmdSend cmdStr ack)).isSome = true ↔
      (ackNumber ack = 1 → CommasInside ack) ∧
        (ackNumber ack = 3 → PackInside cmdStr ack) := by
  have hCmd : ∀ cmd, getAckCmdIn ack = some cmd →
      cmd = getAckCmd ack :=
    fun _ hRead => eq_of_forall_behind getAckCmd
      (getAckCmd_of_read hRead)
  have hAck : getAckCmd ack = .ack ↔ ackNumber ack = 1 :=
    getAckCmd_eq_iff hNmea (by decide)
  have hAckGpd : getAckCmd ack = .ackGpd ↔
      ackNumber ack = 3 :=
    getAckCmd_eq_iff hNmea (by decide)
  rw [isSome_bind_iff_of_value hCmd, isSome_decideIn_iff, hAck,
    hAckGpd, isSome_ackFieldsIn_of_nmea hNmea]
  exact and_iff_right (isSome_getAckCmdIn hNmea hLength)

theorem isSome_of_star_iff
    (hNmea : cmdHeader <+: ack)
    {p : Nat}
    (hStar : strstr ack 0 (ascii "*") = some p) :
    (sendWaiteNormalAckIn around cmdSend cmdStr
        ack).isSome = true ↔
      p + 1 < ack.length ∧
        (HighMatches around ack p → p + 2 < ack.length ∧
          (LowMatches ack p →
            (ackNumber ack = 1 → CommasInside ack) ∧
              (ackNumber ack = 3 →
                PackInside cmdStr ack))) := by
  have hp := five_le_of_star hNmea hStar
  have hLow (low : UInt8) : sameHex (hexStrIn around
      ((parityOf ack p).toNat % 16 : Nat)) low =
        (upperHex ((parityOf ack p).toNat % 16) == low) := by
    have hDigit := hexStr_of_lt
      (n := (parityOf ack p).toNat % 16) (by omega)
    rw [hexStrIn, hDigit, Option.getD_some,
      sameHex_of_mem (mem_hexDigits_of_hexStr hDigit)]
  rw [sendWaiteNormalAckIn_of_nmea hNmea,
    checkParityIn_of_star hStar (by omega), Option.bind_assoc,
    isSome_read_bind_iff]
  unfold HighMatches LowMatches
  apply and_congr_right
  intro _
  by_cases hHigh : sameHex
      (hexStrIn around (i8 (parityOf ack p) / 16))
      (ack.getD (p + 1) 0) = true
  · rw [if_pos hHigh, Option.bind_assoc, isSome_read_bind_iff,
      Option.bind_some, isSome_ite_iff, hLow, beq_iff_eq]
    simp only [hHigh, true_implies]
    apply and_congr_right
    intro hLength
    rw [isSome_behind_parity_iff hNmea (by omega)]
  · rw [if_neg hHigh]
    exact iff_of_true rfl fun hSame => absurd hSame hHigh

/- What the ack holds, by its first '*'. -/
theorem nmeaInside_of_star_iff
    {p : Nat}
    (hStar : strstr ack 0 (ascii "*") = some p) :
    NmeaInside around cmdStr ack ↔
      p + 1 < ack.length ∧
        (HighMatches around ack p → p + 2 < ack.length ∧
          (LowMatches ack p →
            (ackNumber ack = 1 → CommasInside ack) ∧
              (ackNumber ack = 3 →
                PackInside cmdStr ack))) := by
  have hEnds : SearchEnds (byte '*') ack := by
    apply (isSome_strstrIn_iff (show byte '*' ≠ 0 by decide)
      0).mp
    have hSearch : strstrIn ack 0 [byte '*'] = some (some p) := by
      rw [strstrIn, show strstr ack 0 [byte '*'] = some p from
        hStar]
    rw [hSearch]
    rfl
  have hOnly : ∀ q, strstr ack 0 (ascii "*") = some q →
      q = p := by
    intro q hq
    rw [hStar] at hq
    exact (Option.some.inj hq).symm
  constructor
  · intro hInside
    exact ⟨hInside.high p hStar, fun hFirst =>
      ⟨hInside.low p hStar hFirst, fun hSecond =>
        ⟨hInside.result p hStar hFirst hSecond,
          hInside.pack p hStar hFirst hSecond⟩⟩⟩
  · rintro ⟨hHigh, hRest⟩
    constructor
    · exact hEnds
    · intro q hq
      rw [hOnly q hq]
      exact hHigh
    · intro q hq
      rw [hOnly q hq]
      exact fun hFirst => (hRest hFirst).1
    · intro q hq
      rw [hOnly q hq]
      exact fun hFirst hSecond =>
        ((hRest hFirst).2 hSecond).1
    · intro q hq
      rw [hOnly q hq]
      exact fun hFirst hSecond =>
        ((hRest hFirst).2 hSecond).2

/- Without a '*' the search must end, nothing else is read. -/
theorem nmeaInside_of_no_star_iff
    (hStar : strstr ack 0 (ascii "*") = none) :
    NmeaInside around cmdStr ack ↔
      SearchEnds (byte '*') ack := by
  have hNever (p : Nat) :
      strstr ack 0 (ascii "*") ≠ some p := by
    rw [hStar]
    exact Option.some_ne_none p ∘ Eq.symm
  constructor
  · exact fun hInside => hInside.star
  · intro hEnds
    exact
      { star := hEnds
        high := fun p hp => absurd hp (hNever p)
        low := fun p hp => absurd hp (hNever p)
        result := fun p hp => absurd hp (hNever p)
        pack := fun p hp => absurd hp (hNever p) }

/- The check fails, if its search ends. -/
theorem isSome_of_no_star_iff
    (hNmea : cmdHeader <+: ack)
    (hStar : strstr ack 0 (ascii "*") = none) :
    (sendWaiteNormalAckIn around cmdSend cmdStr
        ack).isSome = true ↔
      SearchEnds (byte '*') ack := by
  have hEnds : (strstrIn ack 0 (ascii "*")).isSome = true ↔
      SearchEnds (byte '*') ack :=
    isSome_strstrIn_iff (by decide) 0
  have hValue : ∀ found,
      strstrIn ack 0 (ascii "*") = some found →
        found = none := by
    intro found hSearch
    rw [eq_strstr_of_search (by decide) found hSearch, hStar]
  simp only [sendWaiteNormalAckIn_of_nmea hNmea,
    checkParityIn, Option.bind_eq_bind, Option.bind_assoc]
  rw [isSome_bind_iff_of_value hValue, hEnds]
  exact and_iff_left rfl

theorem isSome_of_nmea_iff
    (hNmea : cmdHeader <+: ack) :
    (sendWaiteNormalAckIn around cmdSend cmdStr
        ack).isSome = true ↔
      NmeaInside around cmdStr ack := by
  cases hStar : strstr ack 0 (ascii "*") with
  | none =>
      rw [isSome_of_no_star_iff hNmea hStar,
        nmeaInside_of_no_star_iff hStar]
  | some p =>
      rw [isSome_of_star_iff hNmea hStar,
        nmeaInside_of_star_iff hStar]

end Gps

------------------------------------------------------------
-- Both Kinds
------------------------------------------------------------

namespace Gps

variable {ack : List UInt8}

/- The bytes that the decision on an ack asks for. -/
def ReadsInside
    (around : Int → UInt8)
    (cmdStr ack : List UInt8) : Prop :=
  if isBinary ack then
    BinaryInside cmdStr ack
  else
    NmeaInside around cmdStr ack

/-
  The decision on an ack reads no byte outside of the block
  exactly when the block holds what the ack asks for.
-/
theorem reads_inside_iff
    (hHeaded : Headed ack)
    (around : Int → UInt8)
    (cmdSend : Cmd)
    (cmdStr : List UInt8) :
    (sendWaiteNormalAckIn around cmdSend cmdStr
        ack).isSome = true ↔
      ReadsInside around cmdStr ack := by
  unfold ReadsInside
  cases hBinary : isBinary ack with
  | true =>
      have hTwo : 2 ≤ ack.length :=
        (isBinary_iff.mp hBinary).length_le
      rw [if_pos rfl]
      exact isSome_of_binary_iff hTwo hBinary
  | false =>
      rw [if_neg Bool.false_ne_true]
      exact isSome_of_nmea_iff (headed_cases hHeaded hBinary)

/- The ack of a reboot command has all that it is asked for. -/
theorem reads_inside_reboot :
    ReadsInside (fun _ => 0) []
      (ascii "$PGKC001,30,3*1E\r\n") :=
  (reads_inside_iff (Or.inl (by decide)) (fun _ => 0)
    .reboot []).mp (by decide)

/- A line of noise that is handed over as an ack. -/
theorem handedOver_header_line :
    ∃ result,
      Updates true bootInFlight (ascii "$PGKC\r\n") result ∧
        HandedOver (ascii "$PGKC\r\n") result := by
  have hReceived := received_bootInFlight
    (show (ascii "$PGKC\r\n").length <
      dataBufferMaxLength by decide)
  have hFirst : FirstAck (ascii "$PGKC\r\n") 0 7 :=
    { ack := .nmea (by decide) (by decide)
      first := fun _ _ _ => Nat.zero_le _ }
  rw [updates_handedOver_iff rfl, hReceived]
  exact (takes_iff_extractable hFirst).mpr
    ⟨by decide, Or.inl ⟨by decide, by decide⟩⟩

/-
  The search for the '*' of a line that has none does not
  end in the block that was handed over.
-/
theorem star_searched_outside :
    ∃ result,
      Updates true bootInFlight (ascii "$PGKC\r\n") result ∧
        HandedOver (ascii "$PGKC\r\n") result ∧
        ∀ around cmdSend cmdStr,
          sendWaiteNormalAckIn around cmdSend cmdStr
            (ascii "$PGKC\r\n") = none := by
  rcases handedOver_header_line with
    ⟨result, hUpdates, hHanded⟩
  refine ⟨result, hUpdates, hHanded, ?_⟩
  intro around cmdSend cmdStr
  have hNmea : cmdHeader <+: ascii "$PGKC\r\n" := by decide
  rw [sendWaiteNormalAckIn_of_nmea hNmea]
  rfl

end Gps
