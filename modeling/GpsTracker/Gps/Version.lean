import GpsTracker.Gps.AckSound
import GpsTracker.Utils.Socket

/-
  `GPS_GetVersion` of `libs/gps/src/gps.c`.

  The version is the field behind the first comma of the
  ack, up to the next '*'. The function copies from the
  comma on, and searches for the '*' before it has checked
  that there is a comma.

  Main declarations:
    * `Gps.getVersion`, `Gps.VersionField`
    * `Gps.versionOf_freed`
    * `Gps.VersionExact`
    * `Gps.versionExact_iff`
-/

open CString ListSearch

------------------------------------------------------------
-- The Function
------------------------------------------------------------

namespace Gps

/-
  What `GPS_GetVersion` leaves behind: its value, the `len`
  bytes at `version`, `gpsAckMsg`, and how often the block of
  the ack has been freed.
-/
structure VersionResult where
  value : Bool
  version : List UInt8
  gpsAckMsg : Option (List UInt8)
  frees : Nat
deriving DecidableEq

/- Both exits free the ack. -/
def versionExit
    (value : Bool)
    (version : List UInt8) : VersionResult :=
  { value := value
    version := version
    gpsAckMsg := none
    frees := 1 }

/- `snprintf(version, len, "%s", index)` -/
def storeVersion (version index : List UInt8) : List UInt8 :=
  if version = [] then [] else snprintf version index

/-
  `GPS_GetVersion` behind `GPS_SendCMDWaitAck`, which has
  returned `ackCmd` and stored `ackStr`. There is no result
  when `strstr` is called on a null pointer.
-/
def versionOf
    (version : List UInt8)
    (ackCmd : Cmd)
    (ackStr : Option (List UInt8)) :
    Option VersionResult :=
  if ackCmd ≠ .ackVersion then
    some (versionExit false version)
  else do
    let ackStr ← ackStr
    let index ← strstr ackStr 0 (ascii ",")
    match strstr ackStr index (ascii "*") with
    | none => some (versionExit false version)
    | some index2 =>
        let ackStr := ackStr.set index2 0
        some (versionExit true
          (storeVersion version
            (text (ackStr.drop index))))

/-
  `GPS_GetVersion`, behind a wake-up that is no time-out;
  `len` is the length of `version`.
-/
def getVersion
    (version gpsAckMsg : List UInt8) :
    Option VersionResult := do
  let (ackCmd, ackStr) ← waitedAck gpsAckMsg
  versionOf version ackCmd ackStr

end Gps

------------------------------------------------------------
-- The Version Field
------------------------------------------------------------

namespace Gps

/-
  The text of the ack strictly between its first comma and
  the '*' behind it.
-/
def VersionField (ack field : List UInt8) : Prop :=
  ∃ before behind,
    ack = before ++ byte ',' :: (field ++ byte '*' :: behind) ∧
      byte ',' ∉ before ∧ 0 ∉ before ∧
      byte '*' ∉ field ∧ 0 ∉ field

/- What stands in the ack when the version is copied. -/
theorem text_drop_set_star
    (before behind : List UInt8)
    {field : List UInt8}
    (hNul : 0 ∉ field) :
    text (((before ++ byte ',' ::
          (field ++ byte '*' :: behind)).set
        (before.length + (field.length + 1)) 0).drop
          before.length) =
      byte ',' :: field := by
  have hSet :
      (before ++ byte ',' ::
          (field ++ byte '*' :: behind)).set
        (before.length + (field.length + 1)) 0 =
      before ++ ((byte ',' :: field) ++ 0 :: behind) := by
    rw [List.set_append_right _ _ (by omega)]
    simp
  rw [hSet, List.drop_left]
  apply text_append_nul
  intro hMem
  rcases List.mem_cons.mp hMem with hComma | hMem
  · exact absurd hComma (by decide)
  · exact hNul hMem

/- A string is copied as far as the buffer has room. -/
theorem text_storeVersion
    (version : List UInt8)
    {index : List UInt8}
    (hNul : 0 ∉ index) :
    text (storeVersion version index) =
      index.take (version.length - 1) := by
  unfold storeVersion
  split
  · next hEmpty =>
      subst hEmpty
      rfl
  · exact text_snprintf version hNul

end Gps

------------------------------------------------------------
-- The Three Cases
------------------------------------------------------------

namespace Gps

variable {version ack : List UInt8}

/- Both exits, after any answer, free the ack once. -/
theorem versionOf_freed
    {ackCmd : Cmd}
    {ackStr : Option (List UInt8)}
    {result : VersionResult}
    (hResult : versionOf version ackCmd ackStr =
      some result) :
    result.gpsAckMsg = none ∧ result.frees = 1 := by
  unfold versionOf at hResult
  split at hResult
  · cases hResult
    exact ⟨rfl, rfl⟩
  · simp only [Option.bind_eq_bind, Option.bind_eq_some_iff]
      at hResult
    rcases hResult with ⟨ackStr, _, index, _, hStar⟩
    split at hStar
    · cases hStar
      exact ⟨rfl, rfl⟩
    · cases hStar
      exact ⟨rfl, rfl⟩

/- The field is copied together with the comma before it. -/
theorem versionOf_of_field
    {field : List UInt8}
    (hField : VersionField ack field) :
    versionOf version .ackVersion (some ack) =
      some (versionExit true
        (storeVersion version (byte ',' :: field))) := by
  rcases hField with
    ⟨before, behind, rfl, hComma, hBefore, hStar, hNul⟩
  have hIndex :
      strstr (before ++ byte ',' ::
          (field ++ byte '*' :: behind)) 0 (ascii ",") =
        some before.length := by
    apply (strstr_singleton_eq_some_iff (by decide)).mpr
    exact ⟨before, _, rfl, hComma, hBefore,
      (Nat.zero_add _).symm⟩
  have hIndex2 :
      strstr (before ++ byte ',' ::
          (field ++ byte '*' :: behind)) before.length
          (ascii "*") =
        some (before.length + (field.length + 1)) := by
    apply (strstr_singleton_eq_some_iff (by decide)).mpr
    refine ⟨byte ',' :: field, behind, List.drop_left,
      ?_, ?_, rfl⟩
    · simpa using ⟨by decide, hStar⟩
    · simpa using ⟨by decide, hNul⟩
  simp only [versionOf, ne_eq, not_true_eq_false, if_false,
    Option.bind_eq_bind, Option.bind_some, hIndex, hIndex2,
    text_drop_set_star before behind hNul]

/- Without a comma `strstr` is called on a null pointer. -/
theorem versionOf_of_no_comma
    (hComma : byte ',' ∉ text ack) :
    versionOf version .ackVersion (some ack) = none := by
  have hNone : strstr ack 0 (ascii ",") = none := by
    rw [strstr, List.drop_zero, Option.map_eq_none_iff,
      find_eq_none_iff]
    exact fun hOccurs =>
      hComma (occurs_singleton_iff.mp hOccurs)
  simp [versionOf, hNone]

/- Without a '*' behind the comma the function fails. -/
theorem versionOf_of_no_field
    (hComma : byte ',' ∈ text ack)
    (hNone : ∀ field, ¬ VersionField ack field) :
    versionOf version .ackVersion (some ack) =
      some (versionExit false version) := by
  rcases exists_find_of_occurs
      (occurs_singleton_iff.mpr hComma) with ⟨index, hFind⟩
  have hIndex : strstr ack 0 (ascii ",") = some index := by
    rw [strstr, List.drop_zero]
    show (find [byte ','] (text ack)).map (0 + ·) = some index
    rw [hFind]
    simp
  have hIndex2 : strstr ack index (ascii "*") = none := by
    rw [Option.eq_none_iff_forall_not_mem]
    intro index2 hStar
    rcases (strstr_singleton_eq_some_iff (by decide)).mp hIndex
      with ⟨before, rest, hAck, hBefore, hNul, hLength⟩
    rcases (strstr_singleton_eq_some_iff (by decide)).mp hStar
      with ⟨skipped, behind, hDrop, hSkipped, hZero, _⟩
    rw [List.drop_zero] at hAck
    rw [Nat.zero_add] at hLength
    subst hAck hLength
    rw [List.drop_left] at hDrop
    cases skipped with
    | nil =>
        have hByte := (List.cons.inj hDrop).1
        exact absurd hByte (by decide)
    | cons comma field =>
        rw [List.cons_append, List.cons.injEq] at hDrop
        rcases hDrop with ⟨rfl, rfl⟩
        rw [List.mem_cons, not_or] at hSkipped hZero
        exact hNone field ⟨before, behind, rfl, hBefore, hNul,
          hSkipped.2, hZero.2⟩
  simp [versionOf, hIndex, hIndex2]

end Gps

------------------------------------------------------------
-- Exact Versions
------------------------------------------------------------

namespace Gps

variable {version ack : List UInt8}

/-
  No search is made on a null pointer; the value says
  whether the ack has a version field, which is then stored
  as far as there is room; and the ack is freed.
-/
def VersionExact (version ack : List UInt8) : Prop :=
  ∃ result,
    getVersion version ack = some result ∧
      (result.value = true ↔
        ∃ field, VersionField ack field) ∧
      (∀ field, VersionField ack field →
        text result.version =
          field.take (version.length - 1)) ∧
      result.gpsAckMsg = none ∧ result.frees = 1

/- A comma in front shows, unless commas follow it. -/
theorem take_cons_eq_take_iff
    {c : UInt8}
    {n : Nat}
    {field : List UInt8} :
    (c :: field).take n = field.take n ↔
      List.replicate n c <+: field := by
  induction n generalizing field with
  | zero => simp
  | succ n ih =>
      cases field with
      | nil => simp [List.replicate_succ]
      | cons b field =>
          rw [List.replicate_succ, List.cons_prefix_cons,
            List.take_succ_cons, List.take_succ_cons,
            List.cons.injEq]
          apply and_congr_right
          rintro rfl
          exact ih

theorem getVersion_eq
    (hHeaded : Headed ack)
    (hParity : ParityCorrect ack)
    (hNumber : ackNumber ack = Cmd.ackVersion.code) :
    getVersion version ack =
      versionOf version .ackVersion (some ack) := by
  rcases waitedAck_of_parity hHeaded hParity with
    ⟨ackCmd, hWaited, hCmd⟩
  have hAckCmd : ackCmd = .ackVersion :=
    (hCmd .ackVersion (by decide)).mpr hNumber
  rw [getVersion, hWaited, hAckCmd]
  rfl

/-
  `GPS_GetVersion` is exact for the acks with a comma whose
  version field, if there is one, begins with as many commas
  as the buffer has room for.
-/
theorem versionExact_iff
    (hHeaded : Headed ack)
    (hParity : ParityCorrect ack)
    (hNumber : ackNumber ack = Cmd.ackVersion.code) :
    VersionExact version ack ↔
      byte ',' ∈ text ack ∧
        ∀ field, VersionField ack field →
          List.replicate (version.length - 1) (byte ',') <+:
            field := by
  have hText (field : List UInt8)
      (hField : VersionField ack field) :
      text (storeVersion version (byte ',' :: field)) =
          field.take (version.length - 1) ↔
        List.replicate (version.length - 1) (byte ',') <+:
          field := by
    have hNul : 0 ∉ byte ',' :: field := by
      rcases hField with ⟨_, _, _, _, _, _, hNul⟩
      simpa using ⟨by decide, hNul⟩
    rw [text_storeVersion version hNul, take_cons_eq_take_iff]
  unfold VersionExact
  rw [getVersion_eq hHeaded hParity hNumber]
  constructor
  · rintro ⟨result, hResult, _, hStored, _⟩
    constructor
    · by_contra hComma
      rw [versionOf_of_no_comma hComma] at hResult
      cases hResult
    · intro field hField
      have hHere := hStored field hField
      rw [versionOf_of_field hField] at hResult
      rw [← Option.some.inj hResult] at hHere
      exact (hText field hField).mp hHere
  · rintro ⟨hComma, hRoom⟩
    by_cases hSome : ∃ field, VersionField ack field
    · rcases hSome with ⟨field, hField⟩
      refine ⟨_, versionOf_of_field hField, ?_, ?_, rfl, rfl⟩
      · exact iff_of_true rfl ⟨field, hField⟩
      · intro field' hField'
        -- the function has copied this field
        have hSame :=
          @versionOf_of_field version ack field hField
        rw [versionOf_of_field hField'] at hSame
        have hStored := congrArg VersionResult.version
          (Option.some.inj hSame)
        rw [← hStored]
        exact (hText field' hField').mpr
          (hRoom field' hField')
    · have hNone := not_exists.mp hSome
      refine ⟨_, versionOf_of_no_field hComma hNone, ?_, ?_,
        rfl, rfl⟩
      · exact iff_of_false Bool.false_ne_true hSome
      · intro field hField
        exact absurd hField (hNone field)

/- The ack with the version of a module. -/
def versionAck : List UInt8 :=
  ascii "$PGKC463,GOKE9501_1.3_17101100*22\r\n"

theorem versionExact_iff_goke :
    VersionExact (List.replicate 150 0) versionAck ↔
      byte ',' ∈ text versionAck ∧
        ∀ field, VersionField versionAck field →
          List.replicate
              ((List.replicate 150 (0 : UInt8)).length - 1)
              (byte ',') <+:
            field :=
  versionExact_iff (Or.inl (by decide)) (by decide)
    (by decide)

/-
  The version begins with the comma, and an ack without one
  is searched from a null pointer.
-/
theorem version_not_exact :
    (Headed versionAck ∧ ParityCorrect versionAck ∧
        ackNumber versionAck = 463 ∧
        ¬ VersionExact (List.replicate 150 0) versionAck) ∧
      Headed (ascii "$PGKC463*2E\r\n") ∧
        ParityCorrect (ascii "$PGKC463*2E\r\n") ∧
        ackNumber (ascii "$PGKC463*2E\r\n") = 463 ∧
        ¬ VersionExact (List.replicate 150 0)
          (ascii "$PGKC463*2E\r\n") := by
  have hGoke : Headed versionAck := Or.inl (by decide)
  have hBare : Headed (ascii "$PGKC463*2E\r\n") :=
    Or.inl (by decide)
  refine ⟨⟨hGoke, by decide, by decide, ?_⟩,
    hBare, by decide, by decide, ?_⟩
  · rintro ⟨result, hResult, _, hStored, _⟩
    have hField : VersionField versionAck
        (ascii "GOKE9501_1.3_17101100") :=
      ⟨ascii "$PGKC463", ascii "22\r\n", by decide, by decide,
        by decide, by decide, by decide⟩
    have hHere := hStored _ hField
    rw [getVersion_eq hGoke (by decide) (by decide),
      versionOf_of_field hField] at hResult
    rw [← Option.some.inj hResult] at hHere
    rw [versionExit, text_storeVersion _ (by decide),
      List.length_replicate] at hHere
    exact absurd hHere (by decide)
  · rintro ⟨result, hResult, _⟩
    rw [getVersion_eq hBare (by decide) (by decide),
      versionOf_of_no_comma (by decide)] at hResult
    cases hResult

end Gps
