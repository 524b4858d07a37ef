import GpsTracker.Minmea.WrittenFields

/-
  The lines that a receiver writes.

  A line has the talker and the type, the fields, a checksum
  and a newline. It is accepted if it is not too long, and
  the fields are those that were written.

  Main declarations:
    * `Minmea.line`, `Minmea.check_line`
    * `Minmea.fields_line`, `Minmea.readFields_t`
    * `Minmea.Fix`, `Minmea.fixFields`
-/

open CString Stdlib

------------------------------------------------------------
-- Lines
------------------------------------------------------------

namespace Minmea

/- The two letters of the talker that writes the line. -/
structure Talker where
  first : Letter
  second : Letter

/- A digit of a checksum. -/
def hexDigit (n : Nat) : UInt8 :=
  (ascii "0123456789ABCDEF").getD n 0

/- Each field stands behind a comma. -/
def separated
    (fields : List (List UInt8)) : List UInt8 :=
  fields.flatMap (byte ',' :: ·)

/- What the checksum of a line covers. -/
def body
    (talker : Talker)
    (type : List UInt8)
    (fields : List (List UInt8)) : List UInt8 :=
  talker.first.val :: talker.second.val ::
    (type ++ separated fields)

def line
    (talker : Talker)
    (type : List UInt8)
    (fields : List (List UInt8)) : List UInt8 :=
  let body := body talker type fields
  let sum := (Xor.checksum body).toNat
  byte '$' :: (body ++
    byte '*' :: hexDigit (sum / 16) :: hexDigit (sum % 16) ::
      crlf)

theorem digit?_hexDigit
    {n : Nat}
    (hn : n < 16) :
    Numeral.digit? (hexDigit n) = some n := by
  have hAll : ∀ n : Fin 16,
      Numeral.digit? (hexDigit n) = some n.val := by
    decide +kernel
  exact hAll ⟨n, hn⟩

theorem spells_hexDigit
    (sum : UInt8) :
    Spells (hexDigit (sum.toNat / 16))
      (hexDigit (sum.toNat % 16)) sum := by
  have hLess := sum.toNat_lt
  rw [spells_iff_digits]
  exact ⟨sum.toNat / 16, sum.toNat % 16,
    digit?_hexDigit (by omega), by omega,
    digit?_hexDigit (by omega), by omega, by omega⟩

variable {talker : Talker}
variable {type : List UInt8}
variable {fields : List (List UInt8)}

/- The type and the fields have no separators in them. -/
def Plain
    (type : List UInt8)
    (fields : List (List UInt8)) : Prop :=
  IsText type ∧ ∀ field ∈ fields, IsText field

theorem isBody_of_isfield
    {c : UInt8}
    (hc : isfield c = true) :
    isBody c = true := by
  unfold isfield at hc
  unfold isBody
  simp_all

theorem isBody_body
    (hPlain : Plain type fields) :
    ∀ c ∈ body talker type fields, isBody c = true := by
  intro c hc
  unfold body separated at hc
  rw [List.mem_cons, List.mem_cons, List.mem_append,
    List.mem_flatMap] at hc
  rcases hc with rfl | rfl | hc | ⟨field, hField, hc⟩
  · exact isBody_of_isfield talker.first.property
  · exact isBody_of_isfield talker.second.property
  · exact isBody_of_isfield (hPlain.1 c hc)
  · rw [List.mem_cons] at hc
    rcases hc with rfl | hc
    · decide
    · exact isBody_of_isfield (hPlain.2 field hField c hc)

/- The line is cut at its commas, and nowhere else. -/
theorem splitOn_separated
    {first : List UInt8}
    (hFirst : IsText first)
    (hFields : ∀ field ∈ fields, IsText field) :
    (first ++ separated fields).splitOn (byte ',') =
      first :: fields := by
  induction fields generalizing first with
  | nil =>
      rw [separated, List.flatMap_nil, List.append_nil]
      exact List.splitOn_eq_singleton (comma_notMem hFirst)
  | cons field fields ih =>
      rw [List.forall_mem_cons] at hFields
      rw [separated, List.flatMap_cons, List.cons_append,
        List.splitOn_append_cons_self_of_not_mem
          (comma_notMem hFirst)]
      exact congrArg _ (ih hFields.1 hFields.2)

theorem fields_line
    (hPlain : Plain type fields) :
    Minmea.fields (line talker type fields) =
      (byte '$' :: talker.first.val :: talker.second.val ::
        type) :: fields := by
  have hText : (line talker type fields).takeWhile isBody =
      byte '$' :: body talker type fields := by
    unfold line
    simp only
    rw [List.takeWhile_cons_of_pos (by decide),
      List.takeWhile_append_of_pos (isBody_body hPlain),
      List.takeWhile_cons_of_neg (by decide),
      List.append_nil]
  have hFirst : IsText (byte '$' :: talker.first.val ::
      talker.second.val :: type) := by
    unfold IsText
    rw [List.forall_mem_cons, List.forall_mem_cons,
      List.forall_mem_cons]
    exact ⟨by decide, talker.first.property,
      talker.second.property, hPlain.1⟩
  have hSplit := splitOn_separated hFirst hPlain.2
  unfold Minmea.fields
  rw [hText]
  exact hSplit

/- A line is not longer than `minmea_check` allows. -/
def Short (line : List UInt8) : Prop :=
  line.length ≤ maxLength + 3

theorem check_line
    (hPlain : Plain type fields)
    (hShort : Short (line talker type fields))
    (strict : Bool) :
    check (line talker type fields) strict = true := by
  have hLength : (body talker type fields).length +
      crlf.length + 4 ≤ maxLength + 3 := by
    unfold Short line at hShort
    simp only [List.length_cons, List.length_append]
      at hShort
    omega
  unfold line
  simp only
  rw [check_checked_iff (isBody_body hPlain)]
  exact ⟨hLength, spells_hexDigit _, Or.inr (Or.inr rfl)⟩

/- The first field of a line is stored as the type. -/
theorem readFields_t
    {F : Type}
    (format : List (Directive F))
    (isOptional : Bool)
    (state : F × Locals)
    (arg : Arg F (List UInt8))
    (hLength : type.length = 3)
    (hType : IsText type) :
    readFields (.t arg :: format)
        ((byte '$' :: talker.first.val ::
          talker.second.val :: type) :: fields)
        isOptional state =
      readFields format fields isOptional
        (arg.store
          (talker.first.val :: talker.second.val :: type)
          state) := by
  apply readFields_convert
  have hTake : (talker.first.val :: talker.second.val ::
        type).take 5 =
      talker.first.val :: talker.second.val :: type :=
    List.take_of_length_le (by simp [hLength])
  have hDollar : peek (byte '$' :: talker.first.val ::
      talker.second.val :: type) = byte '$' := rfl
  unfold scanTalker
  simp only
  rw [if_neg (not_not_intro hDollar), List.tail_cons, hTake,
    if_pos]
  refine ⟨by simp [hLength], ?_⟩
  rw [List.all_cons, List.all_cons, List.all_eq_true.mpr hType,
    talker.first.property, talker.second.property]
  rfl

/- A parser reads the fields of an accepted sentence. -/
theorem parseWith_eq
    {F : Type}
    {format : List (Directive F)}
    (hFormat : ∀ directive ∈ format, directive.Local)
    {sentence : List UInt8}
    {strict : Bool}
    (hCheck : check sentence strict = true)
    (type : List UInt8)
    (finish : F → Locals → Bool × F)
    (frame : F) :
    parseWith format type finish frame sentence =
      match readFields format (Minmea.fields sentence) false
        (frame, default) with
      | (false, frame, _) => (false, frame)
      | (true, frame, locals) =>
          if locals.type.drop 2 ≠ type then
            (false, frame)
          else
            finish frame locals := by
  have hScan := scan_eq_readFields hCheck hFormat
    (frame, default)
  unfold parseWith
  exact hScan ▸ rfl

end Minmea

------------------------------------------------------------
-- Positions
------------------------------------------------------------

namespace Minmea

/- Fields behind those that the parser reads. -/
abbrev Fields := { fields : List (List UInt8) //
  ∀ field ∈ fields, IsText field }

structure Fix where
  latitude : Fixed
  isSouth : Bool
  longitude : Fixed
  isWest : Bool

/- The four fields of a position, all blank without one. -/
def fixFields
    (p : Option Fix) : List (List UInt8) :=
  [ blankOr Fixed.text (p.map (·.latitude)),
    blankOr (sideText 'N' 'S') (p.map (·.isSouth)),
    blankOr Fixed.text (p.map (·.longitude)),
    blankOr (sideText 'E' 'W') (p.map (·.isWest)) ]

/- A number on the second side counts negative. -/
def Fixed.sided
    (x : Fixed)
    (isSecond : Bool) : MinmeaFloat :=
  { x.value with
    value := if isSecond then -x.value.value
      else x.value.value }

def latitudeValue (p : Option Fix) : MinmeaFloat :=
  (p.map fun p => p.latitude.sided p.isSouth).getD ⟨0, 0⟩

def longitudeValue (p : Option Fix) : MinmeaFloat :=
  (p.map fun p => p.longitude.sided p.isWest).getD ⟨0, 0⟩

theorem applyDirection_value
    (x : Fixed)
    (isSecond : Bool) :
    x.value.applyDirection (sideValue isSecond) =
      x.sided isSecond := by
  have hMax := x.hMax
  have hBounds : -2147483647 ≤ x.value.value ∧
      x.value.value ≤ 2147483647 := by
    unfold Fixed.value Numeral.signed
    simp only
    split
    · omega
    · omega
  unfold MinmeaFloat.applyDirection Fixed.sided sideValue
  cases isSecond with
  | true =>
      simp only [if_true]
      rw [Machine.i32_of_bounds (by omega) (by omega)]
      congr 1
      omega
  | false =>
      simp only [Bool.false_eq_true, if_false, Int.mul_one]
      rw [Machine.i32_of_bounds (by omega) (by omega)]

@[simp]
theorem applyDirection_latitude
    (p : Option Fix) :
    (fixedValue (p.map (·.latitude))).applyDirection
        (directionValue (p.map (·.isSouth))) =
      latitudeValue p := by
  cases p with
  | none => decide
  | some p => exact applyDirection_value _ _

@[simp]
theorem applyDirection_longitude
    (p : Option Fix) :
    (fixedValue (p.map (·.longitude))).applyDirection
        (directionValue (p.map (·.isWest))) =
      longitudeValue p := by
  cases p with
  | none => decide
  | some p => exact applyDirection_value _ _

end Minmea
