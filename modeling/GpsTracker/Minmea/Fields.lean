import GpsTracker.Minmea.Check
import GpsTracker.Minmea.Parse
import GpsTracker.Utils.DecimalConversion

/-
  Scanning by fields.

  `minmea_scan` walks over the sentence with two pointers.
  In a sentence that `minmea_check` accepts this is the same
  as to split the sentence at its commas and to convert one
  field after another: no conversion reads past the end of
  its field, and a field is missing exactly when the list
  has ended.

  Main declarations:
    * `Minmea.fields`, `Minmea.readFields`
    * `Minmea.Directive.Local`
    * `Minmea.scan_eq_readFields`
-/

open CString Stdlib

------------------------------------------------------------
-- Reading Fields
------------------------------------------------------------

namespace Minmea

/- The comma-separated fields in front of the checksum. -/
def fields (sentence : List UInt8) : List (List UInt8) :=
  (sentence.takeWhile isBody).splitOn (byte ',')

/-
  The fields are converted in order. Behind the last field
  there is none to convert, which fails until the rest of
  the format is optional.
-/
def readFields
    {F : Type}
    (format : List (Directive F))
    (fields : List (List UInt8))
    (isOptional : Bool)
    (state : F × Locals) :
    Bool × (F × Locals) :=
  match format with
  | [] => (true, state)
  | .optional :: format =>
      readFields format fields true state
  | .ignore :: format =>
      if fields.isEmpty && !isOptional then
        (false, state)
      else
        readFields format fields.tail isOptional state
  | .convert scan arg :: format =>
      if fields.isEmpty && !isOptional then
        (false, state)
      else
        match scan fields.head? with
        | none => (false, state)
        | some value =>
            readFields format fields.tail isOptional
              (arg.store value state)

/- What may stand behind a field. -/
def Stop (stop : List UInt8) : Prop :=
  peek stop = byte ',' ∨ peek stop = byte '*' ∨ LineEnd stop

/- A conversion reads its field only. -/
def Directive.Local
    {F : Type} :
    Directive F → Prop
| .optional => True
| .ignore => True
| .convert scan _ =>
    ∀ field stop : List UInt8,
      (∀ c ∈ field, isfield c = true) → Stop stop →
        scan (some (field ++ stop)) = scan (some field)

theorem Stop.isfield_peek
    {stop : List UInt8}
    (hStop : Stop stop) :
    isfield (peek stop) = false := by
  rcases hStop with hStop | hStop | rfl | rfl | rfl
  · rw [hStop]
    decide
  · rw [hStop]
    decide
  · decide
  · decide
  · decide

/- The test whether a field is empty. -/
theorem isfield_peek_append
    {field stop : List UInt8}
    (hStop : Stop stop) :
    isfield (peek (field ++ stop)) = isfield (peek field) := by
  cases field with
  | nil =>
      rw [List.nil_append, hStop.isfield_peek]
      decide
  | cons c field => rfl

end Minmea

------------------------------------------------------------
-- Local Conversions
------------------------------------------------------------

namespace Minmea

variable {field stop : List UInt8}

theorem Stop.ne_of_isfield
    (hStop : Stop stop)
    {c : UInt8}
    (hc : isfield c = true) :
    peek stop ≠ c := by
  rintro rfl
  rw [hStop.isfield_peek] at hc
  cases hc

/- So many characters of a class are there, or are not. -/
theorem take_append_iff
    (hStop : Stop stop)
    {accepts : UInt8 → Bool}
    (hAccepts : ∀ c, accepts c = true → isfield c = true)
    (n : Nat) :
    (((field ++ stop).take n).length = n ∧
        ((field ++ stop).take n).all accepts = true) ↔
      ((field.take n).length = n ∧
        (field.take n).all accepts = true) := by
  by_cases hLong : n ≤ field.length
  · rw [List.take_append_of_le_length hLong]
  · have hShort : ¬ (field.take n).length = n := by
      rw [List.length_take]
      omega
    have hMore : n - field.length =
        (n - field.length - 1) + 1 := by omega
    rw [iff_false_right (fun hBoth => hShort hBoth.1),
      List.take_append, hMore]
    rintro ⟨hLength, hAll⟩
    cases stop with
    | nil =>
        rw [List.take_nil, List.append_nil] at hLength
        exact hShort hLength
    | cons c stop =>
        rw [List.take_succ_cons, List.all_eq_true] at hAll
        exact hStop.ne_of_isfield (hAccepts c (hAll c
          (List.mem_append_right _ List.mem_cons_self))) rfl

theorem isfield_of_isdigit
    {c : UInt8}
    (hDigit : isdigit c = true) :
    isfield c = true := by
  have hAll : ∀ n : Fin 256,
      isdigit (UInt8.ofFin n) = true →
        isfield (UInt8.ofFin n) = true := by
    decide +kernel
  exact hAll c.toFin hDigit

theorem scanChar_append
    (hStop : Stop stop) :
    scanChar (some (field ++ stop)) =
      scanChar (some field) := by
  unfold scanChar
  simp only
  rw [isfield_peek_append hStop]
  cases field with
  | nil => rfl
  | cons c field => rfl

theorem scanDirection_append
    (hStop : Stop stop) :
    scanDirection (some (field ++ stop)) =
      scanDirection (some field) := by
  unfold scanDirection
  simp only
  rw [isfield_peek_append hStop]
  cases field with
  | nil => rfl
  | cons c field => rfl

theorem floatLoop_append
    (hStop : Stop stop)
    (sign value scale : Int) :
    floatLoop (field ++ stop) sign value scale =
      floatLoop field sign value scale := by
  induction field generalizing sign value scale with
  | nil =>
      cases stop with
      | nil => rfl
      | cons c stop =>
          have hc : isfield c = false := hStop.isfield_peek
          rw [List.nil_append, floatLoop, floatLoop, hc]
          rfl
  | cons c field ih =>
      rw [List.cons_append, floatLoop, floatLoop]
      simp only [ih]

theorem scanFloat_append
    (hStop : Stop stop) :
    scanFloat (some (field ++ stop)) =
      scanFloat (some field) := by
  unfold scanFloat
  rw [Option.getD_some, Option.getD_some,
    floatLoop_append hStop]

theorem scanTalker_append
    (hStop : Stop stop) :
    scanTalker (some (field ++ stop)) =
      scanTalker (some field) := by
  unfold scanTalker
  simp only
  cases field with
  | nil =>
      have hDollar : peek stop ≠ byte '$' :=
        hStop.ne_of_isfield (by decide)
      rw [List.nil_append, if_pos hDollar]
      rfl
  | cons c field =>
      have hIff := @take_append_iff field stop hStop isfield
        (fun _ hc => hc) 5
      have hPeek : peek (c :: (field ++ stop)) =
          peek (c :: field) := rfl
      rw [List.cons_append, List.tail_cons, List.tail_cons,
        hPeek]
      simp only [hIff]
      split
      · rfl
      · split
        · next hFive =>
            have hLong : 5 ≤ field.length := by
              have hLength := hFive.1
              rw [List.length_take] at hLength
              omega
            rw [List.take_append_of_le_length hLong]
        · rfl

theorem sixDigits_append
    (hStop : Stop stop) :
    sixDigits (field ++ stop) = sixDigits field := by
  unfold sixDigits
  rw [Bool.eq_iff_iff, decide_eq_true_iff, decide_eq_true_iff]
  exact take_append_iff hStop
    (fun _ hc => isfield_of_isdigit hc) 6

theorem length_of_sixDigits
    (hSix : sixDigits field = true) :
    6 ≤ field.length := by
  unfold sixDigits at hSix
  rw [decide_eq_true_iff, List.length_take] at hSix
  omega

theorem twoDigits_append
    {offset : Nat}
    (hLong : offset + 2 ≤ field.length) :
    twoDigits (field ++ stop) offset =
      twoDigits field offset := by
  unfold twoDigits
  rw [List.drop_append_of_le_length (by omega),
    List.take_append_of_le_length
      (by rw [List.length_drop]; omega)]

theorem scanDate_append
    (hStop : Stop stop) :
    scanDate (some (field ++ stop)) =
      scanDate (some field) := by
  unfold scanDate
  simp only
  rw [isfield_peek_append hStop, sixDigits_append hStop]
  split
  · split
    · next hSix =>
        have hLong := length_of_sixDigits hSix
        rw [twoDigits_append (by omega),
          twoDigits_append (by omega),
          twoDigits_append (by omega)]
    · rfl
  · rfl

theorem fractionLoop_append
    (hStop : Stop stop)
    (value scale : Nat) :
    fractionLoop (field ++ stop) value scale =
      fractionLoop field value scale := by
  induction field generalizing value scale with
  | nil =>
      cases stop with
      | nil => rfl
      | cons c stop =>
          have hNot : ¬ isdigit c = true := fun hDigit =>
            hStop.ne_of_isfield (isfield_of_isdigit hDigit) rfl
          rw [List.nil_append, fractionLoop, fractionLoop,
            if_neg (fun hBoth => hNot hBoth.1)]
  | cons c field ih =>
      rw [List.cons_append, fractionLoop, fractionLoop]
      simp only [ih]

theorem scanTime_append
    (hStop : Stop stop) :
    scanTime (some (field ++ stop)) =
      scanTime (some field) := by
  unfold scanTime
  simp only
  rw [isfield_peek_append hStop, sixDigits_append hStop]
  split
  · split
    · next hSix =>
        have hLong := length_of_sixDigits hSix
        have hPoint : peek ((field ++ stop).drop 6) = byte '.' ↔
            peek (field.drop 6) = byte '.' := by
          rw [List.drop_append_of_le_length hLong]
          cases field.drop 6 with
          | nil =>
              rw [List.nil_append]
              exact iff_of_false
                (hStop.ne_of_isfield (by decide)) (by decide)
          | cons c rest => rfl
        rw [twoDigits_append (by omega),
          twoDigits_append (by omega),
          twoDigits_append (by omega)]
        simp only [hPoint]
        split
        · next hDot =>
            have hMore : 7 ≤ field.length := by
              by_contra hNot
              rw [List.drop_of_length_le (by omega)] at hDot
              exact absurd hDot (by decide)
            rw [List.drop_append_of_le_length hMore,
              fractionLoop_append hStop]
        · rfl
    · rfl
  · rfl

theorem Stop.not_isDigit
    (hStop : Stop stop) :
    Numeral.isDigit 10 (peek stop) = false := by
  rw [← isdigit_eq, ← Bool.not_eq_true]
  exact fun hDigit =>
    hStop.ne_of_isfield (isfield_of_isdigit hDigit) rfl

/- A run of digits ends where the field does, or before. -/
theorem digits_append_stop
    (hStop : Stop stop)
    (text : List UInt8) :
    (text ++ stop).takeWhile (Numeral.isDigit 10) =
        text.takeWhile (Numeral.isDigit 10) ∧
      (text ++ stop).dropWhile (Numeral.isDigit 10) =
        text.dropWhile (Numeral.isDigit 10) ++ stop := by
  induction text with
  | nil =>
      exact digits_append (fun _ hMem => absurd hMem
        List.not_mem_nil) hStop.not_isDigit
  | cons c text ih =>
      rw [List.cons_append, List.takeWhile_cons,
        List.takeWhile_cons, List.dropWhile_cons,
        List.dropWhile_cons, ih.1, ih.2]
      cases Numeral.isDigit 10 c with
      | true => exact ⟨rfl, rfl⟩
      | false => exact ⟨rfl, rfl⟩

/- No number begins behind the field. -/
theorem digits_stop
    (hStop : Stop stop) :
    (Numeral.unsigned (stop.dropWhile isspace)).takeWhile
      (Numeral.isDigit 10) = [] := by
  rcases hStop with hComma | hStar | rfl | rfl | rfl
  · cases stop with
    | nil => rfl
    | cons c stop =>
        obtain rfl : c = byte ',' := hComma
        rfl
  · cases stop with
    | nil => rfl
    | cons c stop =>
        obtain rfl : c = byte '*' := hStar
        rfl
  · rfl
  · rfl
  · rfl

theorem scanInt_append
    (hStop : Stop stop) :
    scanInt (some (field ++ stop)) =
      scanInt (some field) := by
  unfold scanInt
  simp only
  rw [strtol_decimal_eq, strtol_decimal_eq]
  cases hSkip : field.dropWhile isspace with
  | nil =>
      have hBlank : ∀ c ∈ field, isspace c = true :=
        List.dropWhile_eq_nil_iff.mp hSkip
      have hNone : (Numeral.unsigned []).takeWhile
          (Numeral.isDigit 10) = [] := rfl
      rw [List.dropWhile_append_of_pos hBlank,
        if_pos (digits_stop hStop), if_pos hNone]
      simp only [isfield_peek_append hStop]
  | cons c rest =>
      have hSplit : (field ++ stop).dropWhile isspace =
          c :: rest ++ stop := by
        rw [List.dropWhile_append, hSkip]
        rfl
      have hSign : Numeral.unsigned (c :: rest ++ stop) =
          Numeral.unsigned (c :: rest) ++ stop := by
        rw [List.cons_append, Numeral.unsigned,
          Numeral.unsigned]
        split
        · rfl
        · rfl
      have hNegative : Numeral.negative (c :: rest ++ stop) =
          Numeral.negative (c :: rest) := rfl
      have hDigits := digits_append_stop hStop
        (Numeral.unsigned (c :: rest))
      rw [hSplit, hSign, hNegative, hDigits.1, hDigits.2]
      split
      · simp only [isfield_peek_append hStop]
      · simp only [isfield_peek_append hStop]

end Minmea

------------------------------------------------------------
-- Scanning as Reading
------------------------------------------------------------

namespace Minmea

variable {F : Type}

/- The text of a sentence is cut at its first comma. -/
theorem isBody_cases
    {body : List UInt8}
    (hBody : ∀ c ∈ body, isBody c = true) :
    (∀ c ∈ body, isfield c = true) ∨
      ∃ field rest, body = field ++ byte ',' :: rest ∧
        (∀ c ∈ field, isfield c = true) ∧
          ∀ c ∈ rest, isBody c = true := by
  have hField {c : UInt8}
      (hc : isBody c = true)
      (hComma : c ≠ byte ',') :
      isfield c = true := by
    unfold isBody at hc
    unfold isfield
    simp_all
  by_cases hMem : byte ',' ∈ body
  · rcases List.eq_append_cons_of_mem hMem with
      ⟨field, rest, rfl, hFirst⟩
    rw [List.forall_mem_append, List.forall_mem_cons] at hBody
    refine Or.inr ⟨field, rest, rfl, ?_, hBody.2.2⟩
    intro c hc
    exact hField (hBody.1 c hc)
      (ne_of_mem_of_not_mem hc hFirst)
  · exact Or.inl fun c hc =>
      hField (hBody c hc) (ne_of_mem_of_not_mem hc hMem)

theorem comma_notMem
    {field : List UInt8}
    (hField : ∀ c ∈ field, isfield c = true) :
    byte ',' ∉ field :=
  fun hMem => absurd (hField _ hMem) (by decide)

/- The text ends at the checksum or at the line's end. -/
def Left (left : List UInt8) : Prop :=
  peek left = byte '*' ∨ LineEnd left

theorem nextField_append
    {field stop : List UInt8}
    (hField : ∀ c ∈ field, isfield c = true)
    (hStop : Stop stop) :
    nextField (field ++ stop) =
      if peek stop = byte ',' then
        (stop.tail, some stop.tail)
      else
        (stop, none) := by
  have hSkip : (field ++ stop).dropWhile isfield = stop := by
    rw [List.dropWhile_append_of_pos hField]
    cases stop with
    | nil => rfl
    | cons c stop =>
        apply List.dropWhile_cons_of_neg
        rw [show isfield c = false from hStop.isfield_peek]
        decide
  unfold nextField
  rw [hSkip]

/- At the end of the text there is no next field. -/
theorem nextField_left
    {left : List UInt8}
    (hLeft : Left left) :
    nextField left = (left, none) := by
  have hNone := @nextField_append [] left
    (fun _ hMem => absurd hMem List.not_mem_nil)
    (Or.inr hLeft)
  rw [List.nil_append] at hNone
  rw [hNone, if_neg]
  rcases hLeft with hStar | rfl | rfl | rfl
  · rw [hStar]
    decide
  · decide
  · decide
  · decide

/- Behind the last field all fields are missing. -/
theorem scanLoop_none
    {left : List UInt8}
    (hLeft : Left left)
    (format : List (Directive F))
    (isOptional : Bool)
    (state : F × Locals) :
    scanLoop format left none isOptional state =
      readFields format [] isOptional state := by
  have hNext : nextField left = (left, none) :=
    nextField_left hLeft
  induction format generalizing isOptional state with
  | nil => rfl
  | cons directive format ih =>
      cases directive with
      | optional =>
          rw [scanLoop, readFields]
          exact ih true state
      | ignore =>
          rw [scanLoop, readFields, hNext]
          simp only [Option.isNone_none, List.isEmpty_nil,
            List.tail_nil, ih]
      | convert scan arg =>
          rw [scanLoop, readFields, hNext]
          simp only [Option.isNone_none, List.isEmpty_nil,
            List.head?_nil, List.tail_nil]
          cases scan none with
          | none => rfl
          | some value => simp only [ih]

/-
  One field of the list: the pointers move on to the next
  one, or find that this was the last.
-/
theorem field_cases
    {left : List UInt8}
    (hLeft : Left left)
    {body : List UInt8}
    (hBody : ∀ c ∈ body, isBody c = true) :
    ∃ field stop more,
      body ++ left = field ++ stop ∧
        (∀ c ∈ field, isfield c = true) ∧ Stop stop ∧
        body.splitOn (byte ',') = field :: more ∧
        ((nextField (body ++ left) = (left, none) ∧
            more = []) ∨
          ∃ rest, (∀ c ∈ rest, isBody c = true) ∧
            nextField (body ++ left) =
              (rest ++ left, some (rest ++ left)) ∧
            more = rest.splitOn (byte ',')) := by
  have hLeftStop : Stop left := Or.inr hLeft
  have hNotComma : peek left ≠ byte ',' := by
    rcases hLeft with hStar | rfl | rfl | rfl
    · rw [hStar]
      decide
    · decide
    · decide
    · decide
  rcases isBody_cases hBody with
    hLast | ⟨field, rest, rfl, hField, hRest⟩
  · refine ⟨body, left, [], rfl, hLast, hLeftStop, ?_, ?_⟩
    · exact List.splitOn_eq_singleton (comma_notMem hLast)
    · refine Or.inl ⟨?_, rfl⟩
      rw [nextField_append hLast hLeftStop, if_neg hNotComma]
  · have hSplit : field ++ byte ',' :: rest ++ left =
        field ++ (byte ',' :: rest ++ left) :=
      List.append_assoc _ _ _
    have hStop : Stop (byte ',' :: rest ++ left) := Or.inl rfl
    refine ⟨field, byte ',' :: rest ++ left,
      rest.splitOn (byte ','), hSplit, hField, hStop, ?_, ?_⟩
    · exact List.splitOn_append_cons_self_of_not_mem
        (comma_notMem hField) rest
    · refine Or.inr ⟨rest, hRest, ?_, rfl⟩
      rw [hSplit, nextField_append hField hStop]
      rfl

theorem scanLoop_some
    {left : List UInt8}
    (hLeft : Left left)
    {format : List (Directive F)}
    (hFormat : ∀ directive ∈ format, directive.Local)
    {body : List UInt8}
    (hBody : ∀ c ∈ body, isBody c = true)
    (isOptional : Bool)
    (state : F × Locals) :
    scanLoop format (body ++ left) (some (body ++ left))
        isOptional state =
      readFields format (body.splitOn (byte ',')) isOptional
        state := by
  induction format generalizing body isOptional state with
  | nil => rfl
  | cons directive format ih =>
      rw [List.forall_mem_cons] at hFormat
      rcases hFormat with ⟨hLocal, hFormat⟩
      rcases field_cases hLeft hBody with
        ⟨field, stop, more, hSplit, hField, hStop, hFields,
          hNext⟩
      have hMove (isOptional : Bool) (state : F × Locals) :
          scanLoop format (nextField (body ++ left)).1
              (nextField (body ++ left)).2 isOptional state =
            readFields format more isOptional state := by
        rcases hNext with
          ⟨hNext, rfl⟩ | ⟨rest, hRest, hNext, rfl⟩
        · rw [hNext]
          exact scanLoop_none hLeft format isOptional state
        · rw [hNext]
          exact ih hFormat hRest isOptional state
      cases directive with
      | optional =>
          rw [scanLoop, readFields]
          exact ih hFormat hBody true state
      | ignore =>
          rw [scanLoop, readFields, hFields]
          simp only [Option.isNone_some, List.isEmpty_cons,
            Bool.false_and, Bool.false_eq_true, if_false,
            List.tail_cons]
          exact hMove isOptional state
      | convert scan arg =>
          have hValue : scan (some (body ++ left)) =
              scan (some field) := by
            rw [hSplit]
            exact hLocal field stop hField hStop
          rw [scanLoop, readFields, hFields, hValue]
          simp only [Option.isNone_some, List.isEmpty_cons,
            Bool.false_and, Bool.false_eq_true, if_false,
            List.tail_cons, List.head?_cons]
          cases scan (some field) with
          | none => rfl
          | some value => exact hMove isOptional _

/- An accepted sentence is its text and what ends it. -/
theorem exists_text_of_check
    {sentence : List UInt8}
    {strict : Bool}
    (hCheck : check sentence strict = true) :
    ∃ left, sentence = sentence.takeWhile isBody ++ left ∧
      Left left := by
  have hText {body left : List UInt8}
      (hBody : ∀ c ∈ body, isBody c = true)
      (hLeft : Left left) :
      (byte '$' :: (body ++ left)).takeWhile isBody =
        byte '$' :: body := by
    have hNone : left.takeWhile isBody = [] := by
      rcases hLeft with hStar | rfl | rfl | rfl
      · cases left with
        | nil => rfl
        | cons c left =>
            obtain rfl : c = byte '*' := hStar
            rfl
      · rfl
      · rfl
      · rfl
    rw [List.takeWhile_cons_of_pos (by decide),
      List.takeWhile_append_of_pos hBody, hNone,
      List.append_nil]
  cases ((check_iff sentence strict).mp hCheck).2 with
  | checked body high low stop hSentence hBody =>
      subst hSentence
      refine ⟨byte '*' :: high :: low :: stop, ?_,
        Or.inl rfl⟩
      rw [hText hBody (Or.inl rfl), List.cons_append]
  | unchecked _ body stop hSentence hBody hStop =>
      subst hSentence
      refine ⟨stop, ?_, Or.inr hStop⟩
      rw [hText hBody (Or.inr hStop), List.cons_append]

/-
  A scan of an accepted sentence reads its fields, one after
  another.
-/
theorem scan_eq_readFields
    {sentence : List UInt8}
    {strict : Bool}
    (hCheck : check sentence strict = true)
    {format : List (Directive F)}
    (hFormat : ∀ directive ∈ format, directive.Local)
    (state : F × Locals) :
    scan sentence format state =
      readFields format (fields sentence) false state := by
  rcases exists_text_of_check hCheck with
    ⟨left, hSentence, hLeft⟩
  have hBody : ∀ c ∈ sentence.takeWhile isBody,
      isBody c = true :=
    fun _ hMem => List.mem_takeWhile_imp hMem
  have hScan := scanLoop_some hLeft hFormat hBody false state
  rw [← hSentence] at hScan
  exact hScan

end Minmea

------------------------------------------------------------
-- The Formats
------------------------------------------------------------

namespace Minmea

namespace Directive

variable {F : Type}

@[simp]
theorem local_optional :
    (optional : Directive F).Local := trivial

@[simp]
theorem local_ignore :
    (ignore : Directive F).Local := trivial

@[simp]
theorem local_c (arg : Arg F UInt8) : (c arg).Local :=
  fun _ _ _ hStop => scanChar_append hStop

@[simp]
theorem local_d (arg : Arg F Int) : (d arg).Local :=
  fun _ _ _ hStop => scanDirection_append hStop

@[simp]
theorem local_f (arg : Arg F MinmeaFloat) : (f arg).Local :=
  fun _ _ _ hStop => scanFloat_append hStop

@[simp]
theorem local_i (arg : Arg F Int) : (i arg).Local :=
  fun _ _ _ hStop => scanInt_append hStop

@[simp]
theorem local_t (arg : Arg F (List UInt8)) : (t arg).Local :=
  fun _ _ _ hStop => scanTalker_append hStop

@[simp]
theorem local_D (arg : Arg F MinmeaDate) : (D arg).Local :=
  fun _ _ _ hStop => scanDate_append hStop

@[simp]
theorem local_T (arg : Arg F MinmeaTime) : (T arg).Local :=
  fun _ _ _ hStop => scanTime_append hStop

end Directive

theorem typeFormat_local
    {F : Type} :
    ∀ directive ∈ (typeFormat : List (Directive F)),
      directive.Local := by
  simp [typeFormat]

theorem rmcFormat_local :
    ∀ directive ∈ rmcFormat, directive.Local := by
  simp [rmcFormat]

theorem ggaFormat_local :
    ∀ directive ∈ ggaFormat, directive.Local := by
  simp [ggaFormat]

theorem gsaFormat_local :
    ∀ directive ∈ gsaFormat, directive.Local := by
  rw [gsaFormat, List.forall_mem_append,
    List.forall_mem_append, List.forall_mem_map]
  refine ⟨⟨?_, fun k _ => Directive.local_i _⟩, ?_⟩
  · simp
  · simp

theorem gllFormat_local :
    ∀ directive ∈ gllFormat, directive.Local := by
  simp [gllFormat]

theorem gstFormat_local :
    ∀ directive ∈ gstFormat, directive.Local := by
  simp [gstFormat]

theorem gsvFormat_local :
    ∀ directive ∈ gsvFormat, directive.Local := by
  have hSat (k : Fin 4) :
      ∀ directive ∈ gsvSatFormat k, directive.Local := by
    simp [gsvSatFormat]
  rw [gsvFormat, List.forall_mem_append]
  refine ⟨?_, ?_⟩
  · simp
  · intro directive hMem
    rcases List.mem_flatMap.mp hMem with ⟨k, _, hk⟩
    exact hSat k directive hk

theorem vtgFormat_local :
    ∀ directive ∈ vtgFormat, directive.Local := by
  simp [vtgFormat]

theorem zdaFormat_local :
    ∀ directive ∈ zdaFormat, directive.Local := by
  simp [zdaFormat]

theorem scan_eq_readFields_gll :
    scan (ascii "$GPGLL,1.5,N,,,,A*75\r\n") gllFormat
        (default, default) =
      readFields gllFormat
        (fields (ascii "$GPGLL,1.5,N,,,,A*75\r\n")) false
        (default, default) :=
  scan_eq_readFields
    (show check (ascii "$GPGLL,1.5,N,,,,A*75\r\n") true = true
      by decide +kernel)
    gllFormat_local _

end Minmea
