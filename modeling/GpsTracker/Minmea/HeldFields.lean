import GpsTracker.Minmea.Fields
import GpsTracker.Minmea.Stores

/-
  Lines whose fields spell what a frame already holds.

  A format reads the comma fields of a line one after the
  other, up to the first one that is missing or that its
  conversion rejects. A scan of an accepted line leaves a
  frame as it was exactly when each field read up to there
  spells the value of its variable in the frame.

  Main declarations:
    * `Minmea.columns`, `Minmea.Column.Reads`
    * `Minmea.FieldsHeld`
    * `Minmea.forall_fieldStores_held_iff`
-/

------------------------------------------------------------
-- Columns
------------------------------------------------------------

namespace Minmea

variable {F : Type}

/- What reads one comma field, and whether it may be missing. -/
structure Column (F : Type) where
  directive : Directive F
  isOptional : Bool

/- A format as the columns of a line. -/
def columns
    (format : List (Directive F))
    (isOptional : Bool) : List (Column F) :=
  match format with
  | [] => []
  | .optional :: format => columns format true
  | .ignore :: format =>
      ⟨.ignore, isOptional⟩ :: columns format isOptional
  | .convert scan arg :: format =>
      ⟨.convert scan arg, isOptional⟩ ::
        columns format isOptional

/- A conversion that does not reject the field. -/
def Directive.Accepts
    (field : Option (List UInt8)) :
    Directive F → Prop
| .convert scan _ => (scan field).isSome = true
| _ => True

/- The field spells the value that the frame holds. -/
def Directive.Spells
    (frame : F)
    (field : Option (List UInt8)) :
    Directive F → Prop
| .convert scan (.field place) =>
    scan field = some (place.get frame)
| _ => True

/- The field is there, or may be missing, and is accepted. -/
def Column.Reads
    (column : Column F)
    (field : Option (List UInt8)) : Prop :=
  (field.isSome = true ∨ column.isOptional = true) ∧
    column.directive.Accepts field

/-
  Up to the first comma field that is not read, each field
  spells the value of its variable.
-/
def FieldsHeld
    (columns : List (Column F))
    (fields : List (List UInt8))
    (frame : F) : Prop :=
  ∀ (k : Nat) (column : Column F),
    columns[k]? = some column →
    (∀ i, i ≤ k → ∀ earlier : Column F,
      columns[i]? = some earlier →
        earlier.Reads fields[i]?) →
    column.directive.Spells frame fields[k]?

theorem fieldsHeld_nil
    (fields : List (List UInt8))
    (frame : F) :
    FieldsHeld [] fields frame := by
  intro k column hColumn
  simp at hColumn

/- The first field, and those behind it. -/
theorem fieldsHeld_cons_iff
    {column : Column F}
    {columns : List (Column F)}
    {fields : List (List UInt8)}
    {frame : F} :
    FieldsHeld (column :: columns) fields frame ↔
      (column.Reads fields.head? →
        column.directive.Spells frame fields.head? ∧
          FieldsHeld columns fields.tail frame) := by
  have hTail (k : Nat) : fields.tail[k]? = fields[k + 1]? := by
    cases fields with
    | nil => rfl
    | cons field fields => rfl
  rw [List.head?_eq_getElem?]
  constructor
  · intro hHeld hReads
    refine ⟨?_, ?_⟩
    · apply hHeld 0 column rfl
      intro i hi earlier hEarlier
      obtain rfl : i = 0 := Nat.le_zero.mp hi
      cases hEarlier
      exact hReads
    · intro k later hLater hBefore
      rw [hTail]
      apply hHeld (k + 1) later hLater
      intro i hi earlier hEarlier
      cases i with
      | zero =>
          cases hEarlier
          exact hReads
      | succ i =>
          rw [← hTail]
          exact hBefore i (Nat.le_of_succ_le_succ hi) earlier
            hEarlier
  · intro hParts k later hLater hBefore
    have hFirst := hBefore 0 (Nat.zero_le k) column rfl
    rcases hParts hFirst with ⟨hSpells, hRest⟩
    cases k with
    | zero =>
        cases hLater
        exact hSpells
    | succ k =>
        rw [← hTail]
        apply hRest k later hLater
        intro i hi earlier hEarlier
        rw [hTail]
        exact hBefore (i + 1) (Nat.succ_le_succ hi) earlier
          hEarlier

end Minmea

------------------------------------------------------------
-- The Stores of an Accepted Line
------------------------------------------------------------

namespace Minmea

variable {F : Type}

/- The store of a value holds where the field spells it. -/
theorem frameStores_held_iff
    {α : Type}
    {scan : Option (List UInt8) → Option α}
    {field : Option (List UInt8)}
    {value : α}
    (hValue : scan field = some value)
    (arg : Arg F α)
    (frame : F) :
    (∀ store ∈ arg.frameStores value, store.Held frame) ↔
      (Directive.convert scan arg).Spells frame field := by
  cases arg with
  | var place =>
      exact iff_of_true (List.forall_mem_nil _) trivial
  | field place =>
      simp only [Arg.frameStores, List.forall_mem_singleton,
        Place.store, Directive.Spells, hValue,
        Option.some.injEq, eq_comm]

/- Of the fields behind the last one none is there. -/
theorem loopStores_none_held_iff
    {left : List UInt8}
    (hLeft : Left left)
    (format : List (Directive F))
    (isOptional : Bool)
    (frame : F) :
    (∀ store ∈ loopStores format left none isOptional,
        store.Held frame) ↔
      FieldsHeld (columns format isOptional) [] frame := by
  have hNext : nextField left = (left, none) :=
    nextField_left hLeft
  induction format generalizing isOptional with
  | nil =>
      exact iff_of_true (List.forall_mem_nil _)
        (fieldsHeld_nil _ _)
  | cons directive format ih =>
      cases directive with
      | optional =>
          rw [loopStores, columns]
          exact ih true
      | ignore =>
          rw [loopStores, columns, fieldsHeld_cons_iff, hNext]
          cases isOptional with
          | false => simp [Column.Reads]
          | true =>
              simpa [Column.Reads, Directive.Accepts,
                Directive.Spells] using ih true
      | convert scan arg =>
          rw [loopStores, columns, fieldsHeld_cons_iff, hNext]
          cases isOptional with
          | false => simp [Column.Reads]
          | true =>
              cases hValue : scan none with
              | none =>
                  simp [Column.Reads, Directive.Accepts, hValue]
              | some value =>
                  have hFirst := frameStores_held_iff hValue
                    arg frame
                  simp only [Option.isNone_none, Bool.not_true,
                    Bool.and_false, Bool.false_eq_true,
                    if_false, List.forall_mem_append, ih,
                    hFirst, Column.Reads, Directive.Accepts,
                    List.head?_nil, List.tail_nil, hValue,
                    Option.isSome_some, or_true, and_self,
                    forall_const]

/- The fields of the text, one after the other. -/
theorem loopStores_some_held_iff
    {left : List UInt8}
    (hLeft : Left left)
    {format : List (Directive F)}
    (hFormat : ∀ directive ∈ format, directive.Local)
    {body : List UInt8}
    (hBody : ∀ c ∈ body, isBody c = true)
    (isOptional : Bool)
    (frame : F) :
    (∀ store ∈ loopStores format (body ++ left)
        (some (body ++ left)) isOptional,
        store.Held frame) ↔
      FieldsHeld (columns format isOptional)
        (body.splitOn (byte ',')) frame := by
  induction format generalizing body isOptional with
  | nil =>
      exact iff_of_true (List.forall_mem_nil _)
        (fieldsHeld_nil _ _)
  | cons directive format ih =>
      rw [List.forall_mem_cons] at hFormat
      rcases hFormat with ⟨hLocal, hFormat⟩
      rcases field_cases hLeft hBody with
        ⟨field, stop, more, hSplit, hField, hStop, hFields,
          hNext⟩
      have hMove :
          (∀ store ∈ loopStores format
              (nextField (body ++ left)).1
              (nextField (body ++ left)).2 isOptional,
            store.Held frame) ↔
            FieldsHeld (columns format isOptional) more
              frame := by
        rcases hNext with
          ⟨hNext, rfl⟩ | ⟨rest, hRest, hNext, rfl⟩
        · rw [hNext]
          exact loopStores_none_held_iff hLeft format
            isOptional frame
        · rw [hNext]
          exact ih hFormat hRest isOptional
      cases directive with
      | optional =>
          rw [loopStores, columns]
          exact ih hFormat hBody true
      | ignore =>
          rw [loopStores, columns, fieldsHeld_cons_iff,
            hFields]
          simpa [Column.Reads, Directive.Accepts,
            Directive.Spells] using hMove
      | convert scan arg =>
          have hScan : scan (some (body ++ left)) =
              scan (some field) := by
            rw [hSplit]
            exact hLocal field stop hField hStop
          rw [loopStores, columns, fieldsHeld_cons_iff,
            hFields, hScan]
          cases hValue : scan (some field) with
          | none =>
              simp [Column.Reads, Directive.Accepts, hValue]
          | some value =>
              have hFirst := frameStores_held_iff hValue arg
                frame
              simp only [Option.isNone_some, Bool.false_and,
                Bool.false_eq_true, if_false,
                List.forall_mem_append, hMove, hFirst,
                Column.Reads, Directive.Accepts,
                List.head?_cons, List.tail_cons, hValue,
                Option.isSome_some, true_or, and_self,
                forall_const]

/-
  The stores of a scan of an accepted line were all held
  exactly when its comma fields spell the frame's values.
-/
theorem forall_fieldStores_held_iff
    {sentence : List UInt8}
    {strict : Bool}
    (hCheck : check sentence strict = true)
    {format : List (Directive F)}
    (hFormat : ∀ directive ∈ format, directive.Local)
    (frame : F) :
    (∀ store ∈ fieldStores format sentence,
        store.Held frame) ↔
      FieldsHeld (columns format false) (fields sentence)
        frame := by
  rcases exists_text_of_check hCheck with
    ⟨left, hSentence, hLeft⟩
  have hBody : ∀ c ∈ sentence.takeWhile isBody,
      isBody c = true :=
    fun _ hMem => List.mem_takeWhile_imp hMem
  have hStores := loopStores_some_held_iff hLeft hFormat
    hBody false frame
  rw [← hSentence] at hStores
  exact hStores

end Minmea
