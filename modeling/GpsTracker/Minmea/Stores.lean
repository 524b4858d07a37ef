import GpsTracker.Minmea.Parse
import Mathlib.Data.List.FinRange

/-
  What a sentence parser stores to the caller's frame.

  A scan performs one store for each frame field in front of
  the field it fails at. The fields of a format are distinct
  places, so the stores do not disturb each other: a parser
  that fails has left the frame alone exactly when the frame
  already held every value stored.

  Main declarations:
    * `Minmea.fieldStores`, `Minmea.scan_frame`
    * `Minmea.Distinct`
    * `Minmea.scannedValue`, `Minmea.get_scan_frame`
    * `Minmea.isSome_scannedValue`
    * `Minmea.parseWith_eq_self_iff`
-/

------------------------------------------------------------
-- Stores of a Scan
------------------------------------------------------------

namespace Minmea

variable {F : Type}

/- The store of a value, if it goes to the frame. -/
def Arg.frameStores
    {α : Type}
    (arg : Arg F α)
    (v : α) : List (Store F) :=
  match arg with
  | .field place => [place.store v]
  | .var _ => []

/-
  The stores to the frame that the loop of `minmea_scan`
  performs, up to the field it fails at.
-/
def loopStores
    (format : List (Directive F))
    (sentence : List UInt8)
    (field : Option (List UInt8))
    (isOptional : Bool) : List (Store F) :=
  match format with
  | [] => []
  | .optional :: format =>
      loopStores format sentence field true
  | .ignore :: format =>
      if field.isNone && !isOptional then
        []
      else
        let (sentence, field) := nextField sentence
        loopStores format sentence field isOptional
  | .convert scan arg :: format =>
      if field.isNone && !isOptional then
        []
      else
        match scan field with
        | none => []
        | some value =>
            let (sentence, field) := nextField sentence
            arg.frameStores value ++
              loopStores format sentence field isOptional

/- The stores of a scan of a sentence. -/
def fieldStores
    (format : List (Directive F))
    (sentence : List UInt8) : List (Store F) :=
  loopStores format sentence (some sentence) false

theorem Arg.store_frame
    {α : Type}
    (arg : Arg F α)
    (v : α)
    (state : F × Locals) :
    (arg.store v state).1 =
      Store.applyAll (arg.frameStores v) state.1 := by
  cases arg with
  | field place => rfl
  | var place => rfl

theorem scanLoop_frame
    (format : List (Directive F))
    (sentence : List UInt8)
    (field : Option (List UInt8))
    (isOptional : Bool)
    (state : F × Locals) :
    (scanLoop format sentence field isOptional state).2.1 =
      Store.applyAll
        (loopStores format sentence field isOptional)
        state.1 := by
  induction format generalizing
      sentence field isOptional state with
  | nil => rfl
  | cons directive format ih =>
      cases directive with
      | optional =>
          rw [scanLoop, loopStores]
          exact ih sentence field true state
      | ignore =>
          rw [scanLoop, loopStores]
          split
          · rfl
          · exact ih _ _ isOptional state
      | convert scan arg =>
          rw [scanLoop, loopStores]
          split
          · rfl
          · cases scan field with
            | none => rfl
            | some value =>
                simp only
                rw [ih, arg.store_frame,
                  Store.applyAll_append]

/- The frame behind a scan, whether it failed or not. -/
theorem scan_frame
    (sentence : List UInt8)
    (format : List (Directive F))
    (state : F × Locals) :
    (scan sentence format state).2.1 =
      Store.applyAll (fieldStores format sentence) state.1 :=
  scanLoop_frame format sentence (some sentence) false state

end Minmea

------------------------------------------------------------
-- Distinct Fields
------------------------------------------------------------

namespace Minmea

variable {F : Type}

/- A store that a directive may perform. -/
inductive Directive.Writes :
    Directive F → Store F → Prop where
  | intro
      {α : Type}
      (scan : Option (List UInt8) → Option α)
      (place : Place F α)
      (v : α) :
      Writes (.convert scan (.field place)) (place.store v)

/- The two directives do not store to one place. -/
def Directive.Apart :
    Directive F → Directive F → Prop
| .convert _ (.field p), .convert _ (.field q) => p.Disjoint q
| _, _ => True

theorem Directive.Apart.survives
    {first second : Directive F}
    (hApart : first.Apart second)
    {store later : Store F}
    (hFirst : first.Writes store)
    (hSecond : second.Writes later) :
    store.Survives later := by
  cases hFirst with
  | intro _ p v =>
      cases hSecond with
      | intro _ q w =>
          exact Store.survives_of_disjoint hApart v w

/- No two directives of a format store to one place. -/
def Distinct (format : List (Directive F)) : Prop :=
  format.Pairwise Directive.Apart

theorem exists_writes_of_mem_loopStores
    {format : List (Directive F)}
    {sentence : List UInt8}
    {field : Option (List UInt8)}
    {isOptional : Bool}
    {store : Store F}
    (hMem : store ∈
      loopStores format sentence field isOptional) :
    ∃ directive ∈ format, directive.Writes store := by
  induction format generalizing
      sentence field isOptional with
  | nil => cases hMem
  | cons directive format ih =>
      have hLater {sentence field isOptional}
          (hMem : store ∈
            loopStores format sentence field isOptional) :
          ∃ d ∈ directive :: format, d.Writes store := by
        rcases ih hMem with ⟨d, hd, hWrites⟩
        exact ⟨d, List.mem_cons_of_mem _ hd, hWrites⟩
      cases directive with
      | optional =>
          rw [loopStores] at hMem
          exact hLater hMem
      | ignore =>
          rw [loopStores] at hMem
          split at hMem
          · cases hMem
          · exact hLater hMem
      | convert scan arg =>
          rw [loopStores] at hMem
          split at hMem
          · cases hMem
          · split at hMem
            · cases hMem
            · rcases List.mem_append.mp hMem with
                hFirst | hRest
              · cases arg with
                | var place => cases hFirst
                | field place =>
                    rw [List.mem_singleton.mp hFirst]
                    exact ⟨_, List.mem_cons_self,
                      .intro scan place _⟩
              · exact hLater hRest

/- The stores of a format of distinct fields. -/
theorem pairwise_loopStores
    {format : List (Directive F)}
    (hDistinct : Distinct format)
    (sentence : List UInt8)
    (field : Option (List UInt8))
    (isOptional : Bool) :
    (loopStores format sentence field isOptional).Pairwise
      Store.Survives := by
  induction format generalizing
      sentence field isOptional with
  | nil => exact List.Pairwise.nil
  | cons directive format ih =>
      rcases List.pairwise_cons.mp hDistinct with
        ⟨hApart, hRest⟩
      cases directive with
      | optional =>
          rw [loopStores]
          exact ih hRest sentence field true
      | ignore =>
          rw [loopStores]
          split
          · exact List.Pairwise.nil
          · exact ih hRest _ _ isOptional
      | convert scan arg =>
          rw [loopStores]
          split
          · exact List.Pairwise.nil
          · split
            · exact List.Pairwise.nil
            · cases arg with
              | var place => exact ih hRest _ _ isOptional
              | field place =>
                  apply List.pairwise_cons.mpr
                  refine ⟨?_, ih hRest _ _ isOptional⟩
                  intro later hLater
                  rcases exists_writes_of_mem_loopStores
                      hLater with ⟨d, hd, hWrites⟩
                  exact (hApart d hd).survives
                    (.intro scan place _) hWrites

/- A scan changes nothing when every value was held. -/
theorem scan_frame_eq_self_iff
    {format : List (Directive F)}
    (hDistinct : Distinct format)
    (sentence : List UInt8)
    (state : F × Locals) :
    (scan sentence format state).2.1 = state.1 ↔
      ∀ store ∈ fieldStores format sentence,
        store.Held state.1 := by
  rw [scan_frame]
  exact Store.applyAll_eq_self_iff
    (pairwise_loopStores hDistinct sentence _ false) state.1

end Minmea

------------------------------------------------------------
-- One Field of a Scan
------------------------------------------------------------

namespace Minmea

variable {F : Type}

/-
  Where a scan stands behind the directives of a format: the
  sentence pointer, the field pointer and the optional flag.
-/
structure Cursor where
  sentence : List UInt8
  field : Option (List UInt8)
  isOptional : Bool

/- The cursor behind a format that the scan gets through. -/
def cursor :
    List (Directive F) → Cursor → Option Cursor
| [], c => some c
| .optional :: format, c =>
    cursor format { c with isOptional := true }
| .ignore :: format, c =>
    if c.field.isNone && !c.isOptional then
      none
    else
      let (sentence, field) := nextField c.sentence
      cursor format ⟨sentence, field, c.isOptional⟩
| .convert scan _ :: format, c =>
    if c.field.isNone && !c.isOptional then
      none
    else
      match scan c.field with
      | none => none
      | some _ =>
          let (sentence, field) := nextField c.sentence
          cursor format ⟨sentence, field, c.isOptional⟩

/- A format in two parts. -/
theorem loopStores_append
    (format rest : List (Directive F))
    (sentence : List UInt8)
    (field : Option (List UInt8))
    (isOptional : Bool) :
    loopStores (format ++ rest) sentence field isOptional =
      loopStores format sentence field isOptional ++
        match cursor format ⟨sentence, field, isOptional⟩ with
        | none => []
        | some c =>
            loopStores rest c.sentence c.field
              c.isOptional := by
  induction format generalizing
      sentence field isOptional with
  | nil => rfl
  | cons directive format ih =>
      rw [List.cons_append]
      cases directive with
      | optional =>
          rw [loopStores, loopStores, cursor]
          exact ih sentence field true
      | ignore =>
          rw [loopStores, loopStores, cursor]
          split
          · rfl
          · exact ih _ _ isOptional
      | convert scan arg =>
          rw [loopStores, loopStores, cursor]
          split
          · rfl
          · cases scan field with
            | none => rfl
            | some value =>
                simp only
                rw [ih, List.append_assoc]

/- A scan that succeeds gets through a part of its format. -/
theorem cursor_of_scanLoop
    {format rest : List (Directive F)}
    {sentence : List UInt8}
    {field : Option (List UInt8)}
    {isOptional : Bool}
    {state : F × Locals}
    (hScan : (scanLoop (format ++ rest) sentence field
      isOptional state).1 = true) :
    ∃ c later,
      cursor format ⟨sentence, field, isOptional⟩ = some c ∧
        (scanLoop rest c.sentence c.field c.isOptional
          later).1 = true := by
  induction format generalizing
      sentence field isOptional state with
  | nil => exact ⟨_, state, rfl, hScan⟩
  | cons directive format ih =>
      rw [List.cons_append] at hScan
      cases directive with
      | optional =>
          rw [scanLoop] at hScan
          rw [cursor]
          exact ih hScan
      | ignore =>
          rw [scanLoop] at hScan
          rw [cursor]
          split_ifs at hScan ⊢
          exact ih hScan
      | convert scan arg =>
          rw [scanLoop] at hScan
          rw [cursor]
          split_ifs at hScan ⊢
          cases hValue : scan field with
          | none => simp [hValue] at hScan
          | some value =>
              simp only [hValue] at hScan
              exact ih hScan

/- A place that the directives of a format do not store to. -/
theorem get_applyAll_of_apart
    {α : Type}
    {place : Place F α}
    {conversion : Option (List UInt8) → Option α}
    {format : List (Directive F)}
    (hApart : ∀ d ∈ format,
      (Directive.convert conversion (.field place)).Apart d)
    (sentence : List UInt8)
    (field : Option (List UInt8))
    (isOptional : Bool)
    (frame : F) :
    place.get (Store.applyAll
        (loopStores format sentence field isOptional) frame) =
      place.get frame := by
  have hSurvives : ∀ later ∈
      loopStores format sentence field isOptional,
      (place.store (place.get frame)).Survives later := by
    intro later hLater
    rcases exists_writes_of_mem_loopStores hLater with
      ⟨d, hd, hWrites⟩
    exact (hApart d hd).survives
      (.intro conversion place _) hWrites
  exact (Store.held_applyAll_iff hSurvives frame).mpr rfl

/-
  What the directive behind the first part of a format
  converts the sentence to, if the scan gets there.
-/
def scannedValue
    {α : Type}
    (format : List (Directive F))
    (conversion : Option (List UInt8) → Option α)
    (sentence : List UInt8) : Option α :=
  match cursor format ⟨sentence, some sentence, false⟩ with
  | none => none
  | some c =>
      if c.field.isNone && !c.isOptional then
        none
      else
        conversion c.field

/- A scan that succeeds has converted every field. -/
theorem isSome_scannedValue
    {α : Type}
    {arg : Arg F α}
    {conversion : Option (List UInt8) → Option α}
    {format rest : List (Directive F)}
    {sentence : List UInt8}
    {state : F × Locals}
    (hScan : (scan sentence
      (format ++ .convert conversion arg :: rest)
      state).1 = true) :
    (scannedValue format conversion sentence).isSome =
      true := by
  rcases cursor_of_scanLoop hScan with ⟨c, later, hCursor, hRest⟩
  rw [scannedValue, hCursor]
  rw [scanLoop] at hRest
  simp only
  split_ifs at hRest ⊢
  cases hValue : conversion c.field with
  | none => simp [hValue] at hRest
  | some value => rfl

/- A field that no other directive stores to. -/
theorem get_scan_frame
    {α : Type}
    {place : Place F α}
    {conversion : Option (List UInt8) → Option α}
    {format rest : List (Directive F)}
    (hFormat : ∀ d ∈ format,
      (Directive.convert conversion (.field place)).Apart d)
    (hRest : ∀ d ∈ rest,
      (Directive.convert conversion (.field place)).Apart d)
    (sentence : List UInt8)
    (state : F × Locals) :
    place.get (scan sentence
        (format ++ .convert conversion (.field place) :: rest)
        state).2.1 =
      (scannedValue format conversion sentence).getD
        (place.get state.1) := by
  rw [scan_frame, fieldStores, loopStores_append,
    Store.applyAll_append, scannedValue]
  have hBefore := get_applyAll_of_apart hFormat sentence
    (some sentence) false state.1
  generalize Store.applyAll (loopStores format sentence
    (some sentence) false) state.1 = scanned at hBefore ⊢
  cases cursor format ⟨sentence, some sentence, false⟩ with
  | none => exact hBefore
  | some c =>
      simp only [loopStores]
      by_cases hStop : (c.field.isNone && !c.isOptional) = true
      · rw [if_pos hStop, if_pos hStop]
        exact hBefore
      · rw [if_neg hStop, if_neg hStop]
        cases conversion c.field with
        | none => exact hBefore
        | some value =>
            simp only [Arg.frameStores]
            rw [List.singleton_append, Store.applyAll_cons,
              get_applyAll_of_apart hRest]
            exact place.get_set value scanned

end Minmea

------------------------------------------------------------
-- Parsers That Fail
------------------------------------------------------------

namespace Minmea

variable {F : Type}

/- A last step that fails leaves the frame as scanned. -/
def KeepsOnFailure
    (finish : F → Locals → Bool × F) : Prop :=
  ∀ frame l,
    (finish frame l).1 = false → (finish frame l).2 = frame

/- A parser that fails returns the frame as scanned. -/
theorem parseWith_frame
    {format : List (Directive F)}
    {type : List UInt8}
    {finish : F → Locals → Bool × F}
    (hFinish : KeepsOnFailure finish)
    {frame : F}
    {sentence : List UInt8}
    (hFails :
      (parseWith format type finish frame sentence).1 =
        false) :
    (parseWith format type finish frame sentence).2 =
      (scan sentence format (frame, default)).2.1 := by
  unfold parseWith at hFails ⊢
  generalize scan sentence format (frame, default) = scanned
    at hFails ⊢
  rcases scanned with ⟨ok, scanned, locals⟩
  cases ok with
  | false => rfl
  | true =>
      by_cases hType : locals.type.drop 2 ≠ type
      · simp only [if_pos hType]
      · simp only [if_neg hType] at hFails ⊢
        exact hFinish scanned locals hFails

theorem parseWith_eq_self_iff
    {format : List (Directive F)}
    (hDistinct : Distinct format)
    {type : List UInt8}
    {finish : F → Locals → Bool × F}
    (hFinish : KeepsOnFailure finish)
    {frame : F}
    {sentence : List UInt8}
    (hFails :
      (parseWith format type finish frame sentence).1 =
        false) :
    (parseWith format type finish frame sentence).2 = frame ↔
      ∀ store ∈ fieldStores format sentence,
        store.Held frame := by
  rw [parseWith_frame hFinish hFails]
  exact scan_frame_eq_self_iff hDistinct sentence
    (frame, default)

end Minmea

------------------------------------------------------------
-- The Formats
------------------------------------------------------------

namespace Minmea

theorem distinct_rmcFormat : Distinct rmcFormat := by
  simp only [Distinct, rmcFormat, Directive.t, Directive.T,
    Directive.c, Directive.f, Directive.d, Directive.D,
    List.pairwise_cons, List.forall_mem_cons]
  simp only [Directive.Apart, Place.Disjoint, implies_true,
    and_self, List.not_mem_nil, false_implies,
    List.Pairwise.nil]

theorem distinct_ggaFormat : Distinct ggaFormat := by
  simp only [Distinct, ggaFormat, Directive.t, Directive.T,
    Directive.f, Directive.d, Directive.i, Directive.c,
    List.pairwise_cons, List.forall_mem_cons]
  simp only [Directive.Apart, Place.Disjoint, implies_true,
    and_self, List.not_mem_nil, false_implies,
    List.Pairwise.nil]

theorem distinct_gllFormat : Distinct gllFormat := by
  simp only [Distinct, gllFormat, Directive.t, Directive.f,
    Directive.d, Directive.T, Directive.c,
    List.pairwise_cons, List.forall_mem_cons]
  simp only [Directive.Apart, Place.Disjoint, implies_true,
    and_self, List.not_mem_nil, false_implies,
    List.Pairwise.nil]

theorem distinct_gstFormat : Distinct gstFormat := by
  simp only [Distinct, gstFormat, Directive.t, Directive.T,
    Directive.f,
    List.pairwise_cons, List.forall_mem_cons]
  simp only [Directive.Apart, Place.Disjoint, implies_true,
    and_self, List.not_mem_nil, false_implies,
    List.Pairwise.nil]

theorem distinct_vtgFormat : Distinct vtgFormat := by
  simp only [Distinct, vtgFormat, Directive.t, Directive.f,
    Directive.c,
    List.pairwise_cons, List.forall_mem_cons]
  simp only [Directive.Apart, Place.Disjoint, implies_true,
    and_self, List.not_mem_nil, false_implies,
    List.Pairwise.nil]

theorem distinct_zdaFormat : Distinct zdaFormat := by
  simp only [Distinct, zdaFormat, Directive.t, Directive.T,
    Directive.i,
    List.pairwise_cons, List.forall_mem_cons]
  simp only [Directive.Apart, Place.Disjoint, Place.comp,
    SentenceZda.dateP, implies_true, and_self,
    List.not_mem_nil, false_implies, List.Pairwise.nil]

theorem SentenceGsa.disjoint_satP
    {j k : Fin 12}
    (hNe : j ≠ k) :
    (satP j).Disjoint (satP k) :=
  (Place.disjoint_elem hNe).comp_left _

theorem distinct_gsaFormat : Distinct gsaFormat := by
  have hSats : ((List.finRange 12).map fun k =>
      Directive.i (.field (SentenceGsa.satP k))).Pairwise
        Directive.Apart := by
    rw [List.pairwise_map]
    exact (List.nodup_finRange 12).imp fun hNe =>
      SentenceGsa.disjoint_satP hNe
  simp only [Distinct, gsaFormat, List.pairwise_append,
    Directive.t, Directive.c, Directive.i, Directive.f,
    List.pairwise_cons, List.forall_mem_cons,
    List.forall_mem_append, List.forall_mem_map]
  refine ⟨⟨?_, hSats, ?_⟩, ?_, ?_⟩ <;>
    simp only [Directive.Apart, Place.Disjoint, Place.comp,
      SentenceGsa.satP, implies_true, and_self,
      List.not_mem_nil, false_implies, List.Pairwise.nil]

theorem SentenceGsv.disjoint_satP
    {j k : Fin 4}
    (hNe : j ≠ k) :
    (satP j).Disjoint (satP k) :=
  (Place.disjoint_elem hNe).comp_left _

theorem distinct_gsvFormat : Distinct gsvFormat := by
  have hSats :
      ((List.finRange 4).flatMap gsvSatFormat).Pairwise
        Directive.Apart := by
    rw [List.pairwise_flatMap]
    constructor
    · -- the four fields of one satellite
      intro k _
      simp only [gsvSatFormat, Directive.i,
        List.pairwise_cons, List.forall_mem_cons]
      simp only [Directive.Apart, Place.Disjoint, Place.comp,
        Place.get_set, implies_true, and_self,
        List.not_mem_nil, false_implies, List.Pairwise.nil]
    · -- the fields of two satellites
      refine (List.nodup_finRange 4).imp fun hNe => ?_
      simp only [gsvSatFormat, Directive.i,
        List.forall_mem_cons]
      simp only [Directive.Apart, List.not_mem_nil,
        (SentenceGsv.disjoint_satP hNe).comp, implies_true,
        and_self, false_implies]
  simp only [Distinct, gsvFormat, List.pairwise_append,
    Directive.t, Directive.i, gsvSatFormat,
    List.pairwise_cons, List.forall_mem_cons,
    List.forall_mem_flatMap]
  refine ⟨?_, hSats, ?_⟩ <;>
    simp only [Directive.Apart, Place.Disjoint, Place.comp,
      SentenceGsv.satP, implies_true, and_self,
      List.not_mem_nil, false_implies, List.Pairwise.nil]

end Minmea
