import GpsTracker.Lib.CString

/-
  The query of a request target.

  A client writes names and values behind a question mark; a
  server finds the target in the first line of a request and
  takes the query apart again. A text is read as parameters
  with values exactly when it is what was written for them,
  so that a query that was cut is never read as the whole.

  Main declarations:
    * `Query.write`, `Query.read`
    * `Query.target`, `Query.parameters`, `Query.lookup`
    * `Query.read_eq_iff`
    * `Query.parameters_request`
-/

open CString

------------------------------------------------------------
-- Writing and Reading
------------------------------------------------------------

namespace Query

/- A name and a value. -/
structure Parameter where
  name : List UInt8
  value : List UInt8
deriving DecidableEq

/- A parameter as it stands in a query. -/
def Parameter.written (p : Parameter) : List UInt8 :=
  p.name ++ byte '=' :: p.value

/- The text of a query. -/
def write (parameters : List Parameter) : List UInt8 :=
  [byte '&'].intercalate (parameters.map Parameter.written)

/- A name ends at the first equals sign. -/
def readParameter (field : List UInt8) : Parameter :=
  { name := field.takeWhile (· ≠ byte '=')
    value := (field.dropWhile (· ≠ byte '=')).drop 1 }

/- The parameters of a query. -/
def read (query : List UInt8) : List Parameter :=
  (query.splitOn (byte '&')).map readParameter

/- The target stands between the blanks of the first line. -/
def target (request : List UInt8) : List UInt8 :=
  ((request.dropWhile (· ≠ byte ' ')).drop 1).takeWhile
    (· ≠ byte ' ')

/- What a server reads from a request. -/
def parameters (request : List UInt8) : List Parameter :=
  read (((target request).dropWhile
    (· ≠ byte '?')).drop 1)

/- The value given to a name. -/
def lookup
    (parameters : List Parameter)
    (name : List UInt8) : Option (List UInt8) :=
  (parameters.find? (·.name = name)).map (·.value)

/- A character that stands for itself. -/
def isPlain (c : UInt8) : Bool :=
  c ≠ byte '&' && c ≠ byte '=' && c ≠ byte ' ' &&
    c ≠ byte '%' && c ≠ byte '+' && c ≠ byte '#' && c ≠ 0

/-
  A parameter that needs no escapes, and that has a value.
-/
structure Parameter.Plain (p : Parameter) : Prop where
  name : ∀ c ∈ p.name, isPlain c = true
  value : ∀ c ∈ p.value, isPlain c = true
  value_ne_nil : p.value ≠ []

end Query

------------------------------------------------------------
-- Round Trip
------------------------------------------------------------

namespace Query

variable {p : Parameter}
variable {ps : List Parameter}

theorem notMem_of_isPlain
    {text : List UInt8}
    (hText : ∀ c ∈ text, isPlain c = true)
    {c : UInt8}
    (hNot : isPlain c = false) :
    c ∉ text := by
  intro hMem
  rw [hText c hMem] at hNot
  cases hNot

/- A parameter's own text has no separator in it. -/
theorem Parameter.Plain.amp_notMem
    (hPlain : p.Plain) :
    byte '&' ∉ p.written := by
  unfold Parameter.written
  rw [List.mem_append, List.mem_cons]
  rintro (hMem | hMem | hMem)
  · exact notMem_of_isPlain hPlain.name (by decide) hMem
  · exact absurd hMem (by decide)
  · exact notMem_of_isPlain hPlain.value (by decide) hMem

/- Nothing but separators is added to plain parameters. -/
theorem notMem_write
    (hPlain : ∀ p ∈ ps, p.Plain)
    {c : UInt8}
    (hNot : isPlain c = false)
    (hAmp : c ≠ byte '&')
    (hEquals : c ≠ byte '=') :
    c ∉ write ps := by
  have hWritten : ∀ p ∈ ps, c ∉ p.written := by
    intro p hp
    unfold Parameter.written
    rw [List.mem_append, List.mem_cons]
    rintro (hMem | hMem | hMem)
    · exact notMem_of_isPlain (hPlain p hp).name hNot hMem
    · exact hEquals hMem
    · exact notMem_of_isPlain (hPlain p hp).value hNot hMem
  clear hPlain
  unfold write
  induction ps with
  | nil => simp
  | cons p ps ih =>
      rw [List.forall_mem_cons] at hWritten
      cases ps with
      | nil => simpa using hWritten.1
      | cons q ps =>
          rw [List.map_cons, List.map_cons,
            List.intercalate_cons_cons, ← List.map_cons]
          simp only [List.mem_append, List.mem_singleton]
          rintro ((hMem | hMem) | hMem)
          · exact hWritten.1 hMem
          · exact hAmp hMem
          · exact ih hWritten.2 hMem

/- A field gives a value to a name in one way only. -/
theorem readParameter_eq_iff
    (hPlain : p.Plain)
    (field : List UInt8) :
    readParameter field = p ↔ field = p.written := by
  have hName : ∀ c ∈ p.name, decide (c ≠ byte '=') = true :=
    fun c hc => decide_eq_true fun hEq =>
      notMem_of_isPlain hPlain.name (by decide) (hEq ▸ hc)
  constructor
  · rintro rfl
    have hSplit : _ = field :=
      List.takeWhile_append_dropWhile (p := (· ≠ byte '='))
    have hNe := hPlain.value_ne_nil
    unfold readParameter at hNe
    unfold readParameter Parameter.written
    generalize hRest : field.dropWhile (· ≠ byte '=') = rest
      at hNe hSplit
    cases rest with
    | nil => exact absurd rfl hNe
    | cons c value =>
        have hHead := List.head_dropWhile_not
          (· ≠ byte '=') (hRest ▸ List.cons_ne_nil c value)
        simp only [hRest, List.head_cons] at hHead
        rw [decide_eq_false_iff_not, not_not] at hHead
        subst hHead
        exact hSplit.symm
  · rintro rfl
    unfold readParameter Parameter.written
    rw [List.takeWhile_append_of_pos hName,
      List.dropWhile_append_of_pos hName,
      List.takeWhile_cons_of_neg (by simp),
      List.dropWhile_cons_of_neg (by simp)]
    simp

/-
  Only the query that was written for the parameters is read
  as these.
-/
theorem read_eq_iff
    (hPlain : ∀ p ∈ ps, p.Plain)
    (hNe : ps ≠ [])
    (query : List UInt8) :
    read query = ps ↔ query = write ps := by
  unfold read write
  constructor
  · intro hRead
    have hFields : query.splitOn (byte '&') =
        ps.map Parameter.written := by
      rw [← hRead, List.map_map]
      conv => lhs; rw [← List.map_id (query.splitOn _)]
      apply List.map_congr_left
      intro field hField
      have hMem : readParameter field ∈ ps :=
        hRead ▸ List.mem_map_of_mem hField
      exact (readParameter_eq_iff (hPlain _ hMem) field).mp
        rfl
    rw [← hFields, List.intercalate_splitOn]
  · rintro rfl
    have hFields : ∀ field ∈ ps.map Parameter.written,
        byte '&' ∉ field := by
      intro field hField
      rcases List.mem_map.mp hField with ⟨p, hp, rfl⟩
      exact (hPlain p hp).amp_notMem
    rw [List.splitOn_intercalate _ hFields
      (List.map_eq_nil_iff.not.mpr hNe), List.map_map]
    conv => rhs; rw [← List.map_id ps]
    apply List.map_congr_left
    intro p hp
    exact (readParameter_eq_iff (hPlain p hp) _).mpr rfl

end Query

------------------------------------------------------------
-- Requests
------------------------------------------------------------

namespace Query

/- The part of a text up to a character, and behind it. -/
theorem takeWhile_ne
    {front : List UInt8}
    {c : UInt8}
    (hFront : c ∉ front)
    (rest : List UInt8) :
    (front ++ c :: rest).takeWhile (· ≠ c) = front := by
  have hAll : ∀ b ∈ front, decide (b ≠ c) = true :=
    fun b hb => decide_eq_true fun hEq => hFront (hEq ▸ hb)
  rw [List.takeWhile_append_of_pos hAll,
    List.takeWhile_cons_of_neg (by simp), List.append_nil]

theorem drop_dropWhile_ne
    {front : List UInt8}
    {c : UInt8}
    (hFront : c ∉ front)
    (rest : List UInt8) :
    ((front ++ c :: rest).dropWhile (· ≠ c)).drop 1 =
      rest := by
  have hAll : ∀ b ∈ front, decide (b ≠ c) = true :=
    fun b hb => decide_eq_true fun hEq => hFront (hEq ▸ hb)
  rw [List.dropWhile_append_of_pos hAll,
    List.dropWhile_cons_of_neg (by simp), List.drop_one,
    List.tail_cons]

/- The server reads the query of the request's target. -/
theorem parameters_request
    {method path query : List UInt8}
    (hMethod : byte ' ' ∉ method)
    (hPath : byte ' ' ∉ path)
    (hMark : byte '?' ∉ path)
    (hQuery : byte ' ' ∉ query)
    (rest : List UInt8) :
    parameters (method ++ byte ' ' ::
        ((path ++ byte '?' :: query) ++ byte ' ' :: rest)) =
      read query := by
  have hTarget : byte ' ' ∉ path ++ byte '?' :: query := by
    rw [List.mem_append, List.mem_cons]
    rintro (hMem | hMem | hMem)
    · exact hPath hMem
    · exact absurd hMem (by decide)
    · exact hQuery hMem
  unfold parameters target
  rw [drop_dropWhile_ne hMethod, takeWhile_ne hTarget,
    drop_dropWhile_ne hMark]

end Query
