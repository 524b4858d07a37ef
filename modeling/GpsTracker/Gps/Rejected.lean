import GpsTracker.Gps.ParseNmea
import GpsTracker.Minmea.HeldFields

/-
  What `ParseOneNmea` leaves behind of a sentence that its
  parser rejects.

  The parser writes to `g_gps_info` while it scans. A
  rejected sentence leaves no trace exactly when each of its
  comma fields, up to the first one that is missing or
  malformed, spells the value that was there before.

  Main declarations:
    * `Gps.Rejected`
    * `Gps.HeldIn`
    * `Gps.rejected_info_eq_iff_heldIn`
-/

open Minmea

------------------------------------------------------------
-- Slots of the Global
------------------------------------------------------------

namespace Gps

namespace Info

def rmcP : Place Info SentenceRmc :=
  .mk rmc fun v i => { i with rmc := v }

def ggaP : Place Info SentenceGga :=
  .mk gga fun v i => { i with gga := v }

def gllP : Place Info SentenceGll :=
  .mk gll fun v i => { i with gll := v }

def gstP : Place Info SentenceGst :=
  .mk gst fun v i => { i with gst := v }

def vtgP : Place Info SentenceVtg :=
  .mk vtg fun v i => { i with vtg := v }

def zdaP : Place Info SentenceZda :=
  .mk zda fun v i => { i with zda := v }

def gsaP (k : Fin maxGsaNumber) : Place Info SentenceGsa :=
  Place.comp (.mk gsa fun v i => { i with gsa := v })
    (Place.elem k)

def gsvP (k : Fin maxGsvNumber) : Place Info SentenceGsv :=
  Place.comp (.mk gsv fun v i => { i with gsv := v })
    (Place.elem k)

end Info

end Gps

------------------------------------------------------------
-- Rejected Sentences
------------------------------------------------------------

namespace Gps

/-
  The line is not classified as a sentence that the code
  parses, or the parser that is called returns false.
-/
def Rejected
    (p : Parser)
    (line : List UInt8)
    (flag : UInt8) : Prop :=
  sentenceId line false = .invalid ∨
    sentenceId line false = .unknown ∨
    (parseSentence (p.enterFrame flag) line
      (sentenceId line false)).1 = some false

/-
  The comma fields of the line, in front of the first one
  that is missing or malformed, spell what the slot for such
  a sentence already holds.
-/
def HeldIn
    (p : Parser)
    (line : List UInt8) : SentenceId → Prop
| .rmc =>
    FieldsHeld (columns rmcFormat false) (fields line)
      p.info.rmc
| .gga =>
    FieldsHeld (columns ggaFormat false) (fields line)
      p.info.gga
| .gst =>
    FieldsHeld (columns gstFormat false) (fields line)
      p.info.gst
| .gsv =>
    ∀ hSlot : p.gsvCount.toNat < maxGsvNumber,
      FieldsHeld (columns gsvFormat false) (fields line)
        p.info.gsv[p.gsvCount.toNat]
| .vtg =>
    FieldsHeld (columns vtgFormat false) (fields line)
      p.info.vtg
| .zda =>
    FieldsHeld (columns zdaFormat false) (fields line)
      p.info.zda
| .gsa =>
    ∀ hSlot : p.gsaCount.toNat < maxGsaNumber,
      FieldsHeld (columns gsaFormat false) (fields line)
        p.info.gsa[p.gsaCount.toNat]
| .gll =>
    FieldsHeld (columns gllFormat false) (fields line)
      p.info.gll
| .invalid => True
| .unknown => True

/- One slot, written by a parser that fails. -/
theorem slot_eq_self_iff
    {F : Type}
    (slot : Place Info F)
    {format : List (Directive F)}
    (hDistinct : Distinct format)
    (hFormat : ∀ directive ∈ format, directive.Local)
    {type : List UInt8}
    {finish : F → Locals → Bool × F}
    (hFinish : KeepsOnFailure finish)
    {info : Info}
    {line : List UInt8}
    (hCheck : check line false = true)
    (hFails : (parseWith format type finish
      (slot.get info) line).1 = false) :
    slot.set (parseWith format type finish
        (slot.get info) line).2 info = info ↔
      FieldsHeld (columns format false) (fields line)
        (slot.get info) := by
  rw [slot.set_eq_self_iff, eq_comm,
    parseWith_eq_self_iff hDistinct hFinish hFails]
  exact forall_fieldStores_held_iff hCheck hFormat _

/- The last steps that cannot fail. -/
theorem keepsOnFailure_of_true
    {F : Type}
    (update : F → Locals → F) :
    KeepsOnFailure fun frame l => (true, update frame l) := by
  intro frame l hFails
  cases hFails

/- The last steps that check what was scanned. -/
theorem keepsOnFailure_ite
    {F : Type}
    (reject : F → Locals → Prop)
    [∀ frame l, Decidable (reject frame l)]
    (update : F → Locals → F) :
    KeepsOnFailure fun frame l =>
      if reject frame l then (false, frame)
      else (true, update frame l) := by
  intro frame l hFails
  simp only at hFails ⊢
  split
  · rfl
  · next hKept =>
      rw [if_neg hKept] at hFails
      cases hFails

theorem parseSentence_info_eq_iff
    {p : Parser}
    {line : List UInt8}
    {id : SentenceId}
    (hCheck : check line false = true)
    (hFails : (parseSentence p line id).1 = some false) :
    (parseSentence p line id).2.info = p.info ↔
      HeldIn p line id := by
  cases id with
  | rmc =>
      exact slot_eq_self_iff Info.rmcP distinct_rmcFormat
        rmcFormat_local
        (keepsOnFailure_of_true _) hCheck
        (Option.some.inj hFails)
  | gga =>
      exact slot_eq_self_iff Info.ggaP distinct_ggaFormat
        ggaFormat_local
        (keepsOnFailure_of_true _) hCheck
        (Option.some.inj hFails)
  | gll =>
      exact slot_eq_self_iff Info.gllP distinct_gllFormat
        gllFormat_local
        (keepsOnFailure_of_true _) hCheck
        (Option.some.inj hFails)
  | gst =>
      exact slot_eq_self_iff Info.gstP distinct_gstFormat
        gstFormat_local
        (keepsOnFailure_of_true _) hCheck
        (Option.some.inj hFails)
  | vtg =>
      exact slot_eq_self_iff Info.vtgP distinct_vtgFormat
        vtgFormat_local
        (keepsOnFailure_ite _ _) hCheck
        (Option.some.inj hFails)
  | zda =>
      exact slot_eq_self_iff Info.zdaP distinct_zdaFormat
        zdaFormat_local
        (keepsOnFailure_ite _ _) hCheck
        (Option.some.inj hFails)
  | gsa =>
      by_cases hSlot : p.gsaCount.toNat < maxGsaNumber
      · rw [parseSentence, dif_pos hSlot] at hFails ⊢
        rw [HeldIn, forall_prop_of_true hSlot]
        exact slot_eq_self_iff
          (Info.gsaP ⟨p.gsaCount.toNat, hSlot⟩)
          distinct_gsaFormat gsaFormat_local
          (keepsOnFailure_of_true _) hCheck
          (Option.some.inj hFails)
      · rw [parseSentence, dif_neg hSlot] at hFails
        cases hFails
  | gsv =>
      by_cases hSlot : p.gsvCount.toNat < maxGsvNumber
      · rw [parseSentence, dif_pos hSlot] at hFails ⊢
        rw [HeldIn, forall_prop_of_true hSlot]
        exact slot_eq_self_iff
          (Info.gsvP ⟨p.gsvCount.toNat, hSlot⟩)
          distinct_gsvFormat gsvFormat_local
          (keepsOnFailure_of_true _) hCheck
          (Option.some.inj hFails)
      · rw [parseSentence, dif_neg hSlot] at hFails
        cases hFails
  | invalid => cases hFails
  | unknown => cases hFails

/-
  A rejected sentence leaves `g_gps_info` as it was exactly
  when its fields up to the failure spell what was there.
-/
theorem rejected_info_eq_iff_heldIn
    {p : Parser}
    {line : List UInt8}
    {flag : UInt8}
    (hRejected : Rejected p line flag) :
    (parseOneNmea p line flag).2.info = p.info ↔
      HeldIn (p.enterFrame flag) line
        (sentenceId line false) := by
  have hInfo := p.enterFrame_info flag
  unfold parseOneNmea
  rcases hRejected with hInvalid | hUnknown | hFails
  · simp only [hInvalid]
    exact iff_of_true hInfo trivial
  · simp only [hUnknown]
    exact iff_of_true hInfo trivial
  · by_cases hCheck : check line false = true
    · rw [← parseSentence_info_eq_iff hCheck hFails, hInfo]
    · have hInvalid : sentenceId line false = .invalid := by
        simp [sentenceId, hCheck]
      simp only [hInvalid]
      exact iff_of_true hInfo trivial

/- A fix in the north, as the parser leaves it. -/
def northFixed : Parser :=
  (parseOneNmea Parser.init
    (ascii ("$GPRMC,081836,A,3751.65,N,14507.36,E," ++
      "000.0,360.0,130998,011.3,E")) 0).2

/-
  The same fix, cut behind its longitude: time, latitude and
  longitude are stored once more, as they were.
-/
theorem rejected_info_eq_same_fix :
    northFixed.info.rmc.latitude = ⟨375165, 100⟩ ∧
      (parseOneNmea northFixed
        (ascii "$GPRMC,081836,A,3751.65,N,14507.36,")
          0).2.info = northFixed.info := by
  refine ⟨by decide +kernel, ?_⟩
  apply (rejected_info_eq_iff_heldIn _).mpr
  · have hId : sentenceId
        (ascii "$GPRMC,081836,A,3751.65,N,14507.36,") false =
        .rmc := by
      decide +kernel
    have hFields : fields
        (ascii "$GPRMC,081836,A,3751.65,N,14507.36,") =
        [ascii "$GPRMC", ascii "081836", ascii "A",
          ascii "3751.65", ascii "N", ascii "14507.36", []] := by
      decide +kernel
    rw [hId, HeldIn, hFields]
    simp only [rmcFormat, Directive.t, Directive.T,
      Directive.c, Directive.f, Directive.d, Directive.D,
      columns, fieldsHeld_cons_iff, Directive.Spells,
      List.head?_cons, List.tail_cons]
    refine fun _ => ⟨trivial, fun _ => ⟨?time, fun _ =>
      ⟨trivial, fun _ => ⟨?latitude, fun _ => ⟨trivial,
        fun _ => ⟨?longitude, fun _ => ⟨trivial,
          fun hSpeed => ?missing⟩⟩⟩⟩⟩⟩⟩
    case time => decide +kernel
    case latitude => decide +kernel
    case longitude => decide +kernel
    case missing => exact absurd hSpeed.1 (by decide)
  · exact .inr (.inr (by decide +kernel))

/- A line cut behind its longitude leaves it, unsigned. -/
theorem truncated_rmc_leaves_latitude :
    Rejected Parser.init
        (ascii "$GPRMC,081836,A,3751.65,S,14507.36,") 0 ∧
      (parseOneNmea Parser.init
        (ascii "$GPRMC,081836,A,3751.65,S,14507.36,")
          0).2.info ≠ Parser.init.info ∧
      (parseOneNmea Parser.init
        (ascii "$GPRMC,081836,A,3751.65,S,14507.36,")
          0).2.info.rmc.latitude = ⟨375165, 100⟩ := by
  unfold Rejected
  decide +kernel

end Gps
