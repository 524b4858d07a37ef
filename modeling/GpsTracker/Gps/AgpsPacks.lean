import GpsTracker.Gps.Agps

/-
  The send loop of `GPS_AGPS`.

  The padded length is a multiple of 512, and the loop goes
  on while `i*512` is not greater than it: it sends one
  pack too many, and then the end marker. It gives up at the
  fourth failure in a row.

  Main declarations:
    * `Gps.SendInvariant`, `Gps.sendBody_cases`
    * `Gps.Recovers`, `Gps.sendLoop_result`
    * `Gps.sendLoop_terminates`
    * `Gps.sendLoop_not_exact`
-/

open CString Machine

------------------------------------------------------------
-- Acknowledged Packs
------------------------------------------------------------

namespace Gps

variable {exchange : Nat → Exchange}
variable {gpdData : Nat → UInt8}
variable {packs : Nat}

/- The message with a pack of the body. -/
def packMessage
    (gpdData : Nat → UInt8)
    (i : Nat) : List UInt8 :=
  gpdPack i (some (packAt gpdData (i * 512)))

/- The message that ends the upload. -/
def endMarker : List UInt8 :=
  gpdPack 0xffff none

/- The messages that were acknowledged, in order. -/
def ackedMessages
    (sent : List (List UInt8 × Exchange)) :
    List (List UInt8) :=
  (sent.filter fun message => message.2.acked).map Prod.fst

/- How many of the first exchanges were acknowledged. -/
def acks
    (exchange : Nat → Exchange)
    (calls : Nat) : Nat :=
  (List.range calls).countP fun k => (exchange k).acked

/-
  No four exchanges in a row fail before so many are
  acknowledged.
-/
def Recovers
    (exchange : Nat → Exchange)
    (total : Nat) : Prop :=
  ∀ k, acks exchange k < total →
    ∃ j, k ≤ j ∧ j < k + 4 ∧ (exchange j).acked = true

@[simp] theorem ackedMessages_append_singleton
    (sent : List (List UInt8 × Exchange))
    (message : List UInt8)
    (e : Exchange) :
    ackedMessages (sent ++ [(message, e)]) =
      ackedMessages sent ++ if e.acked then [message] else [] := by
  unfold ackedMessages
  rw [List.filter_append, List.map_append]
  cases hAcked : e.acked <;> simp [hAcked]

theorem acks_succ
    (exchange : Nat → Exchange)
    (calls : Nat) :
    acks exchange (calls + 1) =
      acks exchange calls +
        if (exchange calls).acked then 1 else 0 := by
  unfold acks
  rw [List.range_succ, List.countP_append]
  simp [List.countP_cons]

theorem acks_mono
    (exchange : Nat → Exchange)
    {fewer more : Nat}
    (hLe : fewer ≤ more) :
    acks exchange fewer ≤ acks exchange more := by
  induction more, hLe using Nat.le_induction with
  | base => exact Nat.le_refl _
  | succ more _ ih =>
      rw [acks_succ]
      omega

end Gps

------------------------------------------------------------
-- One Iteration
------------------------------------------------------------

namespace Gps

variable {exchange : Nat → Exchange}
variable {gpdData : Nat → UInt8}
variable {packs : Nat}

/- The state behind an unacknowledged message. -/
def SendState.failed
    (s : SendState)
    (message : List UInt8)
    (e : Exchange) : SendState :=
  { i := s.i
    sendFailTimes := s.sendFailTimes + 1
    sent := s.sent ++ [(message, e)] }

/- The state behind an acknowledged pack. -/
def SendState.advanced
    (s : SendState)
    (message : List UInt8)
    (e : Exchange) : SendState :=
  { i := s.i + 1
    sendFailTimes := 0
    sent := s.sent ++ [(message, e)] }

/- What the loop has done at the top of an iteration. -/
structure SendInvariant
    (exchange : Nat → Exchange)
    (gpdData : Nat → UInt8)
    (packs : Nat)
    (s : SendState) : Prop where
  index_le : s.i ≤ packs + 1
  acked : ackedMessages s.sent =
    (List.range s.i).map (packMessage gpdData)
  count : acks exchange s.sent.length = s.i
  retries : s.sendFailTimes ≤ 3
  fails_le : s.sendFailTimes ≤ s.sent.length
  failed : ∀ j,
    s.sent.length ≤ j + s.sendFailTimes →
    j < s.sent.length → (exchange j).acked = false
  before : s.sent.length ≠ s.sendFailTimes →
    (exchange (s.sent.length - s.sendFailTimes - 1)).acked =
      true
  window : ∀ k, k + 4 ≤ s.sent.length →
    ∃ j, k ≤ j ∧ j < k + 4 ∧ (exchange j).acked = true

/- A failure is counted, and the fourth in a row ends it. -/
theorem sendFailed_eq
    {s : SendState}
    (hRetries : s.sendFailTimes ≤ 3)
    (e : Exchange)
    (message : List UInt8) :
    sendFailed { s with sent := s.sent ++ [(message, e)] } =
      if s.sendFailTimes = 3 then
        .done (false, s.failed message e)
      else
        .next (s.failed message e) := by
  have hWrap : wrap 8 ((s.sendFailTimes : Int) + 1) =
      s.sendFailTimes + 1 := by
    unfold wrap
    omega
  simp only [sendFailed, hWrap, SendState.failed]
  by_cases hThree : s.sendFailTimes = 3
  · rw [if_pos (by omega), if_pos hThree]
  · rw [if_neg (by omega), if_neg hThree]

/-
  What one iteration can do: advance, end the upload, count
  a failure, or give up.
-/
theorem sendBody_cases
    (hPacks : packs < 128)
    {s : SendState}
    (hIndex : s.i ≤ packs + 1)
    (hRetries : s.sendFailTimes ≤ 3) :
    let e := exchange s.sent.length
    let body := sendBody gpdData (packs * 512) exchange s
    (e.acked = true ∧ s.i ≤ packs ∧
        body = .next (s.advanced (packMessage gpdData s.i) e)) ∨
      (e.acked = true ∧ s.i = packs + 1 ∧
        body = .done (true,
          { s with sent := s.sent ++ [(endMarker, e)] })) ∨
      (e.acked = false ∧ s.sendFailTimes < 3 ∧
        ∃ message, body = .next (s.failed message e)) ∨
      (e.acked = false ∧ s.sendFailTimes = 3 ∧
        ∃ message, body = .done (false, s.failed message e)) := by
  intro e body
  have hNext : u16 ((s.i : Int) + 1) = s.i + 1 := by
    unfold u16 wrap
    omega
  have hFailed := sendFailed_eq hRetries e
  have hBody : body =
      if s.i * 512 > packs * 512 then
        if ¬ e.acked then
          sendFailed
            { s with sent := s.sent ++ [(endMarker, e)] }
        else
          .done (true,
            { s with sent := s.sent ++ [(endMarker, e)] })
      else
        if ¬ e.acked then
          sendFailed
            { s with sent := s.sent ++
                [(packMessage gpdData s.i, e)] }
        else
          .next (s.advanced (packMessage gpdData s.i) e) := by
    simp only [body, sendBody, hNext]
    rfl
  rw [hBody]
  cases hAcked : e.acked with
  | true =>
      by_cases hEnd : s.i * 512 > packs * 512
      · right
        left
        exact ⟨rfl, by omega, by simp [hEnd]⟩
      · left
        exact ⟨rfl, by omega, by simp [hEnd]⟩
  | false =>
      by_cases hThree : s.sendFailTimes = 3
      · right
        right
        right
        refine ⟨rfl, hThree, ?_⟩
        by_cases hEnd : s.i * 512 > packs * 512
        · exact ⟨endMarker, by
            rw [if_pos hEnd, if_pos Bool.false_ne_true, hFailed,
              if_pos hThree]⟩
        · exact ⟨packMessage gpdData s.i, by
            rw [if_neg hEnd, if_pos Bool.false_ne_true, hFailed,
              if_pos hThree]⟩
      · right
        right
        left
        refine ⟨rfl, by omega, ?_⟩
        by_cases hEnd : s.i * 512 > packs * 512
        · exact ⟨endMarker, by
            rw [if_pos hEnd, if_pos Bool.false_ne_true, hFailed,
              if_neg hThree]⟩
        · exact ⟨packMessage gpdData s.i, by
            rw [if_neg hEnd, if_pos Bool.false_ne_true, hFailed,
              if_neg hThree]⟩

end Gps

------------------------------------------------------------
-- The Whole Loop
------------------------------------------------------------

namespace Gps

variable {exchange : Nat → Exchange}
variable {gpdData : Nat → UInt8}
variable {packs : Nat}

theorem sendInvariant_start :
    SendInvariant exchange gpdData packs sendStart where
  index_le := Nat.zero_le _
  acked := rfl
  count := rfl
  retries := Nat.zero_le _
  fails_le := Nat.zero_le _
  failed := fun _ _ hLess => absurd hLess (Nat.not_lt_zero _)
  before := fun hNe => absurd rfl hNe
  window := fun _ hLe => absurd hLe (by simp [sendStart])

/- An acknowledged pack keeps the invariant. -/
theorem SendInvariant.advanced
    {s : SendState}
    (hInvariant : SendInvariant exchange gpdData packs s)
    (hAcked : (exchange s.sent.length).acked = true)
    (hIndex : s.i ≤ packs) :
    SendInvariant exchange gpdData packs
      (s.advanced (packMessage gpdData s.i)
        (exchange s.sent.length)) := by
  have hLength : (s.advanced (packMessage gpdData s.i)
      (exchange s.sent.length)).sent.length =
      s.sent.length + 1 := by
    simp [SendState.advanced]
  constructor
  · exact Nat.succ_le_succ hIndex
  · simp only [SendState.advanced,
      ackedMessages_append_singleton, hAcked, if_true,
      hInvariant.acked, List.range_succ, List.map_append,
      List.map_cons, List.map_nil]
  · rw [hLength, acks_succ, hAcked, hInvariant.count]
    rfl
  · exact Nat.zero_le _
  · exact Nat.zero_le _
  · intro j hFrom hLess
    simp only [SendState.advanced] at hFrom hLess
    omega
  · intro _
    rw [hLength]
    exact hAcked
  · intro k hLe
    rw [hLength] at hLe
    by_cases hOld : k + 4 ≤ s.sent.length
    · exact hInvariant.window k hOld
    · exact ⟨s.sent.length, by omega, by omega, hAcked⟩

/- A failure that is not the fourth keeps the invariant. -/
theorem SendInvariant.failed_step
    {s : SendState}
    (hInvariant : SendInvariant exchange gpdData packs s)
    (hAcked : (exchange s.sent.length).acked = false)
    (hRetries : s.sendFailTimes < 3)
    (message : List UInt8) :
    SendInvariant exchange gpdData packs
      (s.failed message (exchange s.sent.length)) := by
  have hLength : (s.failed message
      (exchange s.sent.length)).sent.length =
      s.sent.length + 1 := by
    simp [SendState.failed]
  have hFails : (s.failed message
      (exchange s.sent.length)).sendFailTimes =
      s.sendFailTimes + 1 := rfl
  have hFailsLe := hInvariant.fails_le
  constructor
  · exact hInvariant.index_le
  · simp only [SendState.failed,
      ackedMessages_append_singleton, hAcked,
      Bool.false_eq_true, if_false, List.append_nil]
    exact hInvariant.acked
  · rw [hLength, acks_succ, hAcked, hInvariant.count]
    rfl
  · exact hRetries
  · rw [hLength, hFails]
    omega
  · intro j hFrom hLess
    rw [hLength, hFails] at hFrom
    rw [hLength] at hLess
    by_cases hLast : j = s.sent.length
    · rw [hLast]
      exact hAcked
    · exact hInvariant.failed j (by omega) (by omega)
  · intro hNe
    rw [hLength, hFails] at hNe ⊢
    rw [Nat.add_sub_add_right]
    exact hInvariant.before (by omega)
  · intro k hLe
    rw [hLength] at hLe
    by_cases hOld : k + 4 ≤ s.sent.length
    · exact hInvariant.window k hOld
    · have hBefore := hInvariant.before (by omega)
      exact ⟨_, by omega, by omega, hBefore⟩

/-
  What the result of the loop says about the exchanges, and
  which messages were acknowledged.
-/
structure SendResult
    (exchange : Nat → Exchange)
    (gpdData : Nat → UInt8)
    (packs : Nat)
    (result : Bool × SendState) : Prop where
  recovers : result.1 = true ↔ Recovers exchange (packs + 2)
  acked : result.1 = true →
    ackedMessages result.2.sent =
      (List.range (packs + 1)).map (packMessage gpdData) ++
        [endMarker]

/- The end marker was acknowledged. -/
theorem SendInvariant.ended
    {s : SendState}
    (hInvariant : SendInvariant exchange gpdData packs s)
    (hAcked : (exchange s.sent.length).acked = true)
    (hIndex : s.i = packs + 1) :
    SendResult exchange gpdData packs
      (true,
        { s with
          sent := s.sent ++
            [(endMarker, exchange s.sent.length)] }) := by
  constructor
  · refine iff_of_true rfl ?_
    intro k hFew
    have hTotal : acks exchange (s.sent.length + 1) =
        packs + 2 := by
      rw [acks_succ, hAcked, hInvariant.count, hIndex]
      rfl
    have hLess : k < s.sent.length + 1 := by
      by_contra hLarge
      have hMono := acks_mono exchange (Nat.le_of_not_lt hLarge)
      omega
    by_cases hWindow : k + 4 ≤ s.sent.length
    · exact hInvariant.window k hWindow
    · exact ⟨s.sent.length, by omega, by omega, hAcked⟩
  · intro _
    simp only [ackedMessages_append_singleton, hAcked, if_true,
      hInvariant.acked, hIndex]

/- The fourth failure in a row. -/
theorem SendInvariant.gave_up
    {s : SendState}
    (hInvariant : SendInvariant exchange gpdData packs s)
    (hAcked : (exchange s.sent.length).acked = false)
    (hRetries : s.sendFailTimes = 3)
    (message : List UInt8) :
    SendResult exchange gpdData packs
      (false, s.failed message (exchange s.sent.length)) := by
  have hFailsLe := hInvariant.fails_le
  have hIndex := hInvariant.index_le
  constructor
  · refine iff_of_false Bool.false_ne_true ?_
    intro hRecovers
    have hMono := acks_mono exchange
      (Nat.sub_le s.sent.length 3)
    rw [hInvariant.count] at hMono
    rcases hRecovers (s.sent.length - 3) (by omega) with
      ⟨j, hFrom, hTo, hYes⟩
    by_cases hLast : j = s.sent.length
    · rw [hLast, hAcked] at hYes
      cases hYes
    · rw [hInvariant.failed j (by omega) (by omega)] at hYes
      cases hYes
  · intro hTrue
    cases hTrue

/- The send loop of a padded body, for any exchanges. -/
theorem sendLoop_result
    (hPacks : packs < 128)
    {result : Bool × SendState}
    (hReturns : Loop.Returns
      (sendBody gpdData (packs * 512) exchange) sendStart
      result) :
    SendResult exchange gpdData packs result := by
  refine Loop.Returns.of_invariant
    (SendInvariant exchange gpdData packs)
    ?_ ?_ hReturns sendInvariant_start
  · intro s result hInvariant hDone
    rcases sendBody_cases hPacks hInvariant.index_le
        hInvariant.retries with
      ⟨_, _, hBody⟩ | ⟨hAcked, hIndex, hBody⟩ |
        ⟨_, _, message, hBody⟩ |
        ⟨hAcked, hRetries, message, hBody⟩
    · rw [hBody] at hDone
      cases hDone
    · rw [hBody] at hDone
      cases hDone
      exact hInvariant.ended hAcked hIndex
    · rw [hBody] at hDone
      cases hDone
    · rw [hBody] at hDone
      cases hDone
      exact hInvariant.gave_up hAcked hRetries message
  · intro s s' hInvariant hNext
    rcases sendBody_cases hPacks hInvariant.index_le
        hInvariant.retries with
      ⟨hAcked, hIndex, hBody⟩ | ⟨_, _, hBody⟩ |
        ⟨hAcked, hRetries, message, hBody⟩ |
        ⟨_, _, message, hBody⟩
    · rw [hBody] at hNext
      cases hNext
      exact hInvariant.advanced hAcked hIndex
    · rw [hBody] at hNext
      cases hNext
    · rw [hBody] at hNext
      cases hNext
      exact hInvariant.failed_step hAcked hRetries message
    · rw [hBody] at hNext
      cases hNext

/- The send loop always ends. -/
theorem sendLoop_terminates
    (hPacks : packs < 128) :
    Loop.Terminates
      (sendBody gpdData (packs * 512) exchange) sendStart := by
  refine Loop.terminates_of_measure
    (SendInvariant exchange gpdData packs)
    (fun s => 4 * (packs + 1 - s.i) + (3 - s.sendFailTimes))
    ?_ sendInvariant_start
  intro s hInvariant
  rcases sendBody_cases hPacks hInvariant.index_le
      hInvariant.retries with
    ⟨hAcked, hIndex, hBody⟩ | ⟨_, _, hBody⟩ |
      ⟨hAcked, hRetries, message, hBody⟩ |
      ⟨_, _, message, hBody⟩
  · right
    refine ⟨_, hBody, hInvariant.advanced hAcked hIndex, ?_⟩
    simp only [SendState.advanced]
    omega
  · left
    exact ⟨_, hBody⟩
  · right
    refine ⟨_, hBody,
      hInvariant.failed_step hAcked hRetries message, ?_⟩
    simp only [SendState.failed]
    omega
  · left
    exact ⟨_, hBody⟩

end Gps

------------------------------------------------------------
-- Exact Uploads
------------------------------------------------------------

namespace Gps

variable {exchange : Nat → Exchange}
variable {gpdData : Nat → UInt8}

/- The body of a length, with zeros behind it. -/
def zeroPadded
    (gpdData : Nat → UInt8)
    (len : Nat) : Nat → UInt8 :=
  fun i => if i < len then gpdData i else 0

/- The packs of a body and the end marker, in order. -/
def expectedMessages
    (gpdData : Nat → UInt8)
    (len : Nat) : List (List UInt8) :=
  (List.range ((len + 511) / 512)).map
      (packMessage (zeroPadded gpdData len)) ++
    [endMarker]

/-
  Each pack of the body was acknowledged once and in order,
  and then the end marker, and nothing else was sent.
-/
structure Exact
    (gpdData : Nat → UInt8)
    (len : Nat)
    (sent : List (List UInt8 × Exchange)) : Prop where
  acked : ackedMessages sent = expectedMessages gpdData len
  inside : ∀ message ∈ sent,
    message.1 ∈ expectedMessages gpdData len

/- The padded length is that of whole packs. -/
theorem exists_packs_eq_paddedLen
    {len : Nat}
    (hWidth : len < 65536) :
    ∃ packs, packs < 128 ∧ paddedLen len = packs * 512 := by
  refine ⟨paddedLen len / 512, ?_, ?_⟩
  all_goals
    unfold paddedLen u16 wrap
    split <;> omega

/-
  Whenever the send loop ends normally, for any body and any
  outcomes, it has sent more than the body.
-/
theorem sendLoop_not_exact
    {len : Nat}
    {s : SendState}
    (hReturns : Loop.Returns
      (sendBody (padded gpdData (u16 len))
        (paddedLen (u16 len)) exchange)
      sendStart (true, s)) :
    ¬ Exact gpdData len s.sent := by
  intro hExact
  have hWidth : u16 len < 65536 := by
    unfold u16 wrap
    omega
  rcases exists_packs_eq_paddedLen hWidth with
    ⟨packs, hPacks, hPadded⟩
  rw [hPadded] at hReturns
  have hAcked := (sendLoop_result hPacks hReturns).acked rfl
  have hLength := congrArg List.length
    (hAcked.symm.trans hExact.acked)
  simp only [expectedMessages, List.length_append,
    List.length_map, List.length_range,
    List.length_singleton] at hLength
  unfold paddedLen u16 wrap at hPadded
  split at hPadded <;> omega

/- Every exchange is executed and acknowledged. -/
def alwaysAcked : Nat → Exchange :=
  fun _ => ⟨true, true⟩

theorem recovers_alwaysAcked
    (total : Nat) :
    Recovers alwaysAcked total :=
  fun k _ => ⟨k, Nat.le_refl k, by omega, rfl⟩

theorem exists_returns_alwaysAcked
    {packs : Nat}
    (hPacks : packs < 128) :
    ∃ s,
      Loop.Returns
          (sendBody gpdData (packs * 512) alwaysAcked)
          sendStart (true, s) ∧
        ackedMessages s.sent =
          (List.range (packs + 1)).map (packMessage gpdData) ++
            [endMarker] := by
  have hEnds : Loop.Terminates
      (sendBody gpdData (packs * 512) alwaysAcked) sendStart :=
    sendLoop_terminates hPacks
  rcases hEnds with ⟨⟨success, s⟩, hReturns⟩
  have hResult := sendLoop_result hPacks hReturns
  have hSuccess : success = true :=
    hResult.recovers.mpr (recovers_alwaysAcked _)
  subst hSuccess
  exact ⟨s, hReturns, hResult.acked rfl⟩

/- A body of three bytes, without any failure. -/
theorem sendLoop_not_exact_three_bytes :
    ∃ s,
      Loop.Returns
          (sendBody (padded (fun _ => 7) (u16 (3 : Nat)))
            (paddedLen (u16 (3 : Nat))) alwaysAcked)
          sendStart (true, s) ∧
        ¬ Exact (fun _ => 7) 3 s.sent := by
  have hLen : paddedLen (u16 (3 : Nat)) = 1 * 512 := by
    decide
  have hReturns : ∃ s, Loop.Returns
      (sendBody (padded (fun _ => 7) (u16 (3 : Nat)))
        (paddedLen (u16 (3 : Nat))) alwaysAcked)
      sendStart (true, s) := by
    rw [hLen]
    rcases exists_returns_alwaysAcked
        (show 1 < 128 by decide) with ⟨s, hReturns, _⟩
    exact ⟨s, hReturns⟩
  rcases hReturns with ⟨s, hReturns⟩
  exact ⟨s, hReturns, sendLoop_not_exact hReturns⟩

/- A body of one pack is sent as two. -/
theorem one_pack_sent_as_two :
    ∃ s,
      Loop.Returns
          (sendBody (padded (fun _ => 7) (u16 (512 : Nat)))
            (paddedLen (u16 (512 : Nat))) alwaysAcked)
          sendStart (true, s) ∧
        ¬ Exact (fun _ => 7) 512 s.sent := by
  have hLen : paddedLen (u16 (512 : Nat)) = 1 * 512 := by
    decide
  rw [hLen]
  rcases exists_returns_alwaysAcked
      (show 1 < 128 by decide) with ⟨s, hReturns, hAcked⟩
  refine ⟨s, hReturns, ?_⟩
  intro hExact
  have hLength := congrArg List.length
    (hAcked.symm.trans hExact.acked)
  simp [expectedMessages] at hLength

end Gps
