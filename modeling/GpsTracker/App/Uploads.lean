import GpsTracker.App.RequestPath

/-
  What the server knows behind a whole run.

  A run is recorded with what its reports sample and with
  the requests that are posted. The server reads, in order
  and each once, the positions that the reporting loop lets
  through, with the decimals that are printed. Whatever
  bytes arrive, no request is cut.

  Main declarations:
    * `App.Moment`, `App.Journal`, `App.journal`
    * `App.passed`
    * `App.Journal.Tells`, `App.Journal.Tells.step`
    * `App.server_reads_passed`
-/

open CString Gps Minmea Query

------------------------------------------------------------
-- The Journal
------------------------------------------------------------

namespace App

/-
  What a report finds apart from the GPS: the device, how
  the network and `OS_Malloc` answer its `Http_Post`, and
  what is left in the buffers.
-/
structure Moment where
  device : Device
  network : Network
  malloc : Bool
  buffer2 : List UInt8
  temp : List UInt8
  hRoom : device.imei.length + device.altitude.length ≤ 265
  hBuffer : buffer2.length = 400
  hTemp : temp.length = 2048

/- A request gets to `send`. -/
def Moment.sends (m : Moment) : Bool :=
  HeadSent m.network m.malloc

/- What `Http_Post` sends in a report at this moment. -/
def Tracker.postedIn
    (t : Tracker)
    (m : Moment)
    (status : UInt8) : Option (List UInt8) :=
  t.postedAt m.device m.network m.malloc m.buffer2 m.temp
    status

/- What a report samples; without the GPS, nothing. -/
def Tracker.round
    (t : Tracker)
    (status : UInt8) : Round :=
  { isGpsOn := t.isGpsOn
    position := (coordinates t.info.rmc).getD ⟨0, 0⟩
    status := status }

/-
  The tracker, with the samples of its reports and the
  requests posted, both oldest first. The code keeps
  neither.
-/
structure Journal where
  tracker : Tracker
  rounds : List Round
  requests : List (List UInt8)

def Journal.start : Journal :=
  { tracker := App.start
    rounds := []
    requests := [] }

/- The entries that a step makes. -/
def Journal.enter
    (moment : Nat → Moment)
    (j : Journal) : Event → Journal
  | .report status =>
      { j with
        rounds := j.rounds ++ [j.tracker.round status]
        requests := j.requests ++
          (j.tracker.postedIn (moment j.rounds.length)
            status).toList }
  | _ => j

/- Without a report there is nothing to enter. -/
theorem Journal.enter_of_no_status
    (moment : Nat → Moment)
    (j : Journal)
    {event : Event}
    (hNone : statuses [event] = []) :
    j.enter moment event = j := by
  cases event with
  | report status => cases hNone
  | _ => rfl

def Journal.step
    (moment : Nat → Moment)
    (j : Journal)
    (event : Event) : Option Journal :=
  (App.step j.tracker event).map fun t =>
    { j.enter moment event with tracker := t }

/- The journal of a run. -/
def journal
    (moment : Nat → Moment)
    (events : List Event) : Option Journal :=
  events.foldlM (Journal.step moment) Journal.start

theorem journal_append_singleton
    (moment : Nat → Moment)
    (events : List Event)
    (event : Event) :
    journal moment (events ++ [event]) =
      (journal moment events).bind fun j =>
        j.step moment event := by
  unfold journal
  rw [List.foldlM_append]
  simp

/- Every run has its journal. -/
theorem journal_tracker
    (moment : Nat → Moment)
    (events : List Event) :
    (journal moment events).map Journal.tracker =
      run events := by
  induction events using List.reverseRecOn with
  | nil => rfl
  | append_singleton events event ih =>
      rw [journal_append_singleton, run_append_singleton, ← ih]
      cases journal moment events with
      | none => rfl
      | some j =>
          rw [Option.bind_some, Option.map_some,
            Option.bind_some, Journal.step, Option.map_map]
          exact Option.map_id'

end App

------------------------------------------------------------
-- What the Loop Lets Through
------------------------------------------------------------

namespace App

/-
  The positions that the reporting loop lets through, each
  with the number of its iteration.
-/
def passed (rounds : List Round) : List (Nat × Position) :=
  (List.range rounds.length).filterMap fun k =>
    rounds[k]?.bind fun r =>
      if (iteration (after (rounds.take k)) r).1 then
        some (k, r.position)
      else
        none

theorem passed_append_singleton
    (rounds : List Round)
    (r : Round) :
    passed (rounds ++ [r]) =
      passed rounds ++
        if (iteration (after rounds) r).1 then
          [(rounds.length, r.position)]
        else
          [] := by
  unfold passed
  rw [List.length_append, List.length_singleton,
    List.range_succ, List.filterMap_append]
  congr 1
  · apply List.filterMap_congr
    intro k hk
    have hLess := List.mem_range.mp hk
    rw [List.getElem?_append_left hLess,
      List.take_append_of_le_length hLess.le]
  · rw [List.filterMap_cons, List.filterMap_nil,
      List.getElem?_concat_length, Option.bind_some,
      List.take_left' rfl]
    split <;> simp_all

end App

------------------------------------------------------------
-- What the Server Reads
------------------------------------------------------------

namespace App

/- Who was where, and when. -/
structure Sighting where
  id : List UInt8
  timestamp : ℚ
  position : Position
deriving DecidableEq

def Reading.sighting (reading : Reading) : Sighting :=
  { id := reading.id
    timestamp := reading.timestamp
    position := reading.position }

/- What is meant to be told of an iteration. -/
def Moment.sighting
    (m : Moment)
    (p : Position) : Sighting :=
  { id := m.device.imei
    timestamp := m.device.time
    position := p.printed }

/-
  The requests tell the server what was let through at the
  moments at which a request gets to `send`, and the globals
  are what the samples made of them.
-/
structure Journal.Tells
    (moment : Nat → Moment)
    (j : Journal) : Prop where
  globals : j.tracker.globals = after j.rounds
  range : j.tracker.info.rmc.InRange
  told : j.requests.map (fun request =>
      (serverReading request).map Reading.sighting) =
    ((passed j.rounds).filter fun (k, _) =>
        (moment k).sends).map fun (k, p) =>
      some ((moment k).sighting p)

/- A report is an iteration of the loop with its sample. -/
theorem report_cases
    {t t' : Tracker}
    {status : UInt8}
    (hStep : step t (.report status) = some t') :
    t'.info = t.info ∧
      t'.globals =
        (iteration t.globals (t.round status)).2 ∧
      ∀ m : Moment,
        ((iteration t.globals (t.round status)).1 = false ∧
          t.postedIn m status = none) ∨
        ∃ p, coordinates t.info.rmc = some p ∧
          (t.round status).position = p ∧
          (iteration t.globals (t.round status)).1 = true ∧
          t.postedIn m status =
            if m.sends then
              some (posted m.device t.info p m.buffer2 m.temp)
            else
              none := by
  rcases Option.ite_none_right_eq_some.mp hStep with
    ⟨hPhase, hNext⟩
  unfold Tracker.postedIn Tracker.postedAt Tracker.round
    iteration
  by_cases hOn : t.isGpsOn = true
  · rw [if_pos hOn] at hNext
    simp only [if_pos hOn, if_pos (And.intro hPhase hOn)]
    cases hPosition : coordinates t.info.rmc with
    | none =>
        rw [hPosition] at hNext
        cases hNext
    | some p =>
        rw [hPosition] at hNext
        cases hNext
        refine ⟨rfl, rfl, fun m => ?_⟩
        rw [Option.bind_some, Option.getD_some]
        cases hPosts : (report t.globals p status).1 with
        | false => exact Or.inl ⟨rfl, by simp⟩
        | true =>
            exact Or.inr ⟨p, rfl, rfl, rfl,
              by simp [Moment.sends]⟩
  · rw [if_neg hOn] at hNext
    cases hNext
    exact ⟨rfl, by simp only [if_neg hOn], fun _ =>
      Or.inl ⟨by simp only [if_neg hOn],
        if_neg (not_and_of_not_right _ hOn)⟩⟩

theorem Journal.Tells.report
    {moment : Nat → Moment}
    {j : Journal}
    (hTells : j.Tells moment)
    {status : UInt8}
    {t : Tracker}
    (hStep : App.step j.tracker (.report status) = some t) :
    Journal.Tells moment
      { j.enter moment (.report status) with
        tracker := t } := by
  rcases report_cases hStep with ⟨hInfo, hGlobals, hPosted⟩
  have hRange := hTells.range
  rw [hTells.globals] at hGlobals hPosted
  refine ⟨?_, by rw [hInfo]; exact hRange, ?_⟩
  · show t.globals = after (j.rounds ++ [_])
    rw [after_append_singleton, hGlobals]
  · show (j.requests ++ _).map _ =
      ((passed (j.rounds ++ [_])).filter _).map _
    rw [passed_append_singleton, List.filter_append,
      List.map_append, List.map_append, hTells.told]
    congr 1
    generalize hMoment : moment j.rounds.length = m
    rcases hPosted m with
      ⟨hHeld, hNone⟩ | ⟨p, hPosition, hSampled, hPosts, hSome⟩
    · rw [hNone, hHeld]
      rfl
    · have hFits := @requestText_fits _ j.tracker.info _
        m.hRoom _ hRange hPosition
      rw [hSome, hPosts, hSampled]
      simp only [if_true, List.filter_singleton, hMoment]
      cases hSends : m.sends with
      | false => rfl
      | true =>
          simp only [if_true, cond_true, Option.toList_some,
            List.map_cons, List.map_nil, hMoment]
          rw [serverReading_posted m.hBuffer m.hTemp hFits]
          rfl

theorem Journal.Tells.step
    {moment : Nat → Moment}
    {j j' : Journal}
    (hTells : j.Tells moment)
    {event : Event}
    (hStep : j.step moment event = some j') :
    j'.Tells moment := by
  rcases Option.map_eq_some_iff.mp hStep with ⟨t, hNext, rfl⟩
  cases effect_of_step hNext with
  | quiet hInfo _ hGlobals hNone =>
      rw [j.enter_of_no_status moment hNone]
      exact ⟨hGlobals.trans hTells.globals,
        by rw [hInfo]; exact hTells.range, hTells.told⟩
  | handed line flag hInfo _ hGlobals hNone =>
      have hRmc : t.info.rmc =
          rmcAfter j.tracker.info.rmc [line] := by
        rw [hInfo, rmc_parseOneNmea]
        rfl
      rw [j.enter_of_no_status moment hNone]
      refine ⟨hGlobals.trans hTells.globals, ?_, hTells.told⟩
      rw [hRmc]
      exact rmcAfter_inRange hTells.range [line]
  | reported r _ _ _ hStatus =>
      cases event with
      | report status => exact hTells.report hNext
      | _ => cases hStatus

/- The journal of a whole run tells it. -/
theorem tells_of_journal
    {moment : Nat → Moment}
    {events : List Event}
    {j : Journal}
    (hJournal : journal moment events = some j) :
    j.Tells moment := by
  induction events using List.reverseRecOn generalizing j with
  | nil =>
      cases hJournal
      exact ⟨rfl, inRange_start, rfl⟩
  | append_singleton events event ih =>
      rw [journal_append_singleton] at hJournal
      rcases Option.bind_eq_some_iff.mp hJournal with
        ⟨before, hBefore, hStep⟩
      exact (ih hBefore).step hStep

/-
  In any run, with any bytes received: the server reads the
  positions that the reporting loop lets through, in order
  and none twice, all of them but those whose request does
  not get to `send`.
-/
theorem server_reads_passed
    (moment : Nat → Moment)
    {events : List Event}
    {t : Tracker}
    (hRun : run events = some t) :
    ∃ j, journal moment events = some j ∧ j.tracker = t ∧
      after j.rounds = t.globals ∧
      j.requests.map (fun request =>
          (serverReading request).map Reading.sighting) =
        ((passed j.rounds).filter fun (k, _) =>
            (moment k).sends).map fun (k, p) =>
          some ((moment k).sighting p) := by
  have hTracker := journal_tracker moment events
  rw [hRun] at hTracker
  rcases Option.map_eq_some_iff.mp hTracker with
    ⟨j, hJournal, rfl⟩
  have hTells := tells_of_journal hJournal
  exact ⟨j, hJournal, rfl, hTells.globals.symm, hTells.told⟩

/- The same device at every report, on the network. -/
def sampleMoment : Moment :=
  { device := sampleDevice
    network := .responds []
    malloc := true
    buffer2 := List.replicate 400 0
    temp := List.replicate 2048 0
    hRoom := by decide +kernel
    hBuffer := List.length_replicate
    hTemp := List.length_replicate }

/- At the third report the server is not found. -/
def lostMoment (k : Nat) : Moment :=
  { sampleMoment with
    network :=
      { Network.responds [] with dns := decide (k ≠ 2) } }

/-
  Of four equal positions the first is held back, and the
  request of the third gets lost.
-/
theorem server_reads_passed_northRun :
    ∃ j p q r,
      journal lostMoment
        (northRun ++ List.replicate 3 (.report 1)) = some j ∧
      passed j.rounds = [(1, p), (2, q), (3, r)] ∧
      j.requests.map (fun request =>
          (serverReading request).map Reading.sighting) =
        [some ((lostMoment 1).sighting p),
          some ((lostMoment 3).sighting r)] := by
  have hRun : (run
      (northRun ++ List.replicate 3 (.report 1))).isSome := by
    decide +kernel
  rcases Option.isSome_iff_exists.mp hRun with ⟨t, hRun⟩
  rcases server_reads_passed lostMoment hRun with
    ⟨j, hJournal, _, _, hRead⟩
  have hRounds : (journal lostMoment
      (northRun ++ List.replicate 3 (.report 1))).map (fun j =>
        (passed j.rounds).map Prod.fst) = some [1, 2, 3] := by
    decide +kernel
  rw [hJournal, Option.map_some, Option.some.injEq] at hRounds
  rcases List.map_eq_cons_iff.mp hRounds with
    ⟨⟨_, p⟩, behind, hPassed, rfl, hBehind⟩
  rcases List.map_eq_cons_iff.mp hBehind with
    ⟨⟨_, q⟩, last, rfl, rfl, hLast⟩
  rcases List.map_eq_cons_iff.mp hLast with
    ⟨⟨_, r⟩, rest, rfl, rfl, hRest⟩
  cases List.map_eq_nil_iff.mp hRest
  rw [hPassed] at hRead
  exact ⟨j, p, q, r, hJournal, hPassed, hRead⟩

end App
