import GpsTracker.App.Wire

/-
  What the receiver reports is handed over, and posted.

  While no command is sent the main task takes every frame
  out of the stream, in any number of calls of `GPS_Update`
  and in any order with the reports. Whatever came before
  the bursts, when the task waits again each line of them
  was handed over, once and in order, and a report that is
  not held back posts the fix of their latest RMC record.

  Main declarations:
    * `App.GpsTask.pending`, `App.Drains`, `App.Drains.step`
    * `App.Listens`, `App.Listens.handed_bursts`
    * `App.burst_reaches_server`
-/

open CString Gps ListSearch Minmea

------------------------------------------------------------
-- Frames Taken out of a Stream
------------------------------------------------------------

namespace App

/- The lines of a frame that `GPS_Parse` hands over. -/
def frameLines (bytes : List UInt8) : List (List UInt8) :=
  handed (text bytes)

/- The lines still to come of the frame that is parsed. -/
def GpsTask.pending : GpsTask → List (List UInt8)
| .parsing _ bytes p => handed ((text bytes).drop p.nmeas)
| _ => []

/-
  The task waits only when no frame is left, and the loop of
  `GPS_Parse` is inside the string of its frame.
-/
def GpsTask.InPlace : GpsTask → Prop
| .waiting s => frameSegmenter.cut s.live = none
| .updating _ => True
| .parsing _ bytes p => ∃ rest, p.Inside (text bytes) rest

/-
  The frames of the stream are those taken out, whose lines
  came behind the old ones, and those still in the buffer.
-/
structure Drains
    (stream : List UInt8)
    (old : List (List UInt8))
    (taken : List (List UInt8))
    (t : Tracker) : Prop where
  idle : t.gps.state.semCmdSending = false
  segments : frameSegmenter.segments stream =
    taken ++ frameSegmenter.segments t.live
  rest : frameSegmenter.rest stream =
    frameSegmenter.rest t.live
  handed : t.handed ++ t.gps.pending =
    old ++ taken.flatMap frameLines
  inPlace : t.gps.InPlace

variable {stream : List UInt8}
variable {old taken : List (List UInt8)}
variable {t t' : Tracker}
variable {g : GpsTask}
variable {lines : List (List UInt8)}

/- A task that waits with no frame left starts a stream. -/
theorem drains_waiting
    {s : State}
    (hWaiting : t.gps = .waiting s)
    (hIdle : s.semCmdSending = false)
    (hCut : frameSegmenter.cut s.live = none) :
    Drains t.live t.handed [] t :=
  { idle := by
      rw [hWaiting]
      exact hIdle
    segments := rfl
    rest := rfl
    handed := by
      rw [hWaiting]
      rfl
    inPlace := by
      rw [hWaiting]
      exact hCut }

/- A task that waits has taken all frames out. -/
theorem Drains.of_waiting
    (hDrains : Drains stream old taken t)
    {s : State}
    (hWaiting : t.gps = .waiting s) :
    frameSegmenter.segments stream = taken ∧
      frameSegmenter.rest stream = t.live ∧
      t.handed = old ++ taken.flatMap frameLines := by
  have hCut := hDrains.inPlace
  have hHanded := hDrains.handed
  have hLive := Tracker.live_waiting hWaiting
  rw [hWaiting] at hCut hHanded
  rw [hDrains.segments, hDrains.rest, hLive,
    Segmenter.segments_of_cut_none hCut,
    Segmenter.rest_of_cut_none hCut]
  refine ⟨List.append_nil _, rfl, ?_⟩
  rw [← hHanded]
  exact (List.append_nil _).symm

end App

------------------------------------------------------------
-- Steps
------------------------------------------------------------

namespace App

variable {stream : List UInt8}
variable {old taken : List (List UInt8)}
variable {t t' : Tracker}
variable {g : GpsTask}
variable {lines : List (List UInt8)}

theorem Drains.same
    (hDrains : Drains stream old taken t)
    (hGps : t'.gps = t.gps)
    (hParsed : t'.parsed = t.parsed) :
    Drains stream old taken t' := by
  have hLive : t'.live = t.live := by
    rw [Tracker.live, hGps]
    rfl
  have hHanded : t'.handed = t.handed := by
    rw [Tracker.handed, hGps, hParsed]
    rfl
  exact
    { idle := by
        rw [hGps]
        exact hDrains.idle
      segments := by
        rw [hLive]
        exact hDrains.segments
      rest := by
        rw [hLive]
        exact hDrains.rest
      handed := by
        rw [hHanded, hGps]
        exact hDrains.handed
      inPlace := by
        rw [hGps]
        exact hDrains.inPlace }

/- Bytes arrive behind those that wait in the buffer. -/
theorem Drains.received
    (hDrains : Drains stream old taken t)
    {s : State}
    (hWaiting : t.gps = .waiting s)
    {malloc : Bool}
    {data : List UInt8}
    (hCall : GpsTask.call malloc data s = some g)
    (hRoom : (s.live ++ data).length < dataBufferMaxLength) :
    Drains (stream ++ data) old taken
      { t with gps := g } := by
  rcases hDrains.of_waiting hWaiting with
    ⟨hSegments, hRest, hHanded⟩
  have hIdle := hDrains.idle
  rw [hWaiting] at hIdle
  have hLive := Tracker.live_waiting hWaiting
  have hStart := live_updateStart_of_fits hRoom
  have hSplit := frameSegmenter.split_append stream data
  rw [hSegments, hRest, hLive] at hSplit
  have hTaken : (frameSegmenter.split (stream ++ data)).1 =
      taken ++ frameSegmenter.segments (s.live ++ data) := by
    rw [hSplit]
  have hBehind : (frameSegmenter.split (stream ++ data)).2 =
      frameSegmenter.rest (s.live ++ data) := by
    rw [hSplit]
  unfold GpsTask.call at hCall
  rw [if_neg (by
    rw [show s.semCmdSending = false from hIdle]
    exact Bool.false_ne_true)] at hCall
  cases hCall
  exact
    { idle := hIdle
      segments := by
        show _ = taken ++ frameSegmenter.segments
          (updateStart s data).gps.live
        rw [hStart]
        exact hTaken
      rest := by
        show _ = frameSegmenter.rest
          (updateStart s data).gps.live
        rw [hStart]
        exact hBehind
      handed := by
        rw [← hHanded, Tracker.handed, Tracker.handed,
          hWaiting]
        exact List.append_nil _
      inPlace := trivial }

/- A frame is taken out, or none is left. -/
theorem Drains.updating
    (hDrains : Drains stream old taken t)
    {u : UpdateState}
    (hGps : t.gps = .updating u)
    (hAdvance : (GpsTask.updating u).advance =
      some (lines, g)) :
    ∃ taken', Drains stream old taken'
      { t with gps := g, parsed := t.parsed ++ lines } := by
  have hLive := Tracker.live_updating hGps
  have hIdle := hDrains.idle
  have hSegments := hDrains.segments
  have hRest := hDrains.rest
  have hHanded := hDrains.handed
  rw [Tracker.handed, hGps] at hHanded
  rw [hGps] at hIdle
  rw [hLive] at hSegments hRest
  cases hCut : frameSegmenter.cut u.gps.live with
  | none =>
      rw [GpsTask.advance] at hAdvance
      rcases findFrame_of_cut_none hCut with hFound | hFound
      · rw [hFound] at hAdvance
        cases hAdvance
        exact ⟨taken, hIdle, hSegments, hRest,
          by rw [Tracker.handed, List.append_nil]; exact hHanded,
          hCut⟩
      · rw [hFound] at hAdvance
        cases hAdvance
        exact ⟨taken, hIdle, hSegments, hRest,
          by rw [Tracker.handed, List.append_nil]; exact hHanded,
          trivial⟩
  | some n =>
      rcases findFrame_of_cut hCut with
        ⟨buffer, hFound, hBuffer⟩
      rcases frameCut_eq_some_iff.mp hCut with
        ⟨vtg, length, _, _, hn⟩
      have hFits : (u.gps.live.take n).length ≤
          nmeaFrameBufferLength := by
        rw [hn]
        exact (List.length_take_le _ _).trans
          (min_le_right _ _)
      rcases exists_eq_text_append (nul_mem_tmp hFits) with
        ⟨rest, hMemory⟩
      rw [text_tmp] at hMemory
      rw [GpsTask.advance, hFound] at hAdvance
      cases hAdvance
      refine ⟨taken ++ [u.gps.live.take n],
        { idle := hIdle
          segments := ?_
          rest := ?_
          handed := ?_
          inPlace := ⟨rest, hMemory, Nat.zero_le _⟩ }⟩
      · show _ = _ ++ frameSegmenter.segments buffer.contents
        rw [hSegments, Segmenter.segments_of_cut_some hCut,
          hBuffer, List.append_assoc]
        rfl
      · show _ = frameSegmenter.rest buffer.contents
        rw [hRest, Segmenter.rest_of_cut_some hCut, hBuffer]
        rfl
      · rw [List.flatMap_append, ← List.append_assoc,
          ← hHanded, Tracker.handed]
        simp [GpsTask.lines, GpsTask.pending, parseStart,
          frameLines]
        rfl

/- A line is handed over, or the frame is finished. -/
theorem Drains.parsing
    (hDrains : Drains stream old taken t)
    {u : UpdateState}
    {bytes : List UInt8}
    {p : ParseState}
    (hGps : t.gps = .parsing u bytes p)
    (hAdvance : (GpsTask.parsing u bytes p).advance =
      some (lines, g)) :
    Drains stream old taken
      { t with gps := g, parsed := t.parsed ++ lines } := by
  have hLive := Tracker.live_parsing hGps
  have hIdle := hDrains.idle
  have hSegments := hDrains.segments
  have hRest := hDrains.rest
  have hHanded := hDrains.handed
  have hInPlace := hDrains.inPlace
  rw [Tracker.handed, hGps] at hHanded
  rw [hGps] at hIdle hInPlace
  rw [hLive] at hSegments hRest
  rcases hInPlace with ⟨rest, hInside⟩
  have hNul := nul_notMem_text bytes
  rw [GpsTask.pending, GpsTask.lines] at hHanded
  cases hSpan : sentenceSpan ((text bytes).drop p.nmeas) with
  | none =>
      have hBody := parseBody_of_span_none hNul hInside hSpan
      simp only [GpsTask.advance, hBody] at hAdvance
      cases hAdvance
      rw [handed_of_span_none hSpan] at hHanded
      refine ⟨hIdle, hSegments, hRest, ?_, trivial⟩
      rw [← hHanded, Tracker.handed]
      simp [GpsTask.lines, GpsTask.pending]
  | some span =>
      rcases span with ⟨start, stop⟩
      have hBody := parseBody_of_span_some hNul hInside hSpan
      have hCursor := nmeas_pass hSpan
      simp only [GpsTask.advance, hBody] at hAdvance
      cases hAdvance
      rw [handed_of_span_some hSpan, List.drop_drop]
        at hHanded
      refine ⟨hIdle, hSegments, hRest, ?_,
        rest, hInside.pass hSpan⟩
      rw [← hHanded, Tracker.handed, GpsTask.pending, hCursor]
      simp [GpsTask.lines, ParseState.pass]

end App

------------------------------------------------------------
-- Runs without a Command
------------------------------------------------------------

namespace App

variable {stream : List UInt8}
variable {old taken : List (List UInt8)}
variable {t t' : Tracker}

theorem Drains.advance
    (hDrains : Drains stream old taken t)
    {lines : List (List UInt8)}
    {g : GpsTask}
    (hAdvance : t.gps.advance = some (lines, g)) :
    ∃ taken', Drains stream old taken'
      { t with gps := g, parsed := t.parsed ++ lines } := by
  cases hGps : t.gps with
  | waiting s =>
      rw [hGps] at hAdvance
      cases hAdvance
  | updating u =>
      rw [hGps] at hAdvance
      exact hDrains.updating hGps hAdvance
  | parsing u bytes p =>
      rw [hGps] at hAdvance
      exact ⟨taken, hDrains.parsing hGps hAdvance⟩

theorem Drains.step
    (hDrains : Drains stream old taken t)
    {event : Event}
    (hStep : App.step t event = some t')
    (hQuiet : event ≠ .commandSent)
    (hRoom : t.HasRoom event) :
    ∃ taken', Drains (stream ++ event.data) old taken' t' := by
  cases gpsStep_of_step hStep with
  | received hEvent hWaiting hCall hNext =>
      subst hEvent hNext
      unfold Tracker.HasRoom at hRoom
      rw [Tracker.live_waiting hWaiting] at hRoom
      exact ⟨taken, hDrains.received hWaiting hCall hRoom⟩
  | advanced hEvent hAdvance hNext =>
      subst hEvent hNext
      simp only [Event.data, List.append_nil]
      exact hDrains.advance hAdvance
  | sent hEvent _ => exact absurd hEvent hQuiet
  | ended _ hSending _ =>
      rw [hDrains.idle] at hSending
      cases hSending
  | same hData hGps hParsed =>
      rw [hData, List.append_nil]
      exact ⟨taken, hDrains.same hGps hParsed⟩

variable {before after : List Event}
variable {first : Tracker}

/- From here on no `Buffer_Puts` of a run is refused. -/
def TakenBehind (before after : List Event) : Prop :=
  ∀ between event t,
    between ++ [event] <+: after →
      run (before ++ between) = some t → t.HasRoom event

theorem TakenBehind.earlier
    {event : Event}
    (hTaken : TakenBehind before (after ++ [event])) :
    TakenBehind before after :=
  fun between next t hBetween =>
    hTaken between next t
      (hBetween.trans (List.prefix_append _ _))

/- From a task that waits on, through a run. -/
theorem drains_of_run
    (hBefore : run before = some first)
    (hStart : Drains first.live first.handed [] first)
    (hRun : run (before ++ after) = some t)
    (hTaken : TakenBehind before after)
    (hQuiet : .commandSent ∉ after) :
    ∃ taken,
      Drains (first.live ++ arrived after) first.handed taken
        t := by
  induction after using List.reverseRecOn generalizing t with
  | nil =>
      rw [List.append_nil, hBefore] at hRun
      cases hRun
      refine ⟨[], ?_⟩
      rw [show arrived [] = [] from rfl, List.append_nil]
      exact hStart
  | append_singleton after event ih =>
      rw [← List.append_assoc, run_append_singleton] at hRun
      rcases Option.bind_eq_some_iff.mp hRun with
        ⟨middle, hMiddle, hStep⟩
      rw [List.mem_append, not_or, List.mem_singleton]
        at hQuiet
      rcases ih hMiddle hTaken.earlier hQuiet.1 with
        ⟨taken, hDrains⟩
      rw [arrived_append_singleton, ← List.append_assoc]
      exact hDrains.step hStep (Ne.symm hQuiet.2)
        (hTaken after event middle List.prefix_rfl hMiddle)

end App

------------------------------------------------------------
-- Bursts
------------------------------------------------------------

namespace App

variable {before after : List Event}
variable {first t : Tracker}

/- The main task waits for an event. -/
def GpsTask.waits : GpsTask → Bool
| .waiting _ => true
| _ => false

theorem GpsTask.exists_of_waits
    {g : GpsTask}
    (hWaits : g.waits = true) :
    ∃ s, g = .waiting s := by
  cases g with
  | waiting s => exact ⟨s, rfl⟩
  | updating u => cases hWaits
  | parsing u bytes p => cases hWaits

/-
  The end of a run, from where the main task waits with no
  command in flight and no frame left to where it waits
  again: in between no command is sent and no chunk is
  refused.
-/
structure Listens
    (before after : List Event)
    (first t : Tracker) : Prop where
  ran : run before = some first
  runs : run (before ++ after) = some t
  taken : TakenBehind before after
  quiet : .commandSent ∉ after
  idle : first.gps.state.semCmdSending = false
  drained : frameSegmenter.cut first.live = none
  waits : first.gps.waits = true
  waitsAgain : t.gps.waits = true

/- All frames of what arrives are parsed. -/
theorem Listens.handed_eq
    (hListens : Listens before after first t) :
    t.handed = first.handed ++
        (frameSegmenter.segments
          (first.live ++ arrived after)).flatMap frameLines ∧
      t.live =
        frameSegmenter.rest (first.live ++ arrived after) := by
  rcases GpsTask.exists_of_waits hListens.waits with
    ⟨s, hFirst⟩
  rcases GpsTask.exists_of_waits hListens.waitsAgain with
    ⟨last, hLast⟩
  have hIdle := hListens.idle
  have hCut := hListens.drained
  rw [hFirst] at hIdle
  rw [Tracker.live_waiting hFirst] at hCut
  rcases drains_of_run hListens.ran
    (drains_waiting hFirst hIdle hCut) hListens.runs
    hListens.taken hListens.quiet with ⟨taken, hDrains⟩
  rcases hDrains.of_waiting hLast with
    ⟨rfl, hRest, hHanded⟩
  exact ⟨hHanded, hRest.symm⟩

/-
  The bursts of a receiver, behind whatever ends with a
  frame: their lines are handed over, each once and in
  order, and what follows them stays in the buffer.
-/
theorem Listens.handed_bursts
    (hListens : Listens before after first t)
    {front rest : List UInt8}
    {bursts : List Burst}
    (hFront : frameSegmenter.rest front = [])
    (hRest : frameSegmenter.cut rest = none)
    (hStream : first.live ++ arrived after =
      front ++ ((bursts.map Burst.bytes).flatten ++ rest)) :
    t.handed = first.handed ++
        (frameSegmenter.segments front).flatMap frameLines ++
        bursts.flatMap Burst.lines ∧
      t.live = rest := by
  rcases hListens.handed_eq with ⟨hHanded, hLive⟩
  rcases segments_bursts bursts hRest with
    ⟨hBursts, hBehind⟩
  have hSplit := frameSegmenter.split_append front
    ((bursts.map Burst.bytes).flatten ++ rest)
  rw [hFront, List.nil_append, hBursts, hBehind] at hSplit
  have hLines : (bursts.map Burst.bytes).flatMap frameLines =
      bursts.flatMap Burst.lines := by
    rw [List.flatMap_map]
    exact List.flatMap_congr fun b _ => handed_text_burst b
  rw [hStream, Segmenter.segments, hSplit,
    List.flatMap_append, hLines, ← List.append_assoc]
    at hHanded
  rw [hStream, Segmenter.rest, hSplit] at hLive
  exact ⟨hHanded, hLive⟩

/- Older lines do not change the latest record. -/
theorem LatestRecord.append_left
    {lines : List (List UInt8)}
    {r : RmcRecord}
    (hLatest : LatestRecord lines r)
    (older : List (List UInt8)) :
    LatestRecord (older ++ lines) r := by
  rcases hLatest with
    ⟨before, talker, after, rfl, hShort, hAfter⟩
  exact ⟨older ++ before, talker, after,
    (List.append_assoc _ _ _).symm, hShort, hAfter⟩

/-
  What a receiver reports in bursts is posted: a report that
  is not held back tells the server the fix of their latest
  RMC record, whatever was received before the bursts.
-/
theorem burst_reaches_server
    (hListens : Listens before after first t)
    {front rest : List UInt8}
    {bursts : List Burst}
    (hFront : frameSegmenter.rest front = [])
    (hRest : frameSegmenter.cut rest = none)
    (hStream : first.live ++ arrived after =
      front ++ ((bursts.map Burst.bytes).flatten ++ rest))
    {r : RmcRecord}
    (hLatest : LatestRecord (bursts.flatMap Burst.lines) r)
    {p : Fix}
    (hFix : r.fix = some p)
    (hPhase : t.phase = .reporting)
    (hOn : t.isGpsOn = true)
    {status : UInt8}
    (hPosts : (report t.globals (ofFix p) status).1 = true)
    (m : Moment)
    (hSends : m.sends = true) :
    ∃ request reading,
      t.postedIn m status = some request ∧
        serverReading request = some reading ∧
        reading.id = m.device.imei ∧
        reading.timestamp = m.device.time ∧
        reading.position.Within (ofFix p) (1 / 2 / 10 ^ 6) := by
  have hHolds : t.info.rmc = _ :=
    holdsRmc_of_run hListens.runs
  have hRange : t.info.rmc.InRange := by
    rw [hHolds]
    exact rmcAfter_inRange inRange_start t.handed
  have hHanded :=
    (hListens.handed_bursts hFront hRest hStream).1
  have hNow : LatestRecord t.handed r := by
    rw [hHanded]
    exact hLatest.append_left _
  rw [rmcAfter_of_latestRecord hNow] at hHolds
  exact exists_reading_of_frame hHolds hRange hFix hPhase hOn
    hPosts m.hRoom (of_decide_eq_true hSends) m.hBuffer m.hTemp

theorem noVtg_northFix :
    ¬ Occurs (ascii "VTG") (Record.line gp (.rmc northFix)) := by
  rw [← find_eq_none_iff]
  decide +kernel

/- A burst with the position of `northFix`. -/
def northBurst : Burst :=
  { reports := [(gp, .rmc northFix)]
    talker := gp
    vtg := blankBurst.vtg
    hShort := List.forall_mem_singleton.mpr short_northFix
    hShortVtg := blankBurst.hShortVtg
    hNoVtg := List.forall_mem_singleton.mpr noVtg_northFix
    hFits := by decide +kernel }

/- The burst, the end of the start-up, and a report. -/
def burstRun : List Event :=
  [.received false northBurst.bytes] ++
    List.replicate 5 .iterate ++
    [.startUpDone, .initDone, .report 1]

theorem burst_reaches_server_northBurst :
    ∃ t p request reading,
      run burstRun = some t ∧ northFix.fix = some p ∧
        t.postedIn sampleMoment 1 = some request ∧
        serverReading request = some reading ∧
        reading.position.Within (ofFix p) (1 / 2 / 10 ^ 6) := by
  rcases hFix : northFix.fix with _ | p
  · cases hFix
  have hRun : ((run burstRun).map fun t =>
      (decide (t.phase = .reporting), t.isGpsOn, t.gps.waits,
        northFix.fix.map fun p =>
          (report t.globals (ofFix p) 1).1)) =
      some (true, true, true, some true) := by
    decide +kernel
  rcases Option.map_eq_some_iff.mp hRun with ⟨t, hRun, hEnd⟩
  simp only [Prod.mk.injEq, decide_eq_true_eq, hFix,
    Option.map_some, Option.some.injEq] at hEnd
  rcases hEnd with ⟨hPhase, hOn, hWaits, hPosts⟩
  have hLive : start.live = [] := live_boot
  have hListens : Listens [] burstRun start t :=
    { ran := rfl
      runs := hRun
      taken := taken_of_first
        (by unfold Tracker.HasRoom; decide +kernel)
        (by decide)
      quiet := by simp [burstRun]
      idle := rfl
      drained := by
        rw [hLive]
        decide
      waits := rfl
      waitsAgain := hWaits }
  have hStream : start.live ++ arrived burstRun =
      [] ++ (([northBurst].map Burst.bytes).flatten ++ []) := by
    rw [hLive]
    decide +kernel
  have hLatest : LatestRecord
      ([northBurst].flatMap Burst.lines) northFix := by
    refine ⟨[], gp, [Record.line gp (.vtg northBurst.vtg)],
      rfl, short_northFix, ?_⟩
    simp only [List.forall_mem_singleton]
    decide +kernel
  rcases burst_reaches_server hListens
    (Segmenter.rest_of_cut_none (by decide)) (by decide)
    hStream hLatest hFix hPhase hOn hPosts sampleMoment rfl with
    ⟨request, reading, hPosted, hRead, _, _, hWithin⟩
  exact ⟨t, p, request, reading, hRun, rfl, hPosted, hRead,
    hWithin⟩

end App
