import GpsTracker.App.Report
import GpsTracker.Gps.Update
import GpsTracker.Minmea.Blank
import Mathlib.Logic.Relation

/-
  The two tasks of the tracker and their interleavings.

  The main task of `app/src/app.c` dispatches events: it
  calls `GPS_Update` on received bytes and switches the GPS
  on and off. `gps_testTask` waits for a first latitude,
  sends its commands and then reports for ever. The tasks
  share the variables of the GPS library.

  An event is one step of one task; the loops of `GPS_Update`
  and `GPS_Parse` take a step for each iteration, so that a
  report may come between any two lines of a frame, and also
  while `GPS_Update` does not return. A report that divides
  by zero has no next state.

  Main declarations:
    * `App.GpsTask`, `App.GpsTask.advance`
    * `App.Tracker`, `App.step`, `App.run`
    * `App.GpsTask.reaches_of_updates`
    * `App.Effect`, `App.effect_of_step`
    * `App.Tracker.Remembers`, `App.remembers_of_run`
    * `App.exists_rounds_of_run`
    * `App.neverDivides_iff`
-/

open CString Gps Latest Minmea

------------------------------------------------------------
-- The Main Task
------------------------------------------------------------

namespace App

/-
  Where the main task is: waiting for an event, at the top
  of the loop of `GPS_Update`, or at the top of the loop of
  `GPS_Parse` for a frame of these bytes.
-/
inductive GpsTask where
  | waiting (s : State)
  | updating (u : UpdateState)
  | parsing
      (u : UpdateState)
      (bytes : List UInt8)
      (p : ParseState)

namespace GpsTask

/- The variables of the GPS library. -/
def state : GpsTask → State
| .waiting s => s
| .updating u => u.gps
| .parsing u _ p => { u.gps with parser := p.parser }

/- The lines of the frame that is parsed, up to now. -/
def lines : GpsTask → List (List UInt8)
| .parsing _ _ p => p.calls
| _ => []

/- A change that leaves `g_gps_info` as it is. -/
def modify (f : State → State) : GpsTask → GpsTask
| .waiting s => .waiting (f s)
| .updating u => .updating { u with gps := f u.gps }
| .parsing u bytes p =>
    .parsing { u with gps := f u.gps } bytes p

/-
  One iteration of the innermost loop: the lines of a frame
  that is finished by it, and where the task is then.
-/
def advance :
    GpsTask → Option (List (List UInt8) × GpsTask)
| .waiting _ => none
| .updating u =>
    match findFrame u.gps.gpsNmeaBuffer with
    | .nothing => some ([], .waiting u.gps)
    | .openLine => some ([], .updating u)
    | .frame bytes buffer =>
        let gps := { u.gps with gpsNmeaBuffer := buffer }
        some ([],
          .parsing { u with gps := gps } bytes
            (parseStart (tmp bytes) u.gps.parser))
| .parsing u bytes p =>
    match parseBody p with
    | .next p => some ([], .parsing u bytes p)
    | .done p =>
        some (p.calls,
          .updating
            (u.finishFrame bytes u.gps.gpsNmeaBuffer
              p.finish.parser))

/- `GPS_Update` is called, up to its frame loop. -/
def call
    (malloc : Bool)
    (data : List UInt8)
    (s : State) : Option GpsTask :=
  let u := updateStart s data
  if s.semCmdSending then
    (updateCommand malloc u).map fun u => .waiting u.gps
  else
    some (.updating u)

end GpsTask

end App

------------------------------------------------------------
-- The Tracker
------------------------------------------------------------

namespace App

/- How far `gps_testTask` is. -/
inductive Phase where
  | startUp
  | commands
  | reporting
deriving DecidableEq

/-
  Both tasks and the globals of `app.c`. `parsed` records
  the lines of the frames that are parsed, oldest first.
-/
structure Tracker where
  gps : GpsTask
  parsed : List (List UInt8)
  phase : Phase
  isGpsOn : Bool
  globals : Globals

/- The state when `gps_testTask` begins its start-up wait. -/
def start : Tracker :=
  { gps := .waiting { boot with isSaveLog := true }
    parsed := []
    phase := .startUp
    isGpsOn := true
    globals := Globals.init }

namespace Tracker

/- `g_gps_info` -/
def info (t : Tracker) : Info :=
  t.gps.state.parser.info

/- The lines handed to `ParseOneNmea` so far. -/
def handed (t : Tracker) : List (List UInt8) :=
  t.parsed ++ t.gps.lines

end Tracker

/-
  A step of one of the tasks. `received` is the event of the
  GPS UART, `switched` the "open" and "close" of UART1; the
  others are steps of `gps_testTask`, `iterate` apart.
-/
inductive Event where
  | received (malloc : Bool) (data : List UInt8)
  | iterate
  | switched (isGpsOn : Bool)
  | startUpDone
  | commandSent
  | commandEnded
  | initDone
  | report (status : UInt8)

/-
  The start of `GPS_SendCMDWaitAck` for an NMEA command, the
  only format that `gps_testTask` uses.
-/
def sendCommand (s : State) : State :=
  { s with
    semCmdSending := true
    gpsNmeaBuffer := s.gpsNmeaBuffer.clear }

/- The end of a command, after its ack or a time-out. -/
def endCommand (s : State) : State :=
  { s with
    semCmdSending := false
    gpsAckMsg := none }

/- One step; there is none that the tasks cannot make. -/
def step (t : Tracker) : Event → Option Tracker
| .received malloc data =>
    match t.gps with
    | .waiting s =>
        (GpsTask.call malloc data s).map fun gps =>
          { t with gps := gps }
    | _ => none
| .iterate =>
    t.gps.advance.map fun (lines, gps) =>
      { t with
        gps := gps
        parsed := t.parsed ++ lines }
| .switched isGpsOn =>
    match t.gps with
    | .waiting _ => some { t with isGpsOn := isGpsOn }
    | _ => none
| .startUpDone =>
    if t.phase = .startUp ∧
        t.info.rmc.latitude.value ≠ 0 then
      some { t with phase := .commands }
    else
      none
| .commandSent =>
    if t.phase = .commands ∧
        t.gps.state.semCmdSending = false then
      some { t with gps := t.gps.modify sendCommand }
    else
      none
| .commandEnded =>
    if t.phase = .commands ∧
        t.gps.state.semCmdSending = true then
      some { t with gps := t.gps.modify endCommand }
    else
      none
| .initDone =>
    if t.phase = .commands ∧
        t.gps.state.semCmdSending = false then
      some { t with phase := .reporting }
    else
      none
| .report status =>
    if t.phase = .reporting then
      if t.isGpsOn then
        match coordinates t.info.rmc with
        | none => none
        | some p =>
            some
              { t with
                globals := (report t.globals p status).2 }
      else
        some t
    else
      none

/- The state after a run. -/
def run (events : List Event) : Option Tracker :=
  events.foldlM step start

end App

------------------------------------------------------------
-- Steps of a Call
------------------------------------------------------------

namespace App

namespace GpsTask

/- Some iterations lead from one state to the other. -/
def Reaches : GpsTask → GpsTask → Prop :=
  Relation.ReflTransGen fun g g' =>
    ∃ lines, g.advance = some (lines, g')

theorem reaches_of_parse
    (u : UpdateState)
    (bytes : List UInt8)
    {p p' : ParseState}
    (hReturns : Loop.Returns parseBody p p') :
    Reaches (.parsing u bytes p)
      (.updating
        (u.finishFrame bytes u.gps.gpsNmeaBuffer
          p'.finish.parser)) := by
  refine Loop.Returns.induction
    (motive := fun p p' => Reaches (.parsing u bytes p)
      (.updating
        (u.finishFrame bytes u.gps.gpsNmeaBuffer
          p'.finish.parser)))
    ?_ ?_ hReturns
  · intro p p' hBody
    apply Relation.ReflTransGen.single
    exact ⟨p'.calls, by simp only [advance, hBody]⟩
  · intro p next p' hBody ih
    apply Relation.ReflTransGen.head _ ih
    exact ⟨[], by simp only [advance, hBody]⟩

/- One iteration of the frame loop, with its parse. -/
theorem reaches_of_updateBody
    {u u' : UpdateState}
    (hBody : updateBody u = .next u') :
    Reaches (.updating u) (.updating u') := by
  unfold updateBody at hBody
  cases hFound : findFrame u.gps.gpsNmeaBuffer with
  | nothing =>
      simp only [hFound] at hBody
      cases hBody
  | openLine =>
      simp only [hFound] at hBody
      cases hBody
      exact .refl
  | frame bytes buffer =>
      simp only [hFound] at hBody
      cases hParse : parse (tmp bytes) u.gps.parser with
      | none =>
          simp only [hParse] at hBody
          cases hBody
          exact .refl
      | some result =>
          simp only [hParse] at hBody
          cases hBody
          rcases Option.map_eq_some_iff.mp hParse with
            ⟨p, hRun, hResult⟩
          have hFirst : (GpsTask.updating u).advance = some
              ([], .parsing
                { u with gps := { u.gps with
                  gpsNmeaBuffer := buffer } } bytes
                (parseStart (tmp bytes) u.gps.parser)) := by
            simp only [advance, hFound]
          rw [← hResult]
          exact .head ⟨[], hFirst⟩
            (reaches_of_parse _ bytes ⟨_, hRun⟩)

/- A call that returns is a sequence of iterations. -/
theorem reaches_of_updates
    {malloc : Bool}
    {s : State}
    {data : List UInt8}
    {result : UpdateState}
    (hUpdates : Updates malloc s data result) :
    ∃ g, call malloc data s = some g ∧
      g.Reaches (.waiting result.gps) := by
  rcases hUpdates with ⟨fuel, hUpdate⟩
  unfold update at hUpdate
  unfold call
  by_cases hSending : s.semCmdSending = true
  · rw [if_pos hSending] at hUpdate
    simp only [if_pos hSending, hUpdate]
    exact ⟨_, rfl, .refl⟩
  · rw [if_neg hSending] at hUpdate
    simp only [if_neg hSending]
    refine ⟨_, rfl, ?_⟩
    refine Loop.Returns.induction
      (motive := fun u result =>
        Reaches (.updating u) (.waiting result.gps))
      ?_ ?_ ⟨fuel, hUpdate⟩
    · intro u result hBody
      apply Relation.ReflTransGen.single
      refine ⟨[], ?_⟩
      unfold updateBody at hBody
      cases hFound : findFrame u.gps.gpsNmeaBuffer with
      | nothing =>
          simp only [hFound] at hBody
          cases hBody
          simp only [advance, hFound]
      | openLine =>
          simp only [hFound] at hBody
          cases hBody
      | frame bytes buffer =>
          simp only [hFound] at hBody
          split at hBody
          · cases hBody
          · cases hBody
    · intro u next result hBody ih
      exact (reaches_of_updateBody hBody).trans ih

end GpsTask

end App

------------------------------------------------------------
-- What a Step Can Do
------------------------------------------------------------

namespace App

/- The scale of the coordinate is zero. -/
def unknown
    (c : Coordinate)
    (info : Info) : Bool :=
  (c.place.get info.rmc).scale = 0

theorem parseSentence_rmc
    (p : Parser)
    (line : List UInt8)
    {id : SentenceId}
    (hId : id ≠ .rmc) :
    (parseSentence p line id).2.info.rmc = p.info.rmc := by
  cases id with
  | rmc => exact absurd rfl hId
  | gsa =>
      rw [parseSentence]
      split
      · rfl
      · rfl
  | gsv =>
      rw [parseSentence]
      split
      · rfl
      · rfl
  | _ => rfl

/- One line decides, if it has a text for the coordinate. -/
theorem unknown_parseOneNmea
    (c : Coordinate)
    (p : Parser)
    (line : List UInt8)
    (flag : UInt8) :
    unknown c (parseOneNmea p line flag).2.info =
      ((c.text line).map blank).getD (unknown c p.info) := by
  have hInfo := p.enterFrame_info flag
  unfold unknown parseOneNmea
  simp only
  by_cases hId : sentenceId line false = .rmc
  · rw [hId, ← hInfo]
    exact c.parse_scale _ line hId
  · rw [parseSentence_rmc _ line hId, hInfo,
      c.text_of_ne line hId]
    rfl

/- What one iteration of the loop of `GPS_Parse` does. -/
theorem parseBody_cases
    (p : ParseState) :
    parseBody p = .done p ∨
      ∃ p' line,
        parseBody p = .next p' ∧
          p'.calls = p.calls ++ [line] ∧
          p'.parser =
            (parseOneNmea p.parser line p.parser.flag).2 := by
  unfold parseBody
  split
  · exact .inl rfl
  · split
    · exact .inl rfl
    · exact .inr ⟨_, _, rfl, rfl, rfl⟩

/- What one iteration of the main task does. -/
theorem advance_cases
    {g g' : GpsTask}
    {lines : List (List UInt8)}
    (hAdvance : g.advance = some (lines, g')) :
    (lines ++ g'.lines = g.lines ∧
        g'.state.parser.info = g.state.parser.info) ∨
      ∃ line flag,
        lines ++ g'.lines = g.lines ++ [line] ∧
          g'.state.parser =
            (parseOneNmea g.state.parser line flag).2 := by
  cases g with
  | waiting s => cases hAdvance
  | updating u =>
      left
      rw [GpsTask.advance] at hAdvance
      split at hAdvance
      · cases hAdvance
        exact ⟨rfl, rfl⟩
      · cases hAdvance
        exact ⟨rfl, rfl⟩
      · cases hAdvance
        exact ⟨rfl, rfl⟩
  | parsing u bytes p =>
      rw [GpsTask.advance] at hAdvance
      rcases parseBody_cases p with hDone | hNext
      · simp only [hDone] at hAdvance
        cases hAdvance
        exact .inl ⟨List.append_nil _, rfl⟩
      · rcases hNext with ⟨p', line, hBody, hCalls, hParser⟩
        simp only [hBody] at hAdvance
        cases hAdvance
        exact .inr ⟨line, p.parser.flag, hCalls, hParser⟩

theorem parser_handOver
    {malloc : Bool}
    {ack : List UInt8 → Option Nat}
    {index : Fin dataBufferMaxLength}
    {u u' : UpdateState}
    (hHandOver : handOver malloc ack index u = some u') :
    u'.gps.parser = u.gps.parser := by
  unfold handOver at hHandOver
  simp only at hHandOver
  split at hHandOver
  · cases hHandOver
    rfl
  · next bytes buffer hGets =>
      split at hHandOver
      · cases hHandOver
        rfl
      · cases hHandOver
      · cases hHandOver
        rfl

/- An ack is not parsed. -/
theorem parser_updateCommand
    {malloc : Bool}
    {u u' : UpdateState}
    (hUpdate : updateCommand malloc u = some u') :
    u'.gps.parser = u.gps.parser := by
  have hTake {ack : List UInt8 → Option Nat}
      {index : Fin dataBufferMaxLength}
      (hTake : takeAck malloc ack index u = some u') :
      u'.gps.parser = u.gps.parser := by
    unfold takeAck at hTake
    split at hTake
    · cases hTake
      rfl
    · exact parser_handOver hTake
  unfold updateCommand at hUpdate
  simp only at hUpdate
  split at hUpdate
  · exact hTake hUpdate
  · split at hUpdate
    · cases hUpdate
      rfl
    · exact hTake hUpdate

/- The call itself parses nothing. -/
theorem parser_call
    {malloc : Bool}
    {data : List UInt8}
    {s : State}
    {g : GpsTask}
    (hCall : GpsTask.call malloc data s = some g) :
    g.state.parser = s.parser ∧ g.lines = [] := by
  unfold GpsTask.call at hCall
  simp only at hCall
  split at hCall
  · rcases Option.map_eq_some_iff.mp hCall with
      ⟨u, hUpdate, rfl⟩
    exact ⟨parser_updateCommand hUpdate, rfl⟩
  · cases hCall
    exact ⟨rfl, rfl⟩

theorem lines_modify
    (f : State → State)
    (g : GpsTask) :
    (g.modify f).lines = g.lines := by
  cases g with
  | waiting s => rfl
  | updating u => rfl
  | parsing u bytes p => rfl

theorem parser_modify
    {f : State → State}
    (hKeeps : ∀ s, (f s).parser = s.parser)
    (g : GpsTask) :
    (g.modify f).state.parser = g.state.parser := by
  cases g with
  | waiting s => exact hKeeps s
  | updating u => exact hKeeps u.gps
  | parsing u bytes p => rfl

/- The network statuses of the reports of a run. -/
def statuses (events : List Event) : List UInt8 :=
  events.filterMap fun
  | .report status => some status
  | _ => none

/-
  What a step can do: nothing that concerns the coordinates
  or the reports, hand a line over, or make a report.
-/
inductive Effect
    (t : Tracker)
    (event : Event)
    (t' : Tracker) : Prop where
  | quiet
      (hInfo : t'.info = t.info)
      (hHanded : t'.handed = t.handed)
      (hGlobals : t'.globals = t.globals)
      (hStatuses : statuses [event] = [])
  | handed
      (line : List UInt8)
      (flag : UInt8)
      (hInfo : t'.info =
        (parseOneNmea t.gps.state.parser line flag).2.info)
      (hHanded : t'.handed = t.handed ++ [line])
      (hGlobals : t'.globals = t.globals)
      (hStatuses : statuses [event] = [])
  | reported
      (r : Round)
      (hInfo : t'.info = t.info)
      (hHanded : t'.handed = t.handed)
      (hGlobals : t'.globals = (iteration t.globals r).2)
      (hStatuses : statuses [event] = [r.status])

theorem effect_modify
    {t : Tracker}
    {event : Event}
    {f : State → State}
    (hKeeps : ∀ s, (f s).parser = s.parser)
    (hStatuses : statuses [event] = []) :
    Effect t event { t with gps := t.gps.modify f } :=
  .quiet (congrArg Parser.info (parser_modify hKeeps t.gps))
    (congrArg (t.parsed ++ ·) (lines_modify f t.gps))
    rfl hStatuses

theorem effect_iterate
    {t : Tracker}
    {lines : List (List UInt8)}
    {g : GpsTask}
    (hAdvance : t.gps.advance = some (lines, g)) :
    Effect t .iterate
      { t with gps := g, parsed := t.parsed ++ lines } := by
  rcases advance_cases hAdvance with hSame | hLine
  · refine .quiet hSame.2 ?_ rfl rfl
    rw [Tracker.handed, List.append_assoc, hSame.1]
    rfl
  · rcases hLine with ⟨line, flag, hLines, hParser⟩
    refine .handed line flag (congrArg Parser.info hParser)
      ?_ rfl rfl
    rw [Tracker.handed, List.append_assoc, hLines,
      ← List.append_assoc]
    rfl

theorem effect_received
    {t : Tracker}
    {malloc : Bool}
    {data : List UInt8}
    {s : State}
    (hWaiting : t.gps = .waiting s)
    {g : GpsTask}
    (hCall : GpsTask.call malloc data s = some g) :
    Effect t (.received malloc data)
      { t with gps := g } := by
  rcases parser_call hCall with ⟨hParser, hLines⟩
  have hState : g.state.parser = t.gps.state.parser := by
    rw [hParser, hWaiting]
    rfl
  have hSame : g.lines = t.gps.lines := by
    rw [hLines, hWaiting]
    rfl
  exact .quiet (congrArg Parser.info hState)
    (congrArg (t.parsed ++ ·) hSame) rfl rfl

theorem effect_of_step
    {t t' : Tracker}
    {event : Event}
    (hStep : step t event = some t') :
    Effect t event t' := by
  cases event with
  | received malloc data =>
      rw [step] at hStep
      split at hStep
      · next s hWaiting =>
          rcases Option.map_eq_some_iff.mp hStep with
            ⟨g, hCall, rfl⟩
          exact effect_received hWaiting hCall
      · cases hStep
  | iterate =>
      rcases Option.map_eq_some_iff.mp hStep with
        ⟨⟨lines, g⟩, hAdvance, rfl⟩
      exact effect_iterate hAdvance
  | switched isGpsOn =>
      rw [step] at hStep
      split at hStep
      · cases hStep
        exact .quiet rfl rfl rfl rfl
      · cases hStep
  | startUpDone =>
      rcases Option.ite_none_right_eq_some.mp hStep with
        ⟨_, hNext⟩
      cases hNext
      exact .quiet rfl rfl rfl rfl
  | commandSent =>
      rcases Option.ite_none_right_eq_some.mp hStep with
        ⟨_, hNext⟩
      cases hNext
      exact effect_modify (fun _ => rfl) rfl
  | commandEnded =>
      rcases Option.ite_none_right_eq_some.mp hStep with
        ⟨_, hNext⟩
      cases hNext
      exact effect_modify (fun _ => rfl) rfl
  | initDone =>
      rcases Option.ite_none_right_eq_some.mp hStep with
        ⟨_, hNext⟩
      cases hNext
      exact .quiet rfl rfl rfl rfl
  | report status =>
      rcases Option.ite_none_right_eq_some.mp hStep with
        ⟨_, hNext⟩
      split at hNext
      · split at hNext
        · cases hNext
        · next p hPosition =>
            cases hNext
            exact .reported ⟨true, p, status⟩ rfl rfl rfl rfl
      · cases hNext
        exact .reported ⟨false, ⟨0, 0⟩, status⟩ rfl rfl rfl rfl

end App

------------------------------------------------------------
-- What a Run Remembers
------------------------------------------------------------

namespace App

/-
  A coordinate is unknown when the latest text for it in the
  lines handed over was blank; without one, as at the start.
-/
def Tracker.Remembers (t : Tracker) : Prop :=
  ∀ c : Coordinate,
    unknown c t.info =
      ((latest c.text t.handed).map blank).getD
        (unknown c Parser.init.info)

theorem remembers_start : start.Remembers :=
  fun _ => rfl

/- Every step keeps what the scales remember. -/
theorem Tracker.Remembers.step
    {t t' : Tracker}
    (hRemembers : t.Remembers)
    {event : Event}
    (hStep : App.step t event = some t') :
    t'.Remembers := by
  intro c
  cases effect_of_step hStep with
  | quiet hInfo hHanded _ _ =>
      rw [hInfo, hHanded]
      exact hRemembers c
  | handed line flag hInfo hHanded _ _ =>
      rw [hInfo, hHanded, unknown_parseOneNmea,
        latest_append_singleton]
      cases c.text line with
      | none => exact hRemembers c
      | some text => rfl
  | reported r hInfo hHanded _ _ =>
      rw [hInfo, hHanded]
      exact hRemembers c

theorem run_append_singleton
    (events : List Event)
    (event : Event) :
    run (events ++ [event]) =
      (run events).bind fun t => App.step t event := by
  unfold run
  rw [List.foldlM_append]
  simp

/- A whole run keeps it. -/
theorem remembers_of_run
    {events : List Event}
    {t : Tracker}
    (hRun : run events = some t) :
    t.Remembers := by
  induction events using List.reverseRecOn generalizing t with
  | nil =>
      cases hRun
      exact remembers_start
  | append_singleton events event ih =>
      rw [run_append_singleton] at hRun
      rcases Option.bind_eq_some_iff.mp hRun with
        ⟨before, hBefore, hStep⟩
      exact (ih hBefore).step hStep

theorem statuses_append_singleton
    (events : List Event)
    (event : Event) :
    statuses (events ++ [event]) =
      statuses events ++ statuses [event] :=
  List.filterMap_append

/- The reports of a run are a run of the reporting loop. -/
theorem exists_rounds_of_run
    {events : List Event}
    {t : Tracker}
    (hRun : run events = some t) :
    ∃ rounds : List Round,
      rounds.map Round.status = statuses events ∧
        after rounds = t.globals := by
  induction events using List.reverseRecOn generalizing t with
  | nil =>
      cases hRun
      exact ⟨[], rfl, rfl⟩
  | append_singleton events event ih =>
      rw [run_append_singleton] at hRun
      rcases Option.bind_eq_some_iff.mp hRun with
        ⟨before, hBefore, hStep⟩
      rcases ih hBefore with ⟨rounds, hStatuses, hAfter⟩
      have hKept
          (hGlobals : t.globals = before.globals)
          (hNone : statuses [event] = []) :
          rounds.map Round.status =
              statuses (events ++ [event]) ∧
            after rounds = t.globals := by
        rw [statuses_append_singleton, hNone,
          List.append_nil]
        exact ⟨hStatuses, hAfter.trans hGlobals.symm⟩
      cases effect_of_step hStep with
      | quiet _ _ hGlobals hNone =>
          exact ⟨rounds, hKept hGlobals hNone⟩
      | handed _ _ _ _ hGlobals hNone =>
          exact ⟨rounds, hKept hGlobals hNone⟩
      | reported r _ _ hGlobals hStatus =>
          refine ⟨rounds ++ [r], ?_, ?_⟩
          · rw [statuses_append_singleton, hStatus,
              List.map_append, hStatuses]
            rfl
          · rw [after_append_singleton, hAfter, hGlobals]

end App

------------------------------------------------------------
-- Division by Zero
------------------------------------------------------------

namespace App

/- The latest text for the coordinate has a digit. -/
def Known
    (c : Coordinate)
    (lines : List (List UInt8)) : Prop :=
  ∃ text, latest c.text lines = some text ∧
    blank text = false

/-
  No iteration of the reporting loop divides by zero: each
  one that begins with the GPS on converts the coordinates.
-/
def NeverDividesByZero (events : List Event) : Prop :=
  ∀ before status rest t,
    events = before ++ .report status :: rest →
    run before = some t →
    t.phase = .reporting → t.isGpsOn = true →
    (coordinates t.info.rmc).isSome

/- Both coordinates are known wherever a report begins. -/
def ReportsKnown (events : List Event) : Prop :=
  ∀ before status rest t,
    events = before ++ .report status :: rest →
    run before = some t →
    t.phase = .reporting → t.isGpsOn = true →
    Known .latitude t.handed ∧ Known .longitude t.handed

theorem Tracker.Remembers.scale_ne_zero_iff
    {t : Tracker}
    (hRemembers : t.Remembers)
    {c : Coordinate}
    (hInit : unknown c Parser.init.info = true) :
    (c.place.get t.info.rmc).scale ≠ 0 ↔
      Known c t.handed := by
  have hUnknown := hRemembers c
  rw [hInit] at hUnknown
  have hScale : (c.place.get t.info.rmc).scale ≠ 0 ↔
      unknown c t.info = false := by
    simp [unknown]
  rw [hScale, hUnknown, Known]
  cases latest c.text t.handed with
  | none => simp
  | some text => simp

/-
  A run never divides by zero exactly when each report finds
  the latest text of both coordinates with a digit.
-/
theorem neverDivides_iff
    (events : List Event) :
    NeverDividesByZero events ↔ ReportsKnown events := by
  have hReport : ∀ before t, run before = some t →
      ((coordinates t.info.rmc).isSome ↔
        Known .latitude t.handed ∧
          Known .longitude t.handed) := by
    intro before t hRun
    have hRemembers := remembers_of_run hRun
    rw [coordinates_isSome_iff]
    exact and_congr
      (hRemembers.scale_ne_zero_iff (c := .latitude) rfl)
      (hRemembers.scale_ne_zero_iff (c := .longitude) rfl)
  constructor
  · intro hNever before status rest t hEvents hRun hPhase hOn
    exact (hReport before t hRun).mp
      (hNever before status rest t hEvents hRun hPhase hOn)
  · intro hKnown before status rest t hEvents hRun hPhase hOn
    exact (hReport before t hRun).mpr
      (hKnown before status rest t hEvents hRun hPhase hOn)

/- A fix, then a frame whose RMC sentence has lost it. -/
def lostFix : List Event :=
  [.received false (ascii ("$GPRMC,081836,A,3751.65,S," ++
      "14507.36,E,000.0,360.0,130998,011.3,E*62\r\n" ++
      "$GPVTG\r\n"))] ++
    List.replicate 5 .iterate ++
    [.startUpDone, .initDone,
      .received false (ascii
        "$GPRMC,,V,,,,,,,,,,N*53\r\n$GPVTG\r\n")] ++
    List.replicate 5 .iterate

/- The report behind it divides by zero. -/
theorem lostFix_divides :
    ¬ NeverDividesByZero (lostFix ++ [.report 1]) := by
  intro hNever
  have hRun : ((run lostFix).map fun t =>
      t.phase = .reporting && t.isGpsOn &&
        (coordinates t.info.rmc).isNone) = some true := by
    decide +kernel
  rcases Option.map_eq_some_iff.mp hRun with ⟨t, hRun, hEnd⟩
  simp only [Bool.and_eq_true, decide_eq_true_eq,
    Option.isNone_iff_eq_none] at hEnd
  rcases hEnd with ⟨⟨hPhase, hOn⟩, hNone⟩
  have hSome := hNever lostFix 1 [] t rfl hRun hPhase hOn
  rw [hNone] at hSome
  cases hSome

end App
