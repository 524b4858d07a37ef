import GpsTracker.Lib.Transition
import GpsTracker.Gps.Update

/-
  The bring-up of `app.c`: `gps_testTask` from its wait for
  the network to `GPS_Open`, beside the events that
  `EventDispatch` handles.

  A GPS UART event occurs only while the GPS is open. The
  "open" command of UART1 opens it whether or not
  `GPS_Init` has run, and the events that follow find a
  buffer whose `maxSize` is zero.

  Main declarations:
    * `App.BringupState`, `App.powerOn`
    * `App.dispatch`, `App.testTask`, `App.bringup`
    * `App.openedEarly`
    * `App.buffer_ready_iff`
-/

open CString Machine Gps

------------------------------------------------------------
-- State
------------------------------------------------------------

namespace App

/- The next statement of `gps_testTask`. -/
inductive TestTask where
  | waiting
  | initialising
  | savingLog
  | opening
  | started
deriving DecidableEq

/- `GPS_Init` is still to come. -/
def TestTask.beforeInit : TestTask → Bool
  | .waiting => true
  | .initialising => true
  | _ => false

/-
  The variables the bring-up works on. `gps` is `none` as
  long as `GPS_Init` has not run: the static memory of the
  buffer is zero. `crashed` tells that a remainder by zero
  has been computed; the code does not go on from there.
-/
structure BringupState where
  networkFlag : Bool
  isGpsOn : Bool
  gpsOpen : Bool
  task : TestTask
  gps : Option State
  crashed : Bool

/- The state in which the tasks are created. -/
def powerOn : BringupState :=
  { networkFlag := false
    isGpsOn := true
    gpsOpen := false
    task := .waiting
    gps := none
    crashed := false }

/- `gpsNmeaBuffer.maxSize` -/
def maxSize : Option State → Nat
  | none => 0
  | some _ => dataBufferMaxLength

/- `x % n`, that has no value for a zero `n`. -/
def remainder
    (x n : Nat) : Option Nat :=
  if n = 0 then none else some (x % n)

/- `Buffer_Size` of `gpsNmeaBuffer`. -/
def bufferSize (gps : Option State) : Option Nat :=
  let rear := gps.elim 0 fun s => s.gpsNmeaBuffer.rear.val
  let front := gps.elim 0 fun s => s.gpsNmeaBuffer.front.val
  remainder (u32 (rear - front + maxSize gps)) (maxSize gps)

theorem bufferSize_none :
    bufferSize none = none := rfl

theorem bufferSize_some
    (s : State) :
    bufferSize (some s) = some s.gpsNmeaBuffer.size := rfl

end App

------------------------------------------------------------
-- Events
------------------------------------------------------------

namespace App

/-
  The events of `EventDispatch` that act on these variables,
  and all others. A GPS UART event carries the bounds of the
  call it leads to.
-/
inductive ApiEvent where
  | noSimcard
  | networkRegisterSearching
  | networkActivated
  | uartReceived
      (uart : Nat)
      (data : List UInt8)
  | gpsUartReceived
      (fuel : Nat)
      (malloc : Bool)
      (data : List UInt8)
  | other

/-
  What happens next: an event, or a statement of the task.
  Once started, the task sends commands; a statement of one
  may leave any state behind that `GPS_Init` has set up.
-/
inductive BringupEvent where
  | dispatch (event : ApiEvent)
  | task
  | command (gps : State)

/- `UART1` -/
def uart1 : Nat := 1

/- The string that a UART event carries. -/
def isCommand
    (command : String)
    (uart : Nat)
    (data : List UInt8) : Bool :=
  uart == uart1 && text (data ++ [0]) == ascii command

/-
  `GPS_Update`: the first thing it computes is the size of
  the buffer. There is no step while a call does not return.
-/
def gpsUpdate
    (fuel : Nat)
    (malloc : Bool)
    (s : BringupState)
    (data : List UInt8) : Option BringupState :=
  match bufferSize s.gps with
  | none => some { s with crashed := true }
  | some _ =>
      (s.gps.bind fun gps => update fuel malloc gps data).map
        fun result => { s with gps := some result.gps }

/- `EventDispatch` -/
def dispatch (s : BringupState) : ApiEvent → Option BringupState
| .noSimcard => some { s with networkFlag := false }
| .networkRegisterSearching =>
    some { s with networkFlag := false }
| .networkActivated => some { s with networkFlag := true }
| .uartReceived uart data =>
    if isCommand "close" uart data then
      some { s with gpsOpen := false, isGpsOn := false }
    else if isCommand "open" uart data then
      some { s with gpsOpen := true, isGpsOn := true }
    else
      some s
| .gpsUartReceived fuel malloc data =>
    if s.gpsOpen then gpsUpdate fuel malloc s data else none
| .other => some s

/- A statement of `gps_testTask`. -/
def testTask (s : BringupState) : BringupState :=
  match s.task with
  | .waiting =>
      if s.networkFlag then
        { s with task := .initialising }
      else
        s
  | .initialising =>
      { s with gps := some boot, task := .savingLog }
  | .savingLog =>
      { s with
        gps := s.gps.map fun gps =>
          { gps with isSaveLog := true }
        task := .opening }
  | .opening => { s with gpsOpen := true, task := .started }
  | .started => s

/-
  One step of the two tasks. Nothing happens after a crash.
-/
def bringup
    (s : BringupState) :
    BringupEvent → Option BringupState
| .dispatch event =>
    if s.crashed then none else dispatch s event
| .task => if s.crashed then none else some (testTask s)
| .command gps =>
    if s.crashed = false ∧ s.task = .started then
      some { s with gps := some gps }
    else
      none

end App

------------------------------------------------------------
-- The Period of an Early "open"
------------------------------------------------------------

namespace App

open Transition

/- A GPS UART event: `GPS_Update` runs. -/
def isUpdate : BringupEvent → Bool
  | .dispatch (.gpsUartReceived ..) => true
  | _ => false

/-
  Whether the GPS is open since an "open" before `GPS_Init`,
  behind one more step. A "close" ends it, and so does
  `GPS_Init`.
-/
def noteOpen
    (early : Bool)
    (t : BringupState × BringupEvent) : Bool :=
  match t.2 with
  | .dispatch (.uartReceived uart data) =>
      if isCommand "close" uart data then
        false
      else if isCommand "open" uart data then
        t.1.task.beforeInit
      else
        early
  | .task => early && t.1.task != .initialising
  | _ => early

/- The same, behind the steps of a run. -/
def openedEarly
    (steps : List (BringupState × BringupEvent)) : Bool :=
  steps.foldl noteOpen false

/- `GPS_Update` runs on an initialised buffer. -/
def UpdatesReady
    (s : BringupState)
    (event : BringupEvent) : Prop :=
  isUpdate event = true → maxSize s.gps ≠ 0

/-
  In the run, `GPS_Update` runs only on an initialised
  buffer, and no remainder by zero is computed.
-/
structure BufferReady (events : List BringupEvent) : Prop where
  ready : ∀ t ∈ taken bringup powerOn events,
    UpdatesReady t.1 t.2
  sound : ∀ last, run bringup powerOn events = some last →
    last.crashed = false

/-
  What holds of every state: `GPS_Init` has run when the
  task is behind it, and before that the GPS is open exactly
  since an early "open".
-/
structure Underway
    (early : Bool)
    (s : BringupState) : Prop where
  gps_eq : s.crashed = false →
    s.gps.isNone = s.task.beforeInit
  early_eq : s.crashed = false →
    early = (s.gps.isNone && s.gpsOpen)

theorem underway_powerOn :
    Underway false powerOn :=
  ⟨fun _ => rfl, fun _ => rfl⟩

theorem maxSize_eq_zero_iff
    (gps : Option State) :
    maxSize gps = 0 ↔ gps.isNone = true := by
  cases gps with
  | none => simp [maxSize]
  | some gps => simp [maxSize, dataBufferMaxLength]

/- A call on an initialised buffer does not crash. -/
theorem gpsUpdate_of_isSome
    {s s' : BringupState}
    {fuel : Nat}
    {malloc : Bool}
    {data : List UInt8}
    (hReady : maxSize s.gps ≠ 0)
    (hStep : gpsUpdate fuel malloc s data = some s') :
    ∃ gps, s' = { s with gps := some gps } := by
  cases hGps : s.gps with
  | none => simp [hGps, maxSize] at hReady
  | some gps =>
      simp only [gpsUpdate, hGps, bufferSize_some,
        Option.bind_some, Option.map_eq_some_iff] at hStep
      rcases hStep with ⟨result, _, rfl⟩
      exact ⟨result.gps, rfl⟩

/- What a GPS UART event leads to. -/
theorem gpsUpdate_cases
    {s s' : BringupState}
    {fuel : Nat}
    {malloc : Bool}
    {data : List UInt8}
    (hStep : gpsUpdate fuel malloc s data = some s') :
    s' = { s with crashed := true } ∨
      s.gps.isNone = false ∧
        ∃ gps, s' = { s with gps := some gps } := by
  cases hGps : s.gps with
  | none =>
      left
      simpa [gpsUpdate, hGps, bufferSize_none, eq_comm]
        using hStep
  | some gps =>
      right
      refine ⟨rfl, gpsUpdate_of_isSome ?_ hStep⟩
      simp [hGps, maxSize, dataBufferMaxLength]

theorem not_crashed_of_bringup
    {s s' : BringupState}
    {event : BringupEvent}
    (hStep : bringup s event = some s') :
    s.crashed = false := by
  by_contra hCrashed
  cases event <;> simp [bringup, hCrashed] at hStep

/- An event keeps it, as noted. -/
theorem underway_dispatch
    {early : Bool}
    {s s' : BringupState}
    {event : ApiEvent}
    (hCrashed : s.crashed = false)
    (hUnderway : Underway early s)
    (hStep : dispatch s event = some s') :
    Underway (noteOpen early (s, .dispatch event)) s' := by
  have hGps := hUnderway.gps_eq hCrashed
  have hEarly := hUnderway.early_eq hCrashed
  cases event with
  | noSimcard =>
      cases hStep
      exact ⟨fun _ => hGps, fun _ => hEarly⟩
  | networkRegisterSearching =>
      cases hStep
      exact ⟨fun _ => hGps, fun _ => hEarly⟩
  | networkActivated =>
      cases hStep
      exact ⟨fun _ => hGps, fun _ => hEarly⟩
  | uartReceived uart data =>
      simp only [dispatch] at hStep
      simp only [noteOpen]
      split at hStep
      · next hClose =>
          cases hStep
          rw [if_pos hClose]
          exact ⟨fun _ => hGps, fun _ => by simp⟩
      · next hClose =>
          rw [if_neg hClose]
          split at hStep
          · next hOpen =>
              cases hStep
              rw [if_pos hOpen]
              exact ⟨fun _ => hGps, fun _ => by simp [hGps]⟩
          · next hOpen =>
              cases hStep
              rw [if_neg hOpen]
              exact ⟨fun _ => hGps, fun _ => hEarly⟩
  | gpsUartReceived fuel malloc data =>
      simp only [dispatch] at hStep
      split at hStep
      · rcases gpsUpdate_cases hStep with hCrash | hUpdate
        · subst hCrash
          exact ⟨fun hNot => absurd hNot (by simp),
            fun hNot => absurd hNot (by simp)⟩
        · rcases hUpdate with ⟨hSome, gps, rfl⟩
          rw [hSome] at hGps hEarly
          exact ⟨fun _ => hGps, fun _ => hEarly⟩
      · cases hStep
  | other =>
      cases hStep
      exact ⟨fun _ => hGps, fun _ => hEarly⟩

/- A statement of the task keeps it, as noted. -/
theorem underway_testTask
    {early : Bool}
    {s : BringupState}
    (hCrashed : s.crashed = false)
    (hUnderway : Underway early s) :
    Underway (noteOpen early (s, .task)) (testTask s) := by
  have hGps := hUnderway.gps_eq hCrashed
  have hEarly := hUnderway.early_eq hCrashed
  unfold testTask noteOpen
  cases hTask : s.task with
  | waiting =>
      simp only [hTask] at hGps
      dsimp only
      split
      · exact ⟨fun _ => hGps, fun _ => by simp [hEarly]⟩
      · exact ⟨fun _ => hTask ▸ hGps,
          fun _ => by simp [hEarly]⟩
  | initialising =>
      exact ⟨fun _ => rfl, fun _ => by simp⟩
  | savingLog =>
      simp only [hTask] at hGps
      exact ⟨fun _ => by
          simpa [TestTask.beforeInit] using hGps,
        fun _ => by simp [hEarly]⟩
  | opening =>
      simp only [hTask] at hGps
      have hSome : s.gps.isNone = false := hGps
      exact ⟨fun _ => hGps, fun _ => by simp [hEarly, hSome]⟩
  | started =>
      exact ⟨fun _ => hUnderway.gps_eq hCrashed,
        fun _ => by simp [hEarly]⟩

theorem underway_step
    {early : Bool}
    {s s' : BringupState}
    {event : BringupEvent}
    (hUnderway : Underway early s)
    (hStep : bringup s event = some s') :
    Underway (noteOpen early (s, event)) s' := by
  have hCrashed := not_crashed_of_bringup hStep
  cases event with
  | dispatch event =>
      simp only [bringup, hCrashed] at hStep
      exact underway_dispatch hCrashed hUnderway hStep
  | task =>
      simp only [bringup, hCrashed] at hStep
      cases hStep
      exact underway_testTask hCrashed hUnderway
  | command gps =>
      simp only [bringup] at hStep
      split at hStep
      · next hStarted =>
          cases hStep
          have hGps := hUnderway.gps_eq hCrashed
          have hEarly := hUnderway.early_eq hCrashed
          rw [hGps, hStarted.2] at hEarly
          refine ⟨fun _ => ?_, fun _ => hEarly⟩
          simp [hStarted.2, TestTask.beforeInit]
      · cases hStep

/- Where a step of a run is taken, this holds. -/
theorem underway_taken
    {events : List BringupEvent}
    {before after : List (BringupState × BringupEvent)}
    {t : BringupState × BringupEvent}
    (hTaken : taken bringup powerOn events =
      before ++ t :: after) :
    Underway (openedEarly before) t.1 := by
  rcases exists_run_of_taken hTaken with
    ⟨earlier, hRun, hBefore, _⟩
  have hHistory := run_history noteOpen Underway
    (fun _ _ _ _ => underway_step) hRun underway_powerOn
  rwa [hBefore] at hHistory

end App

------------------------------------------------------------
-- The Condition
------------------------------------------------------------

namespace App

open Transition

/- A step that is ready does not crash. -/
theorem not_crashed_step
    {s s' : BringupState}
    {event : BringupEvent}
    (hReady : UpdatesReady s event)
    (hStep : bringup s event = some s') :
    s'.crashed = false := by
  have hCrashed := not_crashed_of_bringup hStep
  cases event with
  | task =>
      simp only [bringup, hCrashed] at hStep
      cases hStep
      unfold testTask
      split <;> try split
      all_goals exact hCrashed
  | command gps =>
      simp only [bringup] at hStep
      split at hStep
      · cases hStep
        exact hCrashed
      · cases hStep
  | dispatch event =>
      simp only [bringup, hCrashed] at hStep
      cases event with
      | uartReceived uart data =>
          simp only [dispatch, Bool.false_eq_true, if_false]
            at hStep
          split at hStep
          · cases hStep
            exact hCrashed
          · split at hStep <;> cases hStep <;> exact hCrashed
      | gpsUartReceived fuel malloc data =>
          simp only [dispatch, Bool.false_eq_true, if_false]
            at hStep
          split at hStep
          · rcases gpsUpdate_of_isSome (hReady rfl) hStep with
              ⟨gps, rfl⟩
            exact hCrashed
          · cases hStep
      | noSimcard => cases hStep; exact hCrashed
      | networkRegisterSearching =>
          cases hStep; exact hCrashed
      | networkActivated => cases hStep; exact hCrashed
      | other => cases hStep; exact hCrashed

/- A GPS UART event is taken only while the GPS is open. -/
theorem gpsOpen_of_update
    {s : BringupState}
    {event : BringupEvent}
    (hUpdate : isUpdate event = true)
    (hSome : (bringup s event).isSome) :
    s.gpsOpen = true := by
  cases event with
  | task => cases hUpdate
  | command gps => cases hUpdate
  | dispatch event =>
      cases event with
      | gpsUartReceived fuel malloc data =>
          by_contra hClosed
          simp [bringup, dispatch, hClosed] at hSome
      | noSimcard => cases hUpdate
      | networkRegisterSearching => cases hUpdate
      | networkActivated => cases hUpdate
      | uartReceived uart data => cases hUpdate
      | other => cases hUpdate

/-
  `GPS_Update` runs after `GPS_Init` exactly in the runs in
  which no GPS UART event occurs while the GPS is open since
  an early "open".
-/
theorem buffer_ready_iff
    (events : List BringupEvent) :
    BufferReady events ↔
      ∀ before t after,
        taken bringup powerOn events = before ++ t :: after →
        isUpdate t.2 = true → openedEarly before = false := by
  constructor
  · intro hReady before t after hTaken hUpdate
    have hMem : t ∈ taken bringup powerOn events := by
      rw [hTaken]
      exact List.mem_append_right _ List.mem_cons_self
    have hHeld := hReady.ready t hMem hUpdate
    rcases exists_run_of_taken hTaken with ⟨_, _, _, hSome⟩
    rcases Option.isSome_iff_exists.mp hSome with ⟨s', hStep⟩
    have hEarly := (underway_taken hTaken).early_eq
      (not_crashed_of_bringup hStep)
    rw [Ne, maxSize_eq_zero_iff] at hHeld
    rw [hEarly, Bool.eq_false_iff.mpr hHeld, Bool.false_and]
  · intro hCondition
    have hReady : ∀ t ∈ taken bringup powerOn events,
        UpdatesReady t.1 t.2 := by
      intro t hMem hUpdate
      rcases List.append_of_mem hMem with
        ⟨before, after, hTaken⟩
      have hNot := hCondition before t after hTaken hUpdate
      rcases exists_run_of_taken hTaken with ⟨_, _, _, hSome⟩
      rcases Option.isSome_iff_exists.mp hSome with ⟨s', hStep⟩
      have hEarly := (underway_taken hTaken).early_eq
        (not_crashed_of_bringup hStep)
      rw [hNot, gpsOpen_of_update hUpdate hSome,
        Bool.and_true] at hEarly
      rw [Ne, maxSize_eq_zero_iff, ← hEarly]
      decide
    refine ⟨hReady, ?_⟩
    intro last hRun
    exact run_invariant (fun s => s.crashed = false)
      UpdatesReady
      (fun _ _ _ _ hReady hStep =>
        not_crashed_step hReady hStep)
      hRun hReady rfl

/-
  "open" arrives while the task waits for the network, and
  the module sends a byte.
-/
theorem early_open_crashes :
    ¬ ∀ events, BufferReady events := by
  intro hAll
  let events : List BringupEvent :=
    [.dispatch (.uartReceived 1 (ascii "open")),
      .dispatch (.gpsUartReceived 1 true [36])]
  have hLast := (hAll events).sound
    { powerOn with gpsOpen := true, crashed := true }
  exact absurd (hLast rfl) (by decide)

end App
