import GpsTracker.App.Bringup
import GpsTracker.App.Led
import GpsTracker.Lib.Latest

/-
  The event loop of `gps_MainTask` in `app/src/app.c`, as
  far as it concerns the network and the status LED.

  `EventDispatch` clears `networkFlag` for two of the events
  that tell of a lost network and lets six others pass. The
  loop sets `led_status` when both the GPS and the network
  are on, but nothing resets it when the GPS is closed, and
  its initial value is that of a running system.

  Main declarations:
    * `App.LoopEvent`, `App.MainState`
    * `App.eventDispatch`, `App.mainLoop`
    * `App.eventDispatch_bringup`
    * `App.Connected`, `App.Follows`
    * `App.follows_iff_handled`
-/

open Latest Transition

------------------------------------------------------------
-- One Iteration
------------------------------------------------------------

namespace App

/-
  The events that `EventDispatch` has a case for, those that
  tell of a lost network, and all others.
-/
inductive LoopEvent where
  | noSimcard
  | simcardDrop
  | networkRegisteredHome
  | networkRegisteredRoaming
  | networkRegisterSearching
  | networkRegisterDenied
  | networkRegisterNo
  | networkDeregister
  | networkDetached
  | networkAttached
  | networkDeactived
  | networkActivated
  | uartReceived
      (uart : Nat)
      (data : List UInt8)
  | gpsUartReceived
  | keyDown
  | other

/- The variables of `gps_MainTask` this is about. -/
structure MainState where
  networkFlag : Bool
  isGpsOn : Bool
  ledStatus : LedDefines
deriving DecidableEq

/- The initial values; `led_status` is zero. -/
def mainStart : MainState :=
  { networkFlag := false
    isGpsOn := true
    ledStatus := .sysOn }

/-
  `EventDispatch`. A registered network is attached and
  activated; GPS data goes to `GPS_Update`.
-/
def eventDispatch
    (s : MainState) :
    LoopEvent → MainState
| .noSimcard =>
    { s with
      networkFlag := false
      ledStatus := .noNetwork }
| .networkRegisterSearching =>
    { s with
      networkFlag := false
      ledStatus := .noNetwork }
| .networkRegisterDenied => s
| .networkRegisterNo => s
| .gpsUartReceived => s
| .networkRegisteredHome => s
| .networkRegisteredRoaming => s
| .networkAttached => s
| .networkActivated => { s with networkFlag := true }
| .uartReceived uart data =>
    if isCommand "close" uart data then
      { s with isGpsOn := false }
    else if isCommand "open" uart data then
      { s with isGpsOn := true }
    else
      s
| .keyDown => s
-- the default case
| .simcardDrop => s
| .networkDeregister => s
| .networkDetached => s
| .networkDeactived => s
| .other => s

/-
  One iteration of the loop of `gps_MainTask`; there is no
  event when `OS_WaitEvent` fails.
-/
def mainLoop
    (s : MainState)
    (event : Option LoopEvent) : MainState :=
  let s := event.elim s (eventDispatch s)
  if s.isGpsOn = true ∧ s.networkFlag = true then
    { s with ledStatus := .sysOn }
  else
    s

/- The event as the bring-up sees it. -/
def LoopEvent.toApiEvent : LoopEvent → ApiEvent
  | .noSimcard => .noSimcard
  | .networkRegisterSearching => .networkRegisterSearching
  | .networkActivated => .networkActivated
  | .uartReceived uart data => .uartReceived uart data
  | _ => .other

/-
  Both readings of `EventDispatch` treat the network and the
  GPS alike.
-/
theorem eventDispatch_bringup
    {s : MainState}
    {b : BringupState}
    (hNetwork : s.networkFlag = b.networkFlag)
    (hGps : s.isGpsOn = b.isGpsOn)
    (event : LoopEvent) :
    ∃ b', dispatch b event.toApiEvent = some b' ∧
      (eventDispatch s event).networkFlag = b'.networkFlag ∧
      (eventDispatch s event).isGpsOn = b'.isGpsOn := by
  cases event with
  | uartReceived uart data =>
      simp only [LoopEvent.toApiEvent, dispatch,
        eventDispatch]
      split_ifs
      · exact ⟨_, rfl, hNetwork, rfl⟩
      · exact ⟨_, rfl, hNetwork, rfl⟩
      · exact ⟨_, rfl, hNetwork, hGps⟩
  | noSimcard => exact ⟨_, rfl, rfl, hGps⟩
  | networkRegisterSearching => exact ⟨_, rfl, rfl, hGps⟩
  | networkActivated => exact ⟨_, rfl, rfl, hGps⟩
  | _ => exact ⟨_, rfl, hNetwork, hGps⟩

end App

------------------------------------------------------------
-- Connectivity
------------------------------------------------------------

namespace App

/- What an event tells of the network. -/
def LoopEvent.connects : LoopEvent → Option Bool
  | .networkActivated => some true
  | .noSimcard => some false
  | .simcardDrop => some false
  | .networkRegisterSearching => some false
  | .networkRegisterDenied => some false
  | .networkRegisterNo => some false
  | .networkDeregister => some false
  | .networkDetached => some false
  | .networkDeactived => some false
  | _ => none

/-
  The network has been activated, and not been lost since.
-/
def Connected (history : List (Option LoopEvent)) : Prop :=
  latest (·.bind LoopEvent.connects) history = some true

/- The state behind a history. -/
def stateAfter
    (history : List (Option LoopEvent)) : MainState :=
  history.foldl mainLoop mainStart

/-
  The flag is that of the network, and the LED shows a
  running system only when it runs.
-/
structure Follows
    (history : List (Option LoopEvent)) : Prop where
  network : (stateAfter history).networkFlag = true ↔
    Connected history
  led : history ≠ [] →
    (stateAfter history).ledStatus = .sysOn →
    (stateAfter history).isGpsOn = true ∧
      (stateAfter history).networkFlag = true

/- The events for which the code clears the flag. -/
def LoopEvent.clears : LoopEvent → Bool
  | .noSimcard => true
  | .networkRegisterSearching => true
  | _ => false

/- The other events that tell of a lost network. -/
def LoopEvent.passes (event : LoopEvent) : Bool :=
  event.connects = some false ∧ event.clears = false

/- A UART command. -/
def LoopEvent.commands
    (command : String) : LoopEvent → Bool
  | .uartReceived uart data => isCommand command uart data
  | _ => false

/-
  The condition on an iteration: a loss that the code lets
  pass finds the flag clear, and while the LED shows a
  running system the system runs on.
-/
structure Handled
    (s : MainState)
    (event : Option LoopEvent) : Prop where
  loss : event.any LoopEvent.passes = true →
    s.networkFlag = false
  led : s.ledStatus = .sysOn →
    event.any LoopEvent.clears = true ∨
      (event.any (·.commands "open") = true ∨
          s.isGpsOn = true ∧
            event.any (·.commands "close") = false) ∧
        (event.any (·.connects = some true) = true ∨
          s.networkFlag = true)

end App

------------------------------------------------------------
-- One Iteration Follows
------------------------------------------------------------

namespace App

/- An iteration that keeps the flag and the LED right. -/
structure Keeps
    (s : MainState)
    (event : Option LoopEvent) : Prop where
  network : (mainLoop s event).networkFlag =
    (event.bind LoopEvent.connects).getD s.networkFlag
  led : (mainLoop s event).ledStatus = .sysOn →
    (mainLoop s event).isGpsOn = true ∧
      (mainLoop s event).networkFlag = true

theorem mainLoop_networkFlag
    (s : MainState)
    (event : Option LoopEvent) :
    (mainLoop s event).networkFlag =
      (event.elim s (eventDispatch s)).networkFlag := by
  simp only [mainLoop, apply_ite MainState.networkFlag,
    ite_self]

theorem mainLoop_isGpsOn
    (s : MainState)
    (event : Option LoopEvent) :
    (mainLoop s event).isGpsOn =
      (event.elim s (eventDispatch s)).isGpsOn := by
  simp only [mainLoop, apply_ite MainState.isGpsOn, ite_self]

/- Two events clear the flag, one sets it. -/
theorem eventDispatch_networkFlag
    (s : MainState)
    (event : LoopEvent) :
    (eventDispatch s event).networkFlag =
      if event.clears then
        false
      else
        (event.connects = some true || s.networkFlag) := by
  cases event with
  | uartReceived uart data =>
      simp only [eventDispatch,
        apply_ite MainState.networkFlag, ite_self]
      simp [LoopEvent.connects, LoopEvent.clears]
  | _ =>
      simp [eventDispatch, LoopEvent.connects,
        LoopEvent.clears]

/- A string is not both commands. -/
theorem not_open_of_close
    {uart : Nat}
    {data : List UInt8}
    (hClose : isCommand "close" uart data = true) :
    isCommand "open" uart data = false := by
  simp only [isCommand, Bool.and_eq_true, beq_iff_eq]
    at hClose
  simp only [isCommand, hClose.2]
  cases uart == uart1 <;> decide

/- One command switches the GPS off, the other on. -/
theorem eventDispatch_isGpsOn
    (s : MainState)
    (event : LoopEvent) :
    (eventDispatch s event).isGpsOn =
      (event.commands "open" ||
        s.isGpsOn && !event.commands "close") := by
  cases event with
  | uartReceived uart data =>
      simp only [eventDispatch, LoopEvent.commands]
      by_cases hClose : isCommand "close" uart data = true
      · simp [hClose, not_open_of_close hClose]
      · by_cases hOpen : isCommand "open" uart data = true
        · simp [hClose, hOpen]
        · simp [hClose, hOpen]
  | _ => simp [eventDispatch, LoopEvent.commands]

theorem eventDispatch_ledStatus
    (s : MainState)
    (event : LoopEvent) :
    (eventDispatch s event).ledStatus =
      if event.clears then .noNetwork else s.ledStatus := by
  cases event with
  | uartReceived uart data =>
      simp only [eventDispatch,
        apply_ite MainState.ledStatus, ite_self]
      simp [LoopEvent.clears]
  | _ => simp [eventDispatch, LoopEvent.clears]

/-
  The LED shows a running system behind an iteration when it
  runs, or when it has shown so before and nothing has been
  cleared.
-/
theorem mainLoop_ledStatus_iff
    (s : MainState)
    (event : Option LoopEvent) :
    (mainLoop s event).ledStatus = .sysOn ↔
      ((mainLoop s event).isGpsOn = true ∧
          (mainLoop s event).networkFlag = true) ∨
        (s.ledStatus = .sysOn ∧
          event.any LoopEvent.clears = false) := by
  rw [mainLoop_isGpsOn, mainLoop_networkFlag]
  unfold mainLoop
  by_cases hRuns : (event.elim s (eventDispatch s)).isGpsOn =
      true ∧
    (event.elim s (eventDispatch s)).networkFlag = true
  · simp [hRuns]
  · simp only [hRuns, if_false, false_or]
    cases event with
    | none => simp
    | some event =>
        simp only [Option.elim_some, Option.any_some,
          eventDispatch_ledStatus]
        cases event.clears <;> simp

theorem connects_of_clears
    {event : LoopEvent}
    (hClears : event.clears = true) :
    event.connects = some false := by
  cases event with
  | noSimcard => rfl
  | networkRegisterSearching => rfl
  | _ => cases hClears

theorem network_iff
    (s : MainState)
    (event : Option LoopEvent) :
    (mainLoop s event).networkFlag =
        (event.bind LoopEvent.connects).getD s.networkFlag ↔
      (event.any LoopEvent.passes = true →
        s.networkFlag = false) := by
  rw [mainLoop_networkFlag]
  cases event with
  | none => simp
  | some event =>
      simp only [Option.elim_some, Option.bind_some,
        Option.any_some, eventDispatch_networkFlag,
        LoopEvent.passes, decide_eq_true_eq]
      cases hClears : event.clears with
      | true => simp [connects_of_clears hClears]
      | false =>
          cases event.connects with
          | none => simp
          | some connected => cases connected <;> simp

theorem led_iff
    (s : MainState)
    (event : Option LoopEvent) :
    ((mainLoop s event).ledStatus = .sysOn →
        (mainLoop s event).isGpsOn = true ∧
          (mainLoop s event).networkFlag = true) ↔
      (s.ledStatus = .sysOn →
        event.any LoopEvent.clears = true ∨
          (event.any (·.commands "open") = true ∨
              s.isGpsOn = true ∧
                event.any (·.commands "close") = false) ∧
            (event.any (·.connects = some true) = true ∨
              s.networkFlag = true)) := by
  rw [mainLoop_ledStatus_iff, mainLoop_isGpsOn,
    mainLoop_networkFlag]
  cases event with
  | none => simp [or_imp]
  | some event =>
      simp only [Option.elim_some, Option.any_some,
        eventDispatch_networkFlag, eventDispatch_isGpsOn]
      cases event.clears with
      | true => simp
      | false => simp [or_imp]

/- An iteration keeps both right exactly when handled. -/
theorem keeps_iff_handled
    (s : MainState)
    (event : Option LoopEvent) :
    Keeps s event ↔ Handled s event := by
  constructor
  · rintro ⟨hNetwork, hLed⟩
    exact ⟨(network_iff s event).mp hNetwork,
      (led_iff s event).mp hLed⟩
  · rintro ⟨hLoss, hLed⟩
    exact ⟨(network_iff s event).mpr hLoss,
      (led_iff s event).mpr hLed⟩

end App

------------------------------------------------------------
-- Runs
------------------------------------------------------------

namespace App

theorem connected_append_singleton
    (history : List (Option LoopEvent))
    (event : Option LoopEvent) :
    Connected (history ++ [event]) ↔
      (event.bind LoopEvent.connects).elim
        (Connected history) (· = true) := by
  unfold Connected
  rw [latest_append_singleton]
  cases event.bind LoopEvent.connects with
  | none => simp
  | some connected => simp

theorem stateAfter_append_singleton
    (history : List (Option LoopEvent))
    (event : Option LoopEvent) :
    stateAfter (history ++ [event]) =
      mainLoop (stateAfter history) event := by
  simp [stateAfter]

theorem follows_nil : Follows [] :=
  { network := by simp [stateAfter, mainStart, Connected, latest]
    led := fun hNe => absurd rfl hNe }

/- An iteration goes on following when it keeps both right. -/
theorem follows_append_singleton
    {history : List (Option LoopEvent)}
    (hFollows : Follows history)
    (event : Option LoopEvent) :
    Follows (history ++ [event]) ↔
      Keeps (stateAfter history) event := by
  have hNetwork :
      ((mainLoop (stateAfter history) event).networkFlag =
          true ↔ Connected (history ++ [event])) ↔
        (mainLoop (stateAfter history) event).networkFlag =
          (event.bind LoopEvent.connects).getD
            (stateAfter history).networkFlag := by
    rw [connected_append_singleton]
    cases event.bind LoopEvent.connects with
    | none =>
        rw [Option.elim_none, Option.getD_none,
          ← hFollows.network]
        exact Bool.eq_iff_iff.symm
    | some connected => simp
  have hState := stateAfter_append_singleton history event
  constructor
  · rintro ⟨hFlag, hLed⟩
    rw [hState] at hFlag hLed
    exact ⟨hNetwork.mp hFlag, hLed (by simp)⟩
  · rintro ⟨hFlag, hLed⟩
    constructor
    · rw [hState]
      exact hNetwork.mpr hFlag
    · rw [hState]
      exact fun _ => hLed

/-
  Over any sequence of events the flag and the LED follow
  the network after every iteration exactly when every
  iteration is handled.
-/
theorem follows_iff_handled
    (events : List (Option LoopEvent)) :
    (∀ history, history <+: events → Follows history) ↔
      ∀ t ∈ taken (total mainLoop) mainStart events,
        Handled t.1 t.2 := by
  constructor
  · rintro hAll ⟨s, event⟩ hMem
    rcases mem_taken_total_iff.mp hMem with
      ⟨before, after, hEvents, rfl⟩
    have hBefore : before <+: events :=
      ⟨event :: after, hEvents.symm⟩
    have hBehind : before ++ [event] <+: events :=
      ⟨after, by simp [hEvents]⟩
    apply (keeps_iff_handled _ _).mp
    exact (follows_append_singleton (hAll before hBefore)
      event).mp (hAll _ hBehind)
  · intro hHandled history
    induction history using List.reverseRecOn with
    | nil => exact fun _ => follows_nil
    | append_singleton history event ih =>
        rintro ⟨after, hEvents⟩
        have hBefore : history <+: events :=
          ⟨event :: after, by simp [← hEvents]⟩
        have hMem : (stateAfter history, event) ∈
            taken (total mainLoop) mainStart events :=
          mem_taken_total_iff.mpr
            ⟨history, after, by simp [← hEvents], rfl⟩
        apply (follows_append_singleton (ih hBefore) event).mpr
        exact (keeps_iff_handled _ _).mpr
          (hHandled _ hMem)

/-
  The network is activated and goes down: the flag and the
  LED do not change.
-/
theorem lost_network_stays_on :
    ¬ ∀ events : List (Option LoopEvent),
      ∀ history, history <+: events → Follows history := by
  intro hAll
  have hFollows := hAll
    [some .networkActivated, some .networkDeactived] _
    (List.prefix_refl _)
  have hLost : ¬ Connected
      [some .networkActivated, some .networkDeactived] := by
    unfold Connected
    decide
  exact hLost (hFollows.network.mp (by decide))

end App
