import GpsTracker.Gps.CommandStep

/-
  The semaphore of a command, and the time-out callback.

  `semCmdSending` is the live semaphore of the command in
  flight from its creation up to its deletion, and NULL
  before and behind. The callback timer is stopped only
  after the semaphore has been deleted, and an ack may be
  announced just as late. When the tasks take turns so that
  neither happens, every release finds the semaphore.

  Main declarations:
    * `Gps.Published`, `Gps.published_step`
    * `Gps.CallbackCurrent`, `Gps.callbackCurrent_step`
    * `Gps.InTime`, `Gps.Backed`
    * `Gps.ReleaseSafe`, `Gps.release_safe`
    * `Gps.unsafe_of_late`
-/

open Transition CString

------------------------------------------------------------
-- The Live Semaphore
------------------------------------------------------------

namespace Gps

/- `OS_CreateSemaphore` has run, `OS_DeleteSemaphore` not. -/
def Sender.holds : Sender → Bool
  | .clearBuffer => true
  | .send => true
  | .startTimer => true
  | .wait => true
  | .deleteSemaphore => true
  | _ => false

/- `semCmdSending` is the live semaphore of the command. -/
def CommandState.InFlight (s : CommandState) : Prop :=
  s.semCmdSending = some s.command ∧
    (s.semaphores s.command).isSome = true

/- The statements of the GPS task decide on the semaphore. -/
structure Published (s : CommandState) : Prop where
  held : s.sender.holds = true → s.InFlight
  deleted : s.sender = .nullSemaphore →
    s.semCmdSending = some s.command ∧
      s.semaphores s.command = none
  null : s.sender.holds = false → s.sender ≠ .nullSemaphore →
    s.semCmdSending = none

theorem published_boot : Published commandBoot :=
  ⟨fun hHolds => absurd hHolds (by decide),
    fun hNull => absurd hNull (by decide),
    fun _ _ => rfl⟩

/- Exactly the statements in between have a live semaphore. -/
theorem inFlight_iff_holds
    {s : CommandState}
    (hPublished : Published s) :
    s.InFlight ↔ s.sender.holds = true := by
  refine ⟨fun hFlight => ?_, hPublished.held⟩
  by_contra hNot
  rw [Bool.not_eq_true] at hNot
  by_cases hNull : s.sender = .nullSemaphore
  · have hDeleted := (hPublished.deleted hNull).2
    simp [CommandState.InFlight, hDeleted] at hFlight
  · have hNone := hPublished.null hNot hNull
    simp [CommandState.InFlight, hNone] at hFlight

theorem published_mainStep
    {s s' : CommandState}
    {malloc : Bool}
    (hPublished : Published s)
    (hStep : mainStep malloc s = some s') :
    Published s' := by
  have hFrame := (mainEffect_of_mainStep hStep).frame
  constructor
  · intro hHolds
    rw [hFrame.sender] at hHolds
    have hFlight := hPublished.held hHolds
    unfold CommandState.InFlight at hFlight ⊢
    rwa [hFrame.semCmdSending, hFrame.command, hFrame.live]
  · intro hNull
    rw [hFrame.sender] at hNull
    have hDeleted := hPublished.deleted hNull
    rw [hFrame.semCmdSending, hFrame.command]
    refine ⟨hDeleted.1, ?_⟩
    rw [← Option.isNone_iff_eq_none, ← Option.not_isSome,
      hFrame.live, hDeleted.2]
    rfl
  · intro hHolds hNull
    rw [hFrame.sender] at hHolds hNull
    rw [hFrame.semCmdSending]
    exact hPublished.null hHolds hNull

theorem published_of_inFlight
    {s : CommandState}
    (hHolds : s.sender.holds = true)
    (hFlight : s.InFlight) :
    Published s := by
  refine ⟨fun _ => hFlight, ?_, ?_⟩
  · intro hNull
    rw [hNull] at hHolds
    cases hHolds
  · intro hNot
    rw [hHolds] at hNot
    cases hNot

theorem published_of_none
    {s : CommandState}
    (hHolds : s.sender.holds = false)
    (hNot : s.sender ≠ .nullSemaphore)
    (hNone : s.semCmdSending = none) :
    Published s := by
  refine ⟨?_, fun hNull => absurd hNull hNot,
    fun _ _ => hNone⟩
  intro hStill
  rw [hHolds] at hStill
  cases hStill

theorem published_senderStep
    {s s' : CommandState}
    (hPublished : Published s)
    (hStep : senderStep s = some s') :
    Published s' := by
  have hHeld := hPublished.held
  have hNull := hPublished.null
  cases senderEffect_of_senderStep hStep with
  | created hAt hNext =>
      apply published_of_inFlight
      · rcases hNext with rfl | rfl <;> rfl
      · exact ⟨rfl, by simp⟩
  | emptied hAt | sent hAt | started hAt =>
      exact published_of_inFlight rfl
        (hHeld (by rw [hAt]; rfl))
  | woken hAt hSem hCount =>
      have hFlight := hHeld (by rw [hAt]; rfl)
      rw [hFlight.1] at hSem
      cases hSem
      exact published_of_inFlight rfl ⟨hFlight.1, by simp⟩
  | deleted hAt hSem =>
      have hFlight := hHeld (by rw [hAt]; rfl)
      rw [hFlight.1] at hSem
      cases hSem
      refine ⟨?_, fun _ => ⟨hFlight.1, by simp⟩, ?_⟩
      · intro hHolds
        cases hHolds
      · intro _ hNot
        exact absurd rfl hNot
  | nulled hAt =>
      exact published_of_none rfl (by simp) rfl
  | cleared hAt | stopped hAt | freed hAt | returned hAt =>
      exact published_of_none rfl (by simp)
        (hNull (by rw [hAt]; rfl) (by simp [hAt]))
  | timedOut hAt hSeen | acked hAt hSeen | read hAt hSeen =>
      exact published_of_none rfl (by simp)
        (hNull (by rw [hAt]; rfl) (by simp [hAt]))

theorem published_step
    {s s' : CommandState}
    {event : CommandEvent}
    (hPublished : Published s)
    (hStep : commandStep s event = some s') :
    Published s' := by
  cases event with
  | start format =>
      rcases eq_of_start hStep with ⟨hIdle, rfl⟩
      exact published_of_none rfl (by simp)
        (hPublished.null (by rw [hIdle]; rfl)
          (by simp [hIdle]))
  | sender => exact published_senderStep hPublished hStep
  | main malloc => exact published_mainStep hPublished hStep
  | received data =>
      rcases eq_of_received hStep with ⟨_, rfl⟩
      exact ⟨hPublished.held, hPublished.deleted,
        hPublished.null⟩
  | fires command =>
      rcases eq_of_fires hStep with ⟨_, _, rfl⟩
      exact ⟨hPublished.held, hPublished.deleted,
        hPublished.null⟩

end Gps

------------------------------------------------------------
-- The Callback
------------------------------------------------------------

namespace Gps

/- The callback timer is started and not stopped yet. -/
def Sender.timing : Sender → Bool
  | .wait => true
  | .deleteSemaphore => true
  | .nullSemaphore => true
  | .testTimeOut => true
  | .stopTimer => true
  | _ => false

/- No later command is on its way to its own timer. -/
def Sender.timed : Sender → Bool
  | .clearTimeOut => false
  | .createSemaphore => false
  | .clearBuffer => false
  | .send => false
  | .startTimer => false
  | _ => true

theorem Sender.timed_of_timing
    {sender : Sender}
    (hTiming : sender.timing = true) :
    sender.timed = true := by
  cases sender <;> simp_all [Sender.timing, Sender.timed]

/-
  Every timer and every callback is that of the command
  begun last, and at most one of them is there. The flag is
  clear as long as the timer runs.
-/
structure CallbackCurrent (s : CommandState) : Prop where
  timers : s.timers = [] ∨
    s.timers = [s.command] ∧ s.sender.timing = true ∧
      s.isCmdSendTimeOut = false ∧ s.main.calledBack = false
  setting : ∀ k, s.main = .setTimeOut k →
    k = s.command ∧ s.timers = [] ∧ s.sender.timed = true
  releasing : ∀ k, s.main = .releaseTimeOut k →
    k = s.command ∧ s.isCmdSendTimeOut = true ∧
      s.timers = [] ∧ s.sender.timed = true
  cleared : s.sender.timed = false →
    s.sender ≠ .clearTimeOut → s.isCmdSendTimeOut = false

end Gps

namespace Gps

theorem callbackCurrent_boot : CallbackCurrent commandBoot :=
  { timers := Or.inl rfl
    setting := fun _ hMain => by cases hMain
    releasing := fun _ hMain => by cases hMain
    cleared := fun hTimed => by cases hTimed }

theorem CallbackCurrent.timers_eq_nil
    {s : CommandState}
    (hCurrent : CallbackCurrent s)
    (hTiming : s.sender.timing = false) :
    s.timers = [] := by
  rcases hCurrent.timers with hNil | hRuns
  · exact hNil
  · rw [hRuns.2.1] at hTiming
    cases hTiming

theorem CallbackCurrent.not_calledBack
    {s : CommandState}
    (hCurrent : CallbackCurrent s)
    (hTimed : s.sender.timed = false) :
    s.main.calledBack = false := by
  cases hMain : s.main with
  | setTimeOut k =>
      rw [(hCurrent.setting k hMain).2.2] at hTimed
      cases hTimed
  | releaseTimeOut k =>
      rw [(hCurrent.releasing k hMain).2.2.2] at hTimed
      cases hTimed
  | _ => rfl

/- Outside the callback only the first part says anything. -/
theorem callbackCurrent_of_not_calledBack
    {s : CommandState}
    (hMain : s.main.calledBack = false)
    (hTimers : s.timers = [] ∨
      s.timers = [s.command] ∧ s.sender.timing = true ∧
        s.isCmdSendTimeOut = false)
    (hCleared : s.sender.timed = false →
      s.sender ≠ .clearTimeOut → s.isCmdSendTimeOut = false) :
    CallbackCurrent s := by
  refine ⟨?_, ?_, ?_, hCleared⟩
  · rcases hTimers with hNil | hRuns
    · exact Or.inl hNil
    · exact Or.inr ⟨hRuns.1, hRuns.2.1, hRuns.2.2, hMain⟩
  · intro k hSetting
    rw [hSetting] at hMain
    cases hMain
  · intro k hReleasing
    rw [hReleasing] at hMain
    cases hMain

/-
  A statement between two points behind the start of the
  timer, that may stop it.
-/
theorem CallbackCurrent.behind_timer
    {s s' : CommandState}
    (hCurrent : CallbackCurrent s)
    (hMain : s'.main = s.main)
    (hCommand : s'.command = s.command)
    (hFlag : s'.isCmdSendTimeOut = s.isCmdSendTimeOut)
    (hTimers : s'.timers = [] ∨
      s'.timers = s.timers ∧ s'.sender.timing = true)
    (hTimed : s'.sender.timed = true) :
    CallbackCurrent s' := by
  refine ⟨?_, ?_, ?_, ?_⟩
  · rcases hTimers with hNil | ⟨hSame, hTiming⟩
    · exact Or.inl hNil
    · rw [hSame, hCommand, hFlag, hMain]
      rcases hCurrent.timers with hNil | hRuns
      · exact Or.inl hNil
      · exact Or.inr ⟨hRuns.1, hTiming, hRuns.2.2⟩
  · intro k hSetting
    rw [hMain] at hSetting
    rcases hCurrent.setting k hSetting with ⟨hk, hNil, _⟩
    refine ⟨hk.trans hCommand.symm, ?_, hTimed⟩
    rcases hTimers with hStopped | hSame
    · exact hStopped
    · exact hSame.1.trans hNil
  · intro k hReleasing
    rw [hMain] at hReleasing
    rcases hCurrent.releasing k hReleasing with
      ⟨hk, hSet, hNil, _⟩
    refine ⟨hk.trans hCommand.symm, hFlag.trans hSet, ?_,
      hTimed⟩
    rcases hTimers with hStopped | hSame
    · exact hStopped
    · exact hSame.1.trans hNil
  · intro hNot
    rw [hTimed] at hNot
    cases hNot

theorem callbackCurrent_senderStep
    {s s' : CommandState}
    (hCurrent : CallbackCurrent s)
    (hStep : senderStep s = some s') :
    CallbackCurrent s' := by
  have hNil := hCurrent.timers_eq_nil
  have hOutside := hCurrent.not_calledBack
  have hCleared := hCurrent.cleared
  cases senderEffect_of_senderStep hStep with
  | cleared hAt =>
      rw [hAt] at hNil hOutside
      exact callbackCurrent_of_not_calledBack (hOutside rfl)
        (Or.inl (hNil rfl)) (fun _ _ => rfl)
  | created hAt _ =>
      rw [hAt] at hNil hOutside hCleared
      exact callbackCurrent_of_not_calledBack (hOutside rfl)
        (Or.inl (hNil rfl))
        (fun _ _ => hCleared rfl (by decide))
  | emptied hAt | sent hAt =>
      rw [hAt] at hNil hOutside hCleared
      exact callbackCurrent_of_not_calledBack (hOutside rfl)
        (Or.inl (hNil rfl))
        (fun _ _ => hCleared rfl (by decide))
  | started hAt =>
      rw [hAt] at hNil hOutside hCleared
      refine callbackCurrent_of_not_calledBack (hOutside rfl)
        (Or.inr ⟨?_, rfl, hCleared rfl (by decide)⟩)
        (fun hTimed => by cases hTimed)
      simp [hNil rfl]
  | woken _ _ _ | deleted _ _ | nulled _ | acked _ _ =>
      exact hCurrent.behind_timer rfl rfl rfl
        (Or.inr ⟨rfl, rfl⟩) rfl
  | timedOut hAt hFlag =>
      -- the flag is set, so the timer has fired
      have hFired : s.timers = [] := by
        rcases hCurrent.timers with hNone | hRuns
        · exact hNone
        · rw [hRuns.2.2.1] at hFlag
          cases hFlag
      exact hCurrent.behind_timer rfl rfl rfl
        (Or.inl hFired) rfl
  | stopped _ =>
      exact hCurrent.behind_timer rfl rfl rfl (Or.inl rfl) rfl
  | read hAt _ =>
      rw [hAt] at hNil
      exact hCurrent.behind_timer rfl rfl rfl
        (Or.inl (hNil rfl)) rfl
  | freed hAt | returned hAt =>
      rw [hAt] at hNil
      exact hCurrent.behind_timer rfl rfl rfl
        (Or.inl (hNil rfl)) rfl

end Gps

namespace Gps

/- Behind a statement that leaves the callback, or is out. -/
theorem CallbackCurrent.outside
    {s s' : CommandState}
    (hCurrent : CallbackCurrent s)
    (hFrame : MainFrame s s')
    (hFlag : s'.isCmdSendTimeOut = s.isCmdSendTimeOut)
    (hMain : s'.main.calledBack = false) :
    CallbackCurrent s' := by
  apply callbackCurrent_of_not_calledBack hMain
  · rw [hFrame.timers, hFrame.command, hFrame.sender, hFlag]
    rcases hCurrent.timers with hNil | hRuns
    · exact Or.inl hNil
    · exact Or.inr ⟨hRuns.1, hRuns.2.1, hRuns.2.2.1⟩
  · rw [hFrame.sender, hFlag]
    exact hCurrent.cleared

theorem callbackCurrent_mainStep
    {s s' : CommandState}
    {malloc : Bool}
    (hCurrent : CallbackCurrent s)
    (hStep : mainStep malloc s = some s') :
    CallbackCurrent s' := by
  have hEffect := mainEffect_of_mainStep hStep
  have hFrame := hEffect.frame
  cases hEffect with
  | moved _ _ hCalledBack _ _ _ =>
      exact hCurrent.outside hFrame rfl hCalledBack
  | failed _ _ => exact hCurrent.outside hFrame rfl rfl
  | stored _ _ => exact hCurrent.outside hFrame rfl rfl
  | released _ _ => exact hCurrent.outside hFrame rfl rfl
  | @flagged k hMain =>
      rcases hCurrent.setting k hMain with ⟨hk, hNil, hTimed⟩
      refine ⟨Or.inl hNil, ?_, ?_, ?_⟩
      · intro k' hSame
        cases hSame
      · intro k' hSame
        cases hSame
        exact ⟨hk, rfl, hNil, hTimed⟩
      · intro hNot
        rw [hTimed] at hNot
        cases hNot

/-
  A step keeps the callback with its command, unless another
  command begins inside the callback.
-/
theorem callbackCurrent_step
    {s s' : CommandState}
    {event : CommandEvent}
    (hCurrent : CallbackCurrent s)
    (hStart : ∀ format, event = .start format →
      s.main.calledBack = false)
    (hStep : commandStep s event = some s') :
    CallbackCurrent s' := by
  cases event with
  | start format =>
      rcases eq_of_start hStep with ⟨hIdle, rfl⟩
      have hNil := hCurrent.timers_eq_nil (by rw [hIdle]; rfl)
      exact callbackCurrent_of_not_calledBack
        (hStart format rfl) (Or.inl hNil)
        (fun _ hNot => absurd rfl hNot)
  | sender => exact callbackCurrent_senderStep hCurrent hStep
  | main malloc => exact callbackCurrent_mainStep hCurrent hStep
  | received data =>
      rcases eq_of_received hStep with ⟨_, rfl⟩
      apply callbackCurrent_of_not_calledBack rfl
      · rcases hCurrent.timers with hNil | hRuns
        · exact Or.inl hNil
        · exact Or.inr ⟨hRuns.1, hRuns.2.1, hRuns.2.2.1⟩
      · exact hCurrent.cleared
  | fires command =>
      rcases eq_of_fires hStep with ⟨_, hMem, rfl⟩
      rcases hCurrent.timers with hNil | hRuns
      · rw [hNil] at hMem
        cases hMem
      · have hSame : command = s.command := by
          simpa [hRuns.1] using hMem
        subst hSame
        have hErased : s.timers.erase s.command = [] := by
          rw [hRuns.1]
          exact List.erase_cons_head _ _
        have hTimed := Sender.timed_of_timing hRuns.2.1
        refine ⟨Or.inl hErased, ?_, ?_, ?_⟩
        · intro k hMain
          cases hMain
          exact ⟨rfl, hErased, hTimed⟩
        · intro k hMain
          cases hMain
        · intro hNot
          rw [hTimed] at hNot
          cases hNot

end Gps

------------------------------------------------------------
-- The Order of the Statements
------------------------------------------------------------

namespace Gps

/- `OS_DeleteSemaphore` has run, `OS_StopCallbackTimer` not. -/
def Sender.closing : Sender → Bool
  | .nullSemaphore => true
  | .testTimeOut => true
  | .stopTimer => true
  | _ => false

/- The next statement is the second test of semCmdSending. -/
def MainTask.tests : MainTask → Bool
  | .testAgain ack => ack.isSome
  | _ => false

/-
  Behind that test with an ack, or in `OnCmdAckFail`: the
  main task is on its way to a release.
-/
def MainTask.committed : MainTask → Bool
  | .storeAck ack => ack.isSome
  | .releaseAck => true
  | .setTimeOut _ => true
  | .releaseTimeOut _ => true
  | _ => false

/-
  The condition on the order of the statements. The timer
  does not fire between the deletion of the semaphore and
  `OS_StopCallbackTimer`; the semaphore is not deleted while
  the main task is on its way to a release; and the second
  test of semCmdSending does not come between its deletion
  and `semCmdSending = NULL`.
-/
def InTime (s : CommandState) : CommandEvent → Prop
| .fires _ => s.sender.closing = false
| .sender =>
    s.sender = .deleteSemaphore → s.main.committed = false
| .main _ =>
    s.main.tests = true → s.sender ≠ .nullSemaphore
| _ => True

instance (s : CommandState) (event : CommandEvent) :
    Decidable (InTime s event) :=
  match event with
  | .fires _ =>
      inferInstanceAs (Decidable (s.sender.closing = false))
  | .sender =>
      inferInstanceAs (Decidable
        (s.sender = .deleteSemaphore →
          s.main.committed = false))
  | .main _ =>
      inferInstanceAs (Decidable
        (s.main.tests = true → s.sender ≠ .nullSemaphore))
  | .start _ => instDecidableTrue
  | .received _ => instDecidableTrue

/- A release that is on its way finds a live semaphore. -/
def Backed (s : CommandState) : Prop :=
  s.main.committed = true → s.sender.holds = true

theorem MainTask.committed_of_calledBack
    {main : MainTask}
    (hCalledBack : main.calledBack = true) :
    main.committed = true := by
  cases main <;>
    simp_all [MainTask.calledBack, MainTask.committed]

/- Outside the live statements no release is on its way. -/
theorem Backed.not_committed
    {s : CommandState}
    (hBacked : Backed s)
    (hHolds : s.sender.holds = false) :
    s.main.committed = false := by
  by_contra hCommitted
  rw [hBacked (by simpa using hCommitted)] at hHolds
  cases hHolds

theorem Backed.not_calledBack
    {s : CommandState}
    (hBacked : Backed s)
    (hHolds : s.sender.holds = false) :
    s.main.calledBack = false := by
  by_contra hCalledBack
  have hCommitted := MainTask.committed_of_calledBack
    (by simpa using hCalledBack)
  rw [hBacked.not_committed hHolds] at hCommitted
  cases hCommitted

/- How the main task comes on its way to a release. -/
theorem committed_of_mainStep
    {s s' : CommandState}
    {malloc : Bool}
    (hStep : mainStep malloc s = some s')
    (hCommitted : s'.main.committed = true) :
    s.main.committed = true ∨
      s.main.tests = true ∧ s.semCmdSending ≠ none := by
  unfold mainStep at hStep
  split at hStep
  · cases hStep
  · split at hStep <;> cases hStep <;> cases hCommitted
  · next hMain =>
      split at hStep <;> cases hStep
      · cases hCommitted
      · exact Or.inl hCommitted
      · exact Or.inl hCommitted
  · split at hStep <;> cases hStep <;> cases hCommitted
  · next ack hMain =>
      split at hStep
      · cases hStep
        cases hCommitted
      · next hSending =>
          cases hStep
          refine Or.inr ⟨by rw [hMain]; exact hCommitted, ?_⟩
          simpa using hSending
  · next ack hMain =>
      unfold CommandState.store at hStep
      split at hStep
      · cases hStep
        cases hCommitted
      · cases hStep
      · exact Or.inl (by rw [hMain]; rfl)
  · cases hStep
    cases hCommitted
  · next hMain => exact Or.inl (by rw [hMain]; rfl)
  · cases hStep
    cases hCommitted

theorem backed_mainStep
    {s s' : CommandState}
    {malloc : Bool}
    (hPublished : Published s)
    (hBacked : Backed s)
    (hInTime : s.main.tests = true →
      s.sender ≠ .nullSemaphore)
    (hStep : mainStep malloc s = some s') :
    Backed s' := by
  intro hCommitted
  rw [(mainEffect_of_mainStep hStep).frame.sender]
  rcases committed_of_mainStep hStep hCommitted with
    hEarlier | ⟨hTests, hSending⟩
  · exact hBacked hEarlier
  · by_contra hHolds
    exact hSending (hPublished.null (by simpa using hHolds)
      (hInTime hTests))

theorem backed_senderStep
    {s s' : CommandState}
    (hBacked : Backed s)
    (hInTime : s.sender = .deleteSemaphore →
      s.main.committed = false)
    (hStep : senderStep s = some s') :
    Backed s' := by
  have hOutside := hBacked.not_committed
  intro hCommitted
  cases senderEffect_of_senderStep hStep with
  | created hAt hNext => rcases hNext with rfl | rfl <;> rfl
  | emptied _ | sent _ | started _ | woken _ _ _ => rfl
  | deleted hAt _ =>
      rw [hInTime hAt] at hCommitted
      cases hCommitted
  | cleared hAt | nulled hAt | stopped hAt | freed hAt
  | returned hAt =>
      rw [hOutside (by rw [hAt]; rfl)] at hCommitted
      cases hCommitted
  | timedOut hAt _ | acked hAt _ | read hAt _ =>
      rw [hOutside (by rw [hAt]; rfl)] at hCommitted
      cases hCommitted

/- A timer that runs outside the closing statements. -/
theorem Sender.holds_of_timing
    {sender : Sender}
    (hTiming : sender.timing = true)
    (hClosing : sender.closing = false) :
    sender.holds = true := by
  cases sender <;>
    simp_all [Sender.timing, Sender.closing, Sender.holds]

theorem backed_step
    {s s' : CommandState}
    {event : CommandEvent}
    (hPublished : Published s)
    (hCurrent : CallbackCurrent s)
    (hBacked : Backed s)
    (hInTime : InTime s event)
    (hStep : commandStep s event = some s') :
    Backed s' := by
  cases event with
  | start format =>
      rcases eq_of_start hStep with ⟨hIdle, rfl⟩
      intro hCommitted
      rw [hBacked.not_committed (by rw [hIdle]; rfl)]
        at hCommitted
      cases hCommitted
  | sender => exact backed_senderStep hBacked hInTime hStep
  | main malloc =>
      exact backed_mainStep hPublished hBacked hInTime hStep
  | received data =>
      rcases eq_of_received hStep with ⟨_, rfl⟩
      intro hCommitted
      cases hCommitted
  | fires command =>
      rcases eq_of_fires hStep with ⟨_, hMem, rfl⟩
      intro _
      apply Sender.holds_of_timing _ hInTime
      by_contra hTiming
      rw [hCurrent.timers_eq_nil (by simpa using hTiming)]
        at hMem
      cases hMem

/- What every step that is in time keeps. -/
structure Orderly (s : CommandState) : Prop where
  published : Published s
  current : CallbackCurrent s
  backed : Backed s

theorem orderly_boot : Orderly commandBoot :=
  ⟨published_boot, callbackCurrent_boot,
    fun hCommitted => by cases hCommitted⟩

theorem orderly_step
    (s : CommandState)
    (event : CommandEvent)
    (s' : CommandState)
    (hOrderly : Orderly s)
    (hInTime : InTime s event)
    (hStep : commandStep s event = some s') :
    Orderly s' := by
  refine ⟨published_step hOrderly.published hStep,
    callbackCurrent_step hOrderly.current ?_ hStep,
    backed_step hOrderly.published hOrderly.current
      hOrderly.backed hInTime hStep⟩
  -- a callback is over before the next command begins
  rintro format rfl
  rcases eq_of_start hStep with ⟨hIdle, _⟩
  exact hOrderly.backed.not_calledBack (by rw [hIdle]; rfl)

end Gps

------------------------------------------------------------
-- Releases in Time
------------------------------------------------------------

namespace Gps

/-
  What a statement of the main task may do: release the live
  semaphore of the command in flight, and, in a callback,
  act for the command that started the timer only.
-/
def MainTask.SafeIn
    (s : CommandState) : MainTask → Prop
| .releaseAck => s.InFlight
| .setTimeOut k => k = s.command
| .releaseTimeOut k => k = s.command ∧ s.InFlight
| _ => True

/- The next step is safe. -/
def ReleaseSafe
    (s : CommandState) : CommandEvent → Prop
| .main _ => s.main.SafeIn s
| _ => True

/- Every step of the run is safe. -/
def ReleasesSafe (events : List CommandEvent) : Prop :=
  ∀ t ∈ taken commandStep commandBoot events,
    ReleaseSafe t.1 t.2

/- Before a statement of the main task the release is safe. -/
theorem Orderly.safeIn
    {s : CommandState}
    (hOrderly : Orderly s) :
    s.main.SafeIn s := by
  have hFlight (hCommitted : s.main.committed = true) :
      s.InFlight :=
    hOrderly.published.held (hOrderly.backed hCommitted)
  cases hMain : s.main with
  | releaseAck => exact hFlight (by rw [hMain]; rfl)
  | setTimeOut k =>
      exact (hOrderly.current.setting k hMain).1
  | releaseTimeOut k =>
      exact ⟨(hOrderly.current.releasing k hMain).1,
        hFlight (by rw [hMain]; rfl)⟩
  | _ => trivial

/-
  In a run whose statements are in time every release finds
  the live semaphore of the command in flight, and no
  callback touches a later command.
-/
theorem release_safe
    (events : List CommandEvent)
    (hInTime : ∀ t ∈ taken commandStep commandBoot events,
      InTime t.1 t.2) :
    ReleasesSafe events := by
  rintro ⟨s, event⟩ hMem
  have hOrderly : Orderly s :=
    taken_invariant Orderly InTime orderly_step hInTime
      orderly_boot hMem
  cases event with
  | main malloc => exact hOrderly.safeIn
  | _ => trivial

/- A command whose ack comes before the time-out. -/
def ackInTime : List CommandEvent :=
  [.start .nmea, .sender, .sender, .sender, .sender, .sender,
    .received (ascii "$PGKC001,101,3*2D\r\n"),
    .main true, .main true, .main true, .main true,
    .main true, .sender, .sender, .sender]

/- It returns, and the next command times out in time. -/
def timeOutInTime : List CommandEvent :=
  ackInTime ++
    [.sender, .sender, .sender, .sender, .sender,
      .start .binary, .sender, .sender, .sender, .sender,
      .fires 2, .main true, .main true,
      .sender, .sender, .sender, .sender, .sender, .sender]

theorem release_safe_timeOutInTime :
    (run commandStep commandBoot timeOutInTime).isSome =
        true ∧
      ReleasesSafe timeOutInTime := by
  refine ⟨by decide +kernel, ?_⟩
  apply release_safe
  have hAll : (taken commandStep commandBoot timeOutInTime).all
      (fun t => decide (InTime t.1 t.2)) = true := by
    decide +kernel
  intro t hMem
  exact of_decide_eq_true (List.all_eq_true.mp hAll t hMem)

/-
  On its way to a release with no live semaphore, the main
  task comes to a release that is not safe by itself.
-/
theorem exists_unsafe_of_committed
    {s : CommandState}
    (hPublished : Published s)
    (hCommitted : s.main.committed = true)
    (hHolds : s.sender.holds = false) :
    ∃ n s', run commandStep s
        (List.replicate n (.main true)) = some s' ∧
      (commandStep s' (.main true)).isSome = true ∧
      ¬ ReleaseSafe s' (.main true) := by
  have hFlight : ¬ s.InFlight := by
    rw [inFlight_iff_holds hPublished, hHolds]
    exact Bool.false_ne_true
  cases hMain : s.main with
  | storeAck ack =>
      cases ack with
      | none =>
          rw [hMain] at hCommitted
          cases hCommitted
      | some ack =>
          refine ⟨1, { s with
            heap := s.heap ++
              [{ command := s.command, ack := ack, frees := 0 }]
            gpsAckMsg := some s.heap.length
            main := .releaseAck }, ?_, rfl, hFlight⟩
          simp [run, commandStep, mainStep, hMain,
            CommandState.store]
  | releaseAck =>
      refine ⟨0, s, rfl, ?_, ?_⟩
      · simp [commandStep, mainStep, hMain]
      · simpa only [ReleaseSafe, hMain, MainTask.SafeIn]
          using hFlight
  | setTimeOut k =>
      refine ⟨1, { s with
        isCmdSendTimeOut := true
        main := .releaseTimeOut k }, ?_, rfl,
        fun hSafe => hFlight hSafe.2⟩
      simp [run, commandStep, mainStep, hMain]
  | releaseTimeOut k =>
      refine ⟨0, s, rfl, ?_, ?_⟩
      · simp [commandStep, mainStep, hMain]
      · simp only [ReleaseSafe, hMain, MainTask.SafeIn]
        exact fun hSafe => hFlight hSafe.2
  | _ =>
      rw [hMain] at hCommitted
      cases hCommitted

/-
  Behind the first step out of time the main task is on its
  way to a release, and the semaphore is gone.
-/
theorem committed_of_late
    {s s' : CommandState}
    {event : CommandEvent}
    (hOrderly : Orderly s)
    (hStep : commandStep s event = some s')
    (hLate : ¬ InTime s event) :
    s'.main.committed = true ∧ s'.sender.holds = false := by
  cases event with
  | fires command =>
      rcases eq_of_fires hStep with ⟨_, _, rfl⟩
      refine ⟨rfl, ?_⟩
      simp only [InTime, Bool.not_eq_false] at hLate
      cases hAt : s.sender <;>
        simp_all [Sender.closing, Sender.holds]
  | sender =>
      simp only [InTime, Classical.not_imp,
        Bool.not_eq_false] at hLate
      rcases hLate with ⟨hAt, hCommitted⟩
      have hHolds : s.sender.holds = true := by rw [hAt]; rfl
      have hSem := (hOrderly.published.held hHolds).1
      simp only [commandStep, senderStep, hAt, hSem] at hStep
      cases hStep
      exact ⟨hCommitted, rfl⟩
  | main malloc =>
      simp only [InTime, Classical.not_imp,
        ne_eq, not_not] at hLate
      rcases hLate with ⟨hTests, hAt⟩
      have hSem := (hOrderly.published.deleted hAt).1
      cases hMain : s.main with
      | testAgain ack =>
          rw [hMain] at hTests
          simp [commandStep, mainStep, hMain, hSem] at hStep
          subst hStep
          exact ⟨hTests, by simp [hAt, Sender.holds]⟩
      | _ =>
          rw [hMain] at hTests
          cases hTests
  | start format => exact absurd trivial hLate
  | received data => exact absurd trivial hLate

/-
  A step out of time does harm: behind the first one of a
  run, statements of the main task alone come to a release
  that is not safe.
-/
theorem unsafe_of_late
    {events : List CommandEvent}
    {before after : List (CommandState × CommandEvent)}
    {t : CommandState × CommandEvent}
    (hTaken : taken commandStep commandBoot events =
      before ++ t :: after)
    (hBefore : ∀ u ∈ before, InTime u.1 u.2)
    (hLate : ¬ InTime t.1 t.2) :
    ∃ n s', run commandStep t.1
        (t.2 :: List.replicate n (.main true)) = some s' ∧
      (commandStep s' (.main true)).isSome = true ∧
      ¬ ReleaseSafe s' (.main true) := by
  rcases exists_run_of_taken hTaken with
    ⟨earlier, hRun, hEarlier, hSome⟩
  rw [← hEarlier] at hBefore
  have hOrderly : Orderly t.1 :=
    run_invariant Orderly InTime orderly_step hRun hBefore
      orderly_boot
  rcases Option.isSome_iff_exists.mp hSome with ⟨s, hStep⟩
  rcases committed_of_late hOrderly hStep hLate with
    ⟨hCommitted, hHolds⟩
  rcases exists_unsafe_of_committed
      (published_step hOrderly.published hStep)
      hCommitted hHolds with ⟨n, s', hMain, hUnsafe⟩
  exact ⟨n, s', (run_cons_of_some hStep _).trans hMain,
    hUnsafe⟩

instance (s : CommandState) : Decidable s.InFlight :=
  inferInstanceAs (Decidable (_ ∧ _))

instance (s : CommandState) :
    (main : MainTask) → Decidable (main.SafeIn s)
  | .releaseAck => inferInstanceAs (Decidable s.InFlight)
  | .setTimeOut k => inferInstanceAs (Decidable (k = s.command))
  | .releaseTimeOut k =>
      inferInstanceAs (Decidable (k = s.command ∧ s.InFlight))
  | .waitEvent => instDecidableTrue
  | .testSending => instDecidableTrue
  | .findFrame => instDecidableTrue
  | .findAck => instDecidableTrue
  | .testAgain _ => instDecidableTrue
  | .storeAck _ => instDecidableTrue

instance (s : CommandState) (event : CommandEvent) :
    Decidable (ReleaseSafe s event) :=
  match event with
  | .main _ => inferInstanceAs (Decidable (s.main.SafeIn s))
  | .start _ => instDecidableTrue
  | .sender => instDecidableTrue
  | .received _ => instDecidableTrue
  | .fires _ => instDecidableTrue

/-
  The timer fires when the ack has woken the GPS task and
  the semaphore is deleted, before the timer is stopped.
-/
theorem late_timer_releases_null :
    ¬ ∀ events, ReleasesSafe events := by
  intro hSafe
  have hAll : (taken commandStep commandBoot
      (ackInTime ++ [.fires 1, .main true, .main true])).all
        (fun t => decide (ReleaseSafe t.1 t.2)) = true :=
    List.all_eq_true.mpr fun t hMem =>
      decide_eq_true (hSafe _ t hMem)
  exact absurd hAll (by decide +kernel)

end Gps
