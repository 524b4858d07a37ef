import Mathlib.Data.List.Forall2
import GpsTracker.Gps.Session

/-
  The commands with which `gps_testTask` starts the GPS.

  The output interval is set first, up to five times until
  the call succeeds; then follow the version, the low power
  mode and the final interval, once each. The module is
  modelled by the settings that these commands change, and
  it tells the truth: it acks with success what it executes,
  and only that. Its answers can get lost. Then the call
  times out, and the code does not know whether its command
  was executed.

  Main declarations:
    * `App.StartUp`, `App.StartUp.next`, `App.StartsUp`
    * `App.Settings`, `App.Settings.after`
    * `App.Truthful`, `App.Configured`
    * `App.startUp_configures`
-/

open CString Gps

------------------------------------------------------------
-- The Commands
------------------------------------------------------------

namespace App

/-
  The next command of `gps_testTask`, with the counter of
  the loop around the first one.
-/
inductive StartUp where
  | setOutputInterval (i : Nat)
  | getVersion
  | setLpMode
  | resetOutputInterval
  | initOk
deriving DecidableEq

namespace StartUp

def request : StartUp → Option Request
  | .setOutputInterval _ =>
      some (.nmea (.outputInterval 10000))
  | .getVersion => some (.nmea .version)
  | .setLpMode => some (.nmea (.lpMode .supperLp))
  | .resetOutputInterval =>
      some (.nmea (.outputInterval 1000))
  | .initOk => none

/- What follows when a command returns this value. -/
def next (ret : Bool) : StartUp → StartUp
  | .setOutputInterval i =>
      if ret then
        .getVersion
      else if i + 1 < 5 then
        .setOutputInterval (i + 1)
      else
        .getVersion
  | .getVersion => .setLpMode
  | .setLpMode => .resetOutputInterval
  | .resetOutputInterval => .initOk
  | .initOk => .initOk

end StartUp

/- A command, and what its call returned. -/
abbrev Outcome := Request × Bool

/- These commands, with these results, are made in turn. -/
inductive StartsUp :
    StartUp → List Outcome → StartUp → Prop where
  | nil
      {s : StartUp} :
      StartsUp s [] s
  | command
      {s last : StartUp}
      {request : Request}
      {ret : Bool}
      {outcomes : List Outcome}
      (hRequest : s.request = some request)
      (hLater : StartsUp (s.next ret) outcomes last) :
      StartsUp s ((request, ret) :: outcomes) last

/- The outcomes of the loop and of the commands behind it. -/
def startUpOutcomes
    (refused : Nat)
    (interval version lpMode reset : Bool) : List Outcome :=
  List.replicate refused
      (.nmea (.outputInterval 10000), false) ++
    [ (.nmea (.outputInterval 10000), interval),
      (.nmea .version, version),
      (.nmea (.lpMode .supperLp), lpMode),
      (.nmea (.outputInterval 1000), reset) ]

theorem StartsUp.behind_loop
    {outcomes : List Outcome}
    (hStart : StartsUp .getVersion outcomes .initOk) :
    ∃ version lpMode reset,
      outcomes =
        [ (.nmea .version, version),
          (.nmea (.lpMode .supperLp), lpMode),
          (.nmea (.outputInterval 1000), reset) ] := by
  cases hStart with
  | command hVersion hLater =>
      cases hVersion
      cases hLater with
      | command hLpMode hLater =>
          cases hLpMode
          cases hLater with
          | command hReset hLater =>
              cases hReset
              cases hLater with
              | nil => exact ⟨_, _, _, rfl⟩
              | command hNone _ => cases hNone

/- From any turn of the loop there are no more than five. -/
theorem StartsUp.of_loop
    {i : Nat}
    (hi : i < 5)
    {outcomes : List Outcome}
    (hStart : StartsUp (.setOutputInterval i) outcomes
      .initOk) :
    ∃ refused interval version lpMode reset,
      outcomes = startUpOutcomes refused interval version
          lpMode reset ∧
        i + refused < 5 ∧
        (interval = false → i + refused = 4) := by
  induction outcomes generalizing i with
  | nil => cases hStart
  | cons outcome outcomes ih =>
      cases hStart with
      | @command _ _ _ ret _ hRequest hLater =>
          cases hRequest
          cases ret with
          | true =>
              rcases StartsUp.behind_loop hLater with
                ⟨version, lpMode, reset, rfl⟩
              exact ⟨0, true, version, lpMode, reset, rfl, hi,
                fun hFalse => by cases hFalse⟩
          | false =>
              simp only [StartUp.next, Bool.false_eq_true,
                if_false] at hLater
              split at hLater
              · next hMore =>
                  rcases ih hMore hLater with
                    ⟨refused, interval, version, lpMode,
                      reset, rfl, hFew, hFailed⟩
                  refine ⟨refused + 1, interval, version,
                    lpMode, reset, rfl, by omega, ?_⟩
                  intro hFalse
                  have hLast := hFailed hFalse
                  omega
              · rcases StartsUp.behind_loop hLater with
                  ⟨version, lpMode, reset, rfl⟩
                exact ⟨0, false, version, lpMode, reset, rfl,
                  hi, fun _ => by omega⟩

end App

------------------------------------------------------------
-- The Settings
------------------------------------------------------------

namespace App

/- The settings of the module that the commands change. -/
structure Settings where
  outputInterval : UInt16
  lpMode : LpMode
deriving DecidableEq

/- A command that is executed. -/
def Settings.execute
    (m : Settings) : Request → Settings
  | .nmea (.outputInterval intervalMs) =>
      { m with outputInterval := intervalMs }
  | .nmea (.lpMode mode) => { m with lpMode := mode }
  | _ => m

/- The settings behind commands, of which some are executed. -/
def Settings.after
    (m : Settings)
    (outcomes : List Outcome) : Settings :=
  outcomes.foldl
    (fun m outcome =>
      if outcome.2 then m.execute outcome.1 else m)
    m

/-
  What the results of the start-up tell of the settings:
  `interval` is the last result of the loop, `lpMode` and
  `reset` are those of the commands behind it.
-/
structure Configured
    (m m' : Settings)
    (interval lpMode reset : Bool) : Prop where
  reset : reset = true → m'.outputInterval = 1000
  interval : interval = true →
    m'.outputInterval = 10000 ∨ m'.outputInterval = 1000
  outputInterval :
    m'.outputInterval ∈ [m.outputInterval, 10000, 1000]
  lpMode : lpMode = true → m'.lpMode = .supperLp
  lpModes : m'.lpMode ∈ [m.lpMode, .supperLp]

theorem after_startUpOutcomes
    (m : Settings)
    (refused : Nat)
    (interval version lpMode reset : Bool) :
    m.after (startUpOutcomes refused interval version lpMode
        reset) =
      { outputInterval :=
          if reset then 1000
          else if interval then 10000
          else m.outputInterval
        lpMode := if lpMode then .supperLp else m.lpMode } := by
  have hRefused (k : Nat) :
      m.after (List.replicate k
        (.nmea (.outputInterval 10000), false)) = m := by
    induction k with
    | zero => rfl
    | succ k ih => exact ih
  unfold startUpOutcomes
  have hSplit := hRefused refused
  unfold Settings.after at hSplit ⊢
  rw [List.foldl_append, hSplit]
  cases interval <;> cases version <;> cases lpMode <;>
    cases reset <;> rfl

/- What a call confirmed was executed. -/
def Confirms (executed returned : Outcome) : Prop :=
  executed.1 = returned.1 ∧
    (returned.2 = true → executed.2 = true)

/- The four commands behind the failed ones of the loop. -/
theorem exists_executed_behind_loop
    {interval version lpMode reset : Bool}
    {executed : List Outcome}
    (hExecuted : List.Forall₂ Confirms executed
      (startUpOutcomes 0 interval version lpMode reset)) :
    ∃ first second third fourth,
      executed = startUpOutcomes 0 first second third fourth ∧
        (interval = true → first = true) ∧
        (lpMode = true → third = true) ∧
        (reset = true → fourth = true) := by
  simp only [startUpOutcomes, List.replicate_zero,
    List.nil_append, List.forall₂_cons_right_iff,
    List.forall₂_nil_right_iff] at hExecuted
  rcases hExecuted with
    ⟨⟨_, first⟩, _, ⟨rfl, hFirst⟩,
      ⟨⟨_, second⟩, _, ⟨rfl, _⟩,
        ⟨⟨_, third⟩, _, ⟨rfl, hThird⟩,
          ⟨⟨_, fourth⟩, _, ⟨rfl, hFourth⟩, rfl, rfl⟩,
          rfl⟩, rfl⟩, rfl⟩
  exact ⟨first, second, third, fourth, rfl, hFirst, hThird,
    hFourth⟩

theorem configured_behind_loop
    (m : Settings)
    {interval version lpMode reset : Bool}
    {executed : List Outcome}
    (hExecuted : List.Forall₂ Confirms executed
      (startUpOutcomes 0 interval version lpMode reset)) :
    Configured m (m.after executed) interval lpMode reset := by
  rcases exists_executed_behind_loop hExecuted with
    ⟨first, second, third, fourth, rfl, hInterval, hLpMode,
      hReset⟩
  rw [after_startUpOutcomes]
  constructor
  · intro hTrue
    simp [hReset hTrue]
  · intro hTrue
    simp only [hInterval hTrue, if_true]
    cases fourth <;> simp
  · cases fourth <;> cases first <;> simp
  · intro hTrue
    simp [hLpMode hTrue]
  · cases third <;> simp

/-
  A command of the loop that failed leaves the settings as
  they were, or it has set the interval all the same.
-/
theorem Configured.behind_failed
    {m m' : Settings}
    {interval lpMode reset : Bool}
    (done : Bool)
    (hConfigured : Configured
      (if done then m.execute (.nmea (.outputInterval 10000))
        else m)
      m' interval lpMode reset) :
    Configured m m' interval lpMode reset := by
  refine
    { reset := hConfigured.reset
      interval := hConfigured.interval
      outputInterval := ?_
      lpMode := hConfigured.lpMode
      lpModes := ?_ }
  · have hMem := hConfigured.outputInterval
    cases done with
    | false => exact hMem
    | true =>
        simp only [if_true, Settings.execute, List.mem_cons,
          List.not_mem_nil, or_false] at hMem ⊢
        tauto
  · have hMem := hConfigured.lpModes
    cases done <;> exact hMem

theorem configured_startUp
    (m : Settings)
    {refused : Nat}
    {interval version lpMode reset : Bool}
    {executed : List Outcome}
    (hExecuted : List.Forall₂ Confirms executed
      (startUpOutcomes refused interval version lpMode
        reset)) :
    Configured m (m.after executed) interval lpMode reset := by
  induction refused generalizing m executed with
  | zero => exact configured_behind_loop m hExecuted
  | succ refused ih =>
      cases hExecuted with
      | @cons first _ executed _ hFirst hRest =>
          rcases first with ⟨_, done⟩
          rcases hFirst with ⟨rfl, _⟩
          exact (ih _ hRest).behind_failed done

end App

------------------------------------------------------------
-- Start-Up Sessions
------------------------------------------------------------

namespace App

/- The requests of a session, in order. -/
def requests (events : List SessionEvent) : List Request :=
  events.filterMap fun
    | .request request _ _ => some request
    | .timedOut request _ _ => some request
    | .received _ => none

/- Each request with the value that its call returned. -/
def outcomes
    (events : List SessionEvent)
    (returned : List Returned) : List Outcome :=
  (requests events).zip (returned.map (·.value))

/-
  A module that tells the truth: an answer serves its
  request exactly when the module has executed it. Of a
  request without an answer nothing is known.
-/
structure Truthful
    (executed : Outcome)
    (heard : Heard) : Prop where
  request : executed.1 = heard.request
  executed : ∀ answer,
    heard.answer = some answer →
      (executed.2 = true ↔ answer.Serves heard.request)

theorem outcomes_of_conversation
    {live rest : List UInt8}
    {events : List SessionEvent}
    {parsed : List (List UInt8)}
    {heard : List Heard}
    (hTalk : Conversation live events parsed heard rest) :
    outcomes events (heard.map Heard.returned) =
      heard.map fun heard =>
        (heard.request, heard.returned.value) := by
  induction hTalk with
  | nil => rfl
  | received _ _ _ ih => exact ih
  | request _ _ _ ih => exact congrArg (_ :: ·) ih
  | timedOut _ _ _ ih => exact congrArg (_ :: ·) ih

/- A call that succeeds was answered by such a module. -/
theorem confirms_of_truthful
    {executed : Outcome}
    {heard : Heard}
    (hTruthful : Truthful executed heard) :
    Confirms executed (heard.request, heard.returned.value) := by
  refine ⟨hTruthful.request, ?_⟩
  intro hTrue
  unfold Heard.returned at hTrue
  cases hAnswer : heard.answer with
  | none =>
      rw [hAnswer] at hTrue
      cases hTrue
  | some answer =>
      rw [hAnswer] at hTrue
      exact (hTruthful.executed answer hAnswer).mpr
        (of_decide_eq_true hTrue)

/- With an answer the call returns what was done. -/
theorem eq_of_truthful
    {executed : Outcome}
    {heard : Heard}
    (hTruthful : Truthful executed heard)
    (hAnswered : heard.answer ≠ none) :
    executed = (heard.request, heard.returned.value) := by
  rcases Option.ne_none_iff_exists'.mp hAnswered with
    ⟨answer, hAnswer⟩
  refine Prod.ext hTruthful.request ?_
  unfold Heard.returned
  rw [hAnswer, Bool.eq_iff_iff]
  exact (hTruthful.executed answer hAnswer).trans
    decide_eq_true_iff.symm

theorem eq_map_of_truthful
    {executed : List Outcome}
    {heard : List Heard}
    (hTruthful : List.Forall₂ Truthful executed heard)
    (hAnswered : ∀ h ∈ heard, h.answer ≠ none) :
    executed = heard.map fun heard =>
      (heard.request, heard.returned.value) := by
  induction hTruthful with
  | nil => rfl
  | cons hFirst _ ih =>
      rcases List.forall_mem_cons.mp hAnswered with
        ⟨hHead, hTail⟩
      rw [List.map_cons, ← eq_of_truthful hFirst hHead,
        ← ih hTail]

/-
  The start-up, however its acks are cut into chunks,
  whichever of them are lost and whatever sentences come
  between its commands. The code makes the first command up
  to five times and the others once. What a call confirmed
  is set in the end, and when no answer was lost the results
  tell all of the settings.
-/
theorem startUp_configures
    {s last : State}
    {events : List SessionEvent}
    {parsed parsed' : List (List UInt8)}
    {heard : List Heard}
    {returned : List Returned}
    {executed : List Outcome}
    {rest : List UInt8}
    (hTalk : Conversation s.live events parsed heard rest)
    (hSession : Session s events parsed' returned last)
    (hStart : StartsUp (.setOutputInterval 0)
      (outcomes events returned) .initOk)
    (hTruthful : List.Forall₂ Truthful executed heard)
    (m : Settings) :
    ∃ refused interval version lpMode reset,
      outcomes events returned =
          startUpOutcomes refused interval version lpMode
            reset ∧
        refused < 5 ∧
        (interval = false → refused = 4) ∧
        Configured m (m.after executed) interval lpMode
          reset ∧
        ((∀ h ∈ heard, h.answer ≠ none) →
          m.after executed =
            { outputInterval :=
                if reset then 1000
                else if interval then 10000
                else m.outputInterval
              lpMode :=
                if lpMode then .supperLp else m.lpMode }) := by
  have hReturned : returned = heard.map Heard.returned :=
    (follows_of_session hTalk rfl hSession).2.1
  have hHeard := outcomes_of_conversation hTalk
  rw [← hReturned] at hHeard
  rcases hStart.of_loop (by decide) with
    ⟨refused, interval, version, lpMode, reset, hOutcomes,
      hFew, hFailed⟩
  rw [Nat.zero_add] at hFew hFailed
  refine ⟨refused, interval, version, lpMode, reset,
    hOutcomes, hFew, hFailed, ?_, ?_⟩
  · apply configured_startUp
    rw [← hOutcomes, hHeard, List.forall₂_map_right_iff]
    exact hTruthful.imp fun _ _ hOne =>
      confirms_of_truthful hOne
  · intro hAnswered
    rw [eq_map_of_truthful hTruthful hAnswered, ← hHeard,
      hOutcomes]
    exact after_startUpOutcomes m refused interval version
      lpMode reset

/- An answer that comes alone and whole. -/
theorem answered_alone
    {answer : Answer}
    (hCopied : answer.bytes.length ≤ nmeaFrameBufferLength)
    (hNmea : ¬ cmdBinaryHeader <+: answer.bytes) :
    Answered [] [answer.bytes] [] answer.bytes [] :=
  { stream := by simp
    surrounds :=
      { quiet := by decide
        copied := by simpa using hCopied
        noNul := fun _ => List.not_mem_nil
        noHeader := fun hBinary => absurd hBinary hNmea }
    room := by
      unfold nmeaFrameBufferLength at hCopied
      unfold dataBufferMaxLength
      simp only [List.append_nil, List.nil_append]
      omega
    last := by
      have hLength := answer.ended.length
      simp only [List.dropLast_singleton, List.flatten_nil,
        List.append_nil, List.length_nil]
      omega }

/- An answered call, with nothing before it or behind it. -/
def alone
    (request : NmeaRequest)
    (answer : Answer) : SessionEvent :=
  .request (.nmea request) callMemory [answer.bytes]

/- A call whose answer does not come whole. -/
def unheard
    (request : NmeaRequest)
    (chunks : List (List UInt8)) : SessionEvent :=
  .timedOut (.nmea request) callMemory chunks

/- What the caller hears in these calls. -/
def hears
    (request : NmeaRequest)
    (answer : Option Answer) : Heard :=
  { request := .nmea request
    version := callMemory.version
    answer := answer }

/-
  A start-up in which the answers of two commands are lost,
  one of them in the middle, and one command is refused.
-/
def startUpEvents : List SessionEvent :=
  [ unheard (.outputInterval 10000) [ascii "$PGKC001,1"],
    alone (.outputInterval 10000)
      (.ack (.nmea 101 .execSuccess)),
    alone .version (.version goke),
    unheard (.lpMode .supperLp) [],
    alone (.outputInterval 1000) (.ack (.nmea 101 .execFail)) ]

def startUpHeard : List Heard :=
  [ hears (.outputInterval 10000) none,
    hears (.outputInterval 10000)
      (some (.ack (.nmea 101 .execSuccess))),
    hears .version (some (.version goke)),
    hears (.lpMode .supperLp) none,
    hears (.outputInterval 1000)
      (some (.ack (.nmea 101 .execFail))) ]

/- What the module has done: it executed the lost commands. -/
def startUpExecuted : List Outcome :=
  [ (.nmea (.outputInterval 10000), true),
    (.nmea (.outputInterval 10000), true),
    (.nmea .version, true),
    (.nmea (.lpMode .supperLp), true),
    (.nmea (.outputInterval 1000), false) ]

/- What the calls return; the version is cut to 8 bytes. -/
def startUpReturned : List Returned :=
  [ ⟨false, List.replicate 8 0⟩, ⟨true, List.replicate 8 0⟩,
    ⟨true, ascii ",GOKE95" ++ [0]⟩,
    ⟨false, List.replicate 8 0⟩, ⟨false, List.replicate 8 0⟩ ]

variable {live rest : List UInt8}
variable {events : List SessionEvent}
variable {parsed : List (List UInt8)}
variable {heard : List Heard}

theorem conversation_alone
    (request : NmeaRequest)
    {answer : Answer}
    (hAnswered : Answered [] [answer.bytes] [] answer.bytes
      [])
    (hLater : Conversation [] events parsed heard rest) :
    Conversation live (alone request answer :: events) parsed
      (hears request (some answer) :: heard) rest := by
  have hHeld : (Request.nmea request).held live = [] := rfl
  exact .request (List.length_replicate ..)
    (hHeld.symm ▸ hAnswered) hLater

theorem conversation_unheard
    (request : NmeaRequest)
    {chunks : List (List UInt8)}
    (hUnanswered : Unanswered [] chunks)
    (hLater : Conversation chunks.flatten events parsed heard
      rest) :
    Conversation live (unheard request chunks :: events)
      parsed (hears request none :: heard) rest := by
  have hHeld : (Request.nmea request).held live = [] := rfl
  refine .timedOut (List.length_replicate ..)
    (hHeld.symm ▸ hUnanswered) ?_
  rw [hHeld]
  exact hLater

theorem conversation_startUp :
    Conversation boot.live startUpEvents [] startUpHeard
      [] := by
  have hSilent : Unanswered [] [] :=
    { room := by decide
      unended := by
        unfold Unended
        decide }
  have hFailed := @answered_alone (.ack (.nmea 101 .execFail))
    (by decide +kernel) (by decide +kernel)
  have hInterval :=
    @answered_alone (.ack (.nmea 101 .execSuccess))
      (by decide +kernel) (by decide +kernel)
  have hVersion := @answered_alone (.version goke)
    (by decide +kernel) (by decide +kernel)
  exact conversation_unheard (.outputInterval 10000)
    unanswered_lpMode
    (conversation_alone (.outputInterval 10000) hInterval
      (conversation_alone .version hVersion
        (conversation_unheard (.lpMode .supperLp) hSilent
          (conversation_alone (.outputInterval 1000) hFailed
            .nil))))

theorem truthful_startUp :
    List.Forall₂ Truthful startUpExecuted startUpHeard := by
  refine .cons ⟨rfl, ?_⟩ (.cons ⟨rfl, ?_⟩ (.cons ⟨rfl, ?_⟩
    (.cons ⟨rfl, ?_⟩ (.cons ⟨rfl, ?_⟩ .nil))))
  · intro answer hNone
    cases hNone
  · intro answer hAnswer
    cases hAnswer
    decide
  · intro answer hAnswer
    cases hAnswer
    decide
  · intro answer hNone
    cases hNone
  · intro answer hAnswer
    cases hAnswer
    decide

theorem startUp_configures_two_lost :
    ∃ refused interval version lpMode reset,
      outcomes startUpEvents startUpReturned =
          startUpOutcomes refused interval version lpMode
            reset ∧
        refused < 5 ∧
        (interval = false → refused = 4) ∧
        Configured ⟨500, .normal⟩
          (Settings.after ⟨500, .normal⟩ startUpExecuted)
          interval lpMode reset ∧
        ((∀ h ∈ startUpHeard, h.answer ≠ none) →
          Settings.after ⟨500, .normal⟩ startUpExecuted =
            { outputInterval :=
                if reset then 1000
                else if interval then 10000
                else 500
              lpMode :=
                if lpMode then .supperLp else .normal }) := by
  rcases exists_session conversation_startUp rfl rfl with
    ⟨last, hSession⟩
  have hStart : StartsUp (.setOutputInterval 0)
      (outcomes startUpEvents startUpReturned) .initOk :=
    .command rfl (.command rfl (.command rfl (.command rfl
      (.command rfl .nil))))
  exact startUp_configures conversation_startUp hSession hStart
    truthful_startUp ⟨500, .normal⟩

end App
