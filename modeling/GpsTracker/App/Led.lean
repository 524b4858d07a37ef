import GpsTracker.Lib.Machine
import GpsTracker.Lib.Transition

/-
  `LED_Blink` of `app/src/app.c`, a callback that runs once
  a second.

  All modes count in one static variable, and compare it
  with thresholds of their own by equality. A change of the
  mode may step over a threshold: the LED is then not
  switched off at the next tick, or the count runs away.

  Main declarations:
    * `App.LedDefines`, `App.Led`
    * `App.ledBlink`
    * `App.Steady`, `App.InTurn`
    * `App.BlinksSteadily`, `App.led_steady_iff`
-/

open Machine Transition

------------------------------------------------------------
-- One Tick
------------------------------------------------------------

namespace App

/- `LED_DEFINES` -/
inductive LedDefines where
  | sysOn
  | noNetwork
  | noGps
  | noFix
deriving DecidableEq

/- The static `count` of `LED_Blink`, and the LED. -/
structure Led where
  count : Int
  high : Bool
deriving DecidableEq

/- `SYSTEM_STATUS_LED` is initialised to low. -/
def ledStart : Led :=
  { count := 0
    high := false }

/-
  A case of the switch: the LED goes on when the count has
  reached a number, and off again with the next.
-/
def countTo
    (onCount : Int)
    (led : Led) : Led :=
  let count := i32 (led.count + 1)
  if count = onCount then
    { count := count
      high := true }
  else if count = onCount + 1 then
    { count := 0
      high := false }
  else
    { led with count := count }

/-
  `LED_Blink`. The case of `LED_NO_FIX` is empty without
  `USE_GPS_FIXED`.
-/
def ledBlink
    (led : Led)
    (ledStatus : LedDefines) : Led :=
  match ledStatus with
  | .sysOn => countTo 10 led
  | .noNetwork => countTo 2 led
  | .noGps => countTo 4 led
  | .noFix => led

end App

------------------------------------------------------------
-- Blinking
------------------------------------------------------------

namespace App

/- The modes that the program assigns to `led_status`. -/
def LedDefines.assigned : LedDefines → Bool
  | .sysOn => true
  | .noNetwork => true
  | _ => false

/-
  Behind the tick the count is in its range, and the LED is
  not on for a second tick.
-/
structure Steady
    (led : Led)
    (ledStatus : LedDefines) : Prop where
  count_nonneg : 0 ≤ (ledBlink led ledStatus).count
  count_le : (ledBlink led ledStatus).count ≤ 10
  not_left : ¬ (led.high = true ∧
    (ledBlink led ledStatus).high = true)

/-
  The condition on a tick: the mode that has switched the
  LED on at two is still there, and no mode but the longer
  one goes on from ten.
-/
structure InTurn
    (led : Led)
    (ledStatus : LedDefines) : Prop where
  two : led.high = true → led.count = 2 →
    ledStatus = .noNetwork
  ten : led.count = 10 → ledStatus = .sysOn

/- What holds of the count and the LED between the ticks. -/
structure Counting (led : Led) : Prop where
  nonneg : 0 ≤ led.count
  le_ten : led.count ≤ 10
  high : led.high = true → led.count = 2 ∨ led.count = 10

theorem counting_ledStart : Counting ledStart :=
  { nonneg := Int.le_refl 0
    le_ten := by decide
    high := fun hHigh => by cases hHigh }

theorem i32_succ
    {led : Led}
    (hCounting : Counting led) :
    i32 (led.count + 1) = led.count + 1 := by
  have hNonneg := hCounting.nonneg
  have hLe := hCounting.le_ten
  exact i32_of_bounds (by omega) (by omega)

theorem countTo_eq
    {led : Led}
    (hCounting : Counting led)
    (onCount : Int) :
    countTo onCount led =
      if led.count + 1 = onCount then
        ⟨onCount, true⟩
      else if led.count = onCount then
        ⟨0, false⟩
      else
        ⟨led.count + 1, led.high⟩ := by
  simp only [countTo, i32_succ hCounting, add_left_inj]
  by_cases hOn : led.count + 1 = onCount
  · simp [hOn]
  · simp [hOn]

/- One tick is steady exactly in its turn. -/
theorem steady_iff_inTurn
    {led : Led}
    {ledStatus : LedDefines}
    (hCounting : Counting led)
    (hAssigned : ledStatus.assigned = true) :
    Steady led ledStatus ↔ InTurn led ledStatus := by
  rcases hCounting with ⟨hNonneg, hLe, hHigh⟩
  have hEq := countTo_eq ⟨hNonneg, hLe, hHigh⟩
  constructor
  · rintro ⟨_, hCount, hLeft⟩
    cases ledStatus with
    | sysOn =>
        refine ⟨fun hOn hTwo => ?_, fun _ => rfl⟩
        -- the third count of the longer mode leaves it on
        apply absurd ⟨hOn, ?_⟩ hLeft
        simp [ledBlink, hEq, hTwo, hOn]
    | noNetwork =>
        refine ⟨fun _ _ => rfl, fun hTen => ?_⟩
        simp [ledBlink, hEq, hTen] at hCount
    | noGps => cases hAssigned
    | noFix => cases hAssigned
  · rintro ⟨hTwo, hTen⟩
    cases ledStatus with
    | sysOn =>
        have hNotTwo : ¬ (led.high = true ∧ led.count = 2) :=
          fun hBoth => by cases hTwo hBoth.1 hBoth.2
        constructor
        all_goals
          simp only [ledBlink, hEq]
          split_ifs <;> grind
    | noNetwork =>
        have hNotTen : led.count ≠ 10 :=
          fun hCount => by cases hTen hCount
        constructor
        all_goals
          simp only [ledBlink, hEq]
          split_ifs <;> grind
    | noGps => cases hAssigned
    | noFix => cases hAssigned

/- A steady tick keeps the count and the LED together. -/
theorem counting_ledBlink
    {led : Led}
    {ledStatus : LedDefines}
    (hCounting : Counting led)
    (hAssigned : ledStatus.assigned = true)
    (hTurn : InTurn led ledStatus) :
    Counting (ledBlink led ledStatus) := by
  have hSteady :=
    (steady_iff_inTurn hCounting hAssigned).mpr hTurn
  refine ⟨hSteady.count_nonneg, hSteady.count_le, ?_⟩
  have hLeft := hSteady.not_left
  have hEq := countTo_eq hCounting
  cases ledStatus with
  | sysOn =>
      simp only [ledBlink, hEq] at hLeft ⊢
      split_ifs at hLeft ⊢ <;> simp_all
  | noNetwork =>
      simp only [ledBlink, hEq] at hLeft ⊢
      split_ifs at hLeft ⊢ <;> simp_all
  | noGps => cases hAssigned
  | noFix => cases hAssigned

end App

------------------------------------------------------------
-- Runs
------------------------------------------------------------

namespace App

/- The LED blinks properly over a run of ticks. -/
def BlinksSteadily (modes : List LedDefines) : Prop :=
  ∀ t ∈ taken (total ledBlink) ledStart modes,
    Steady t.1 t.2

/-
  Over any run of ticks in the modes that the program
  assigns, the LED blinks properly exactly when every tick
  is in turn.
-/
theorem led_steady_iff
    (modes : List LedDefines)
    (hAssigned : ∀ mode ∈ modes, mode.assigned = true) :
    BlinksSteadily modes ↔
      ∀ t ∈ taken (total ledBlink) ledStart modes,
        InTurn t.1 t.2 := by
  apply forall_taken_iff Counting
  · intro mode hMode led hCounting
    exact steady_iff_inTurn hCounting (hAssigned mode hMode)
  · intro mode hMode led led' hCounting hTurn hStep
    cases hStep
    exact counting_ledBlink hCounting (hAssigned mode hMode)
      hTurn
  · exact counting_ledStart

/- The mode changes behind a whole blink. -/
theorem led_steady_network_found :
    BlinksSteadily
      [.noNetwork, .noNetwork, .noNetwork, .sysOn,
        .sysOn] := by
  apply (led_steady_iff _ (by decide)).mpr
  intro t hMem
  have hAll : (taken (total ledBlink) ledStart
      [.noNetwork, .noNetwork, .noNetwork, .sysOn,
        .sysOn]).all (fun t => decide
          ((t.1.high = true → t.1.count = 2 →
              t.2 = LedDefines.noNetwork) ∧
            (t.1.count = 10 → t.2 = .sysOn))) = true := by
    decide
  have hBoth := of_decide_eq_true
    (List.all_eq_true.mp hAll t hMem)
  exact ⟨hBoth.1, hBoth.2⟩

/-
  The network is lost in the second in which the LED is on:
  it stays on, and the count is past every threshold.
-/
theorem led_left_on :
    ¬ ∀ modes : List LedDefines,
      (∀ mode ∈ modes, mode.assigned = true) →
        BlinksSteadily modes := by
  intro hAll
  have hSteady := hAll
    (List.replicate 10 .sysOn ++ [.noNetwork]) (by decide)
    (⟨10, true⟩, .noNetwork)
    (mem_taken_total_iff.mpr
      ⟨List.replicate 10 .sysOn, [], rfl, by decide⟩)
  exact absurd hSteady.count_le (by decide)

/- A count past the thresholds leaves the LED as it is. -/
theorem ledBlink_of_past
    {led : Led}
    {ledStatus : LedDefines}
    (hAssigned : ledStatus.assigned = true)
    (hPast : 10 < led.count)
    (hFits : led.count + 1 < 2 ^ 31) :
    ledBlink led ledStatus =
      { led with count := led.count + 1 } := by
  have hCount : i32 (led.count + 1) = led.count + 1 :=
    i32_of_bounds (by omega) (by omega)
  cases ledStatus with
  | sysOn =>
      rw [ledBlink, countTo, hCount, if_neg (by omega),
        if_neg (by omega)]
  | noNetwork =>
      rw [ledBlink, countTo, hCount, if_neg (by omega),
        if_neg (by omega)]
  | noGps => cases hAssigned
  | noFix => cases hAssigned

/-
  Once past them, no sequence of modes brings the LED back
  before the count overflows.
-/
theorem foldl_ledBlink_of_past
    {modes : List LedDefines}
    (hAssigned : ∀ mode ∈ modes, mode.assigned = true)
    {led : Led}
    (hPast : 10 < led.count)
    (hFits : led.count + modes.length < 2 ^ 31) :
    (modes.foldl ledBlink led).high = led.high := by
  induction modes generalizing led with
  | nil => rfl
  | cons mode modes ih =>
      simp only [List.length_cons, Nat.cast_add,
        Nat.cast_one] at hFits
      rw [List.forall_mem_cons] at hAssigned
      have hTick := ledBlink_of_past hAssigned.1 hPast
        (by omega)
      rw [List.foldl_cons, hTick]
      exact ih hAssigned.2 (by simp only; omega)
        (by simp only; omega)

end App
