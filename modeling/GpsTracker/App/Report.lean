import GpsTracker.App.Coordinates
import GpsTracker.Lib.Latest
import Mathlib.Tactic.NormNum

/-
  The reporting loop of `gps_testTask` in `app/src/app.c`.

  An iteration with the GPS on samples a position, compares
  it with the previous one and uploads it when the network
  is up and the position is not taken for a false reading.
  The comparison is made only when both coordinates of the
  previous position are positive; otherwise `falseGPS` and
  `motion` stay as they are.

  What the loop remembers is a function of the sampled
  positions: the outcome of the latest comparison made.

  Main declarations:
    * `App.report`, `App.iteration`
    * `App.Signs`, `App.samples`
    * `App.Tracks`, `App.tracks_after`
    * `App.uploadsNear_iff_uncheckedNear`
-/

open Latest

------------------------------------------------------------
-- One Iteration
------------------------------------------------------------

namespace App

/- The macro `ABS` of `std_inc/math.h`. -/
def abs (a : ℚ) : ℚ :=
  if a < 0 then -a else a

/- `GPS_MUL_FACTOR_MAX` -/
def gpsMulFactorMax : ℚ := 1000

/- `LAT_THRESHOLD_MAX` -/
def latThresholdMax : ℚ := 10

/- `LONG_THRESHOLD_MAX` -/
def longThresholdMax : ℚ := 10

/- The global variables of the reporting loop. -/
structure Globals where
  falseGPS : Bool
  prevLat : ℚ
  prevLong : ℚ
  motion : Bool
deriving DecidableEq

/- The globals at program start. -/
def Globals.init : Globals :=
  { falseGPS := true
    prevLat := 0
    prevLong := 0
    motion := true }

/- "Check False GPS" -/
def checkFalseGPS
    (g : Globals)
    (p : Position) : Globals :=
  if 0 < g.prevLat ∧ 0 < g.prevLong then
    { g with
      falseGPS :=
        if abs (p.latitude - g.prevLat) * gpsMulFactorMax <
              latThresholdMax ∧
            abs (p.longitude - g.prevLong) *
              gpsMulFactorMax < longThresholdMax then
          false
        else
          true
      motion :=
        if p.latitude - g.prevLat = 0 ∧
            p.longitude - g.prevLong = 0 then
          false
        else
          true }
  else
    g

/-
  The part of an iteration behind the conversion: whether
  `Http_Post` is called, and the globals it leaves.
-/
def report
    (g : Globals)
    (p : Position)
    (status : UInt8) : Bool × Globals :=
  let g := checkFalseGPS g p
  (status ≠ 0 && !g.falseGPS,
    { g with
      prevLat := p.latitude
      prevLong := p.longitude })

/-
  What one iteration finds: whether the GPS is on, and if it
  is, the position sampled and the network status.
-/
structure Round where
  isGpsOn : Bool
  position : Position
  status : UInt8
deriving DecidableEq

/- One iteration of the loop. -/
def iteration
    (g : Globals)
    (r : Round) : Bool × Globals :=
  if r.isGpsOn then
    report g r.position r.status
  else
    (false, g)

/- The globals after a run of the loop. -/
def after (rounds : List Round) : Globals :=
  rounds.foldl (fun g r => (iteration g r).2) Globals.init

/- `Http_Post` is called in this iteration, after a run. -/
def Posts
    (rounds : List Round)
    (r : Round) : Prop :=
  (iteration (after rounds) r).1 = true

end App

------------------------------------------------------------
-- Sampled Positions
------------------------------------------------------------

namespace App

/- A choice of a sign. -/
inductive Sign where
  | plus
  | minus
deriving DecidableEq

def Sign.apply : Sign → ℚ → ℚ
| .plus, x => x
| .minus, x => -x

/- A sign for each coordinate: a quadrant of the earth. -/
structure Signs where
  latitude : Sign
  longitude : Sign
deriving DecidableEq

/- The quadrant in which the code makes its comparison. -/
def northEast : Signs := ⟨.plus, .plus⟩

def Signs.apply
    (signs : Signs)
    (p : Position) : Position :=
  ⟨signs.latitude.apply p.latitude,
    signs.longitude.apply p.longitude⟩

/- The position is strictly inside the quadrant. -/
def Signs.Covers
    (signs : Signs)
    (p : Position) : Prop :=
  0 < (signs.apply p).latitude ∧
    0 < (signs.apply p).longitude

instance (signs : Signs) : DecidablePred signs.Covers :=
  fun _ => inferInstanceAs (Decidable (_ ∧ _))

/- Less than 0.01 degree apart in each coordinate. -/
def Position.Near (p q : Position) : Prop :=
  |p.latitude - q.latitude| < 1 / 100 ∧
    |p.longitude - q.longitude| < 1 / 100

instance (p q : Position) : Decidable (p.Near q) :=
  inferInstanceAs (Decidable (_ ∧ _))

/- The positions sampled in a run, oldest first. -/
def samples (rounds : List Round) : List Position :=
  rounds.filterMap fun r =>
    if r.isGpsOn then some r.position else none

/-
  The comparison of a position with the one before it, made
  when the one before is in the quadrant.
-/
def comparison
    (signs : Signs)
    (compare : Position → Position → Bool)
    (step : Position × Position) : Option Bool :=
  if signs.Covers step.1 then
    some (compare step.2 step.1)
  else
    none

/- The outcome of the latest comparison made. -/
def latestOutcome
    (signs : Signs)
    (compare : Position → Position → Bool)
    (initial : Bool)
    (positions : List Position) : Bool :=
  (latest (comparison signs compare)
    (steps positions)).getD initial

/- The latest comparison found the positions near. -/
def latestNear
    (signs : Signs)
    (positions : List Position) : Bool :=
  latestOutcome signs (fun p q => p.Near q) false positions

/- The latest comparison found the positions to differ. -/
def latestMotion
    (signs : Signs)
    (positions : List Position) : Bool :=
  latestOutcome signs (fun p q => p ≠ q) true positions

end App

------------------------------------------------------------
-- What the Loop Remembers
------------------------------------------------------------

namespace App

theorem abs_eq (a : ℚ) : abs a = |a| := by
  unfold abs
  split
  · next hNeg => rw [abs_of_neg hNeg]
  · next hNonneg => rw [abs_of_nonneg (not_lt.mp hNonneg)]

theorem abs_mul_lt_iff
    (a : ℚ) :
    abs a * 1000 < 10 ↔ |a| < 1 / 100 := by
  rw [abs_eq, ← lt_div_iff₀ (by norm_num)]
  norm_num

/- `prev_lat` and `prev_long` -/
def Globals.prev (g : Globals) : Position :=
  ⟨g.prevLat, g.prevLong⟩

/- The check is the comparison in the north-east quadrant. -/
theorem checkFalseGPS_eq
    (g : Globals)
    (p : Position) :
    checkFalseGPS g p =
      { g with
        falseGPS :=
          !(comparison northEast (fun p q => p.Near q)
            (g.prev, p)).getD (!g.falseGPS)
        motion :=
          (comparison northEast (fun p q => p ≠ q)
            (g.prev, p)).getD g.motion } := by
  have hCovers : northEast.Covers g.prev ↔
      0 < g.prevLat ∧ 0 < g.prevLong := Iff.rfl
  have hNear : p.Near g.prev ↔
      abs (p.latitude - g.prevLat) * gpsMulFactorMax <
          latThresholdMax ∧
        abs (p.longitude - g.prevLong) * gpsMulFactorMax <
          longThresholdMax :=
    (and_congr (abs_mul_lt_iff _) (abs_mul_lt_iff _)).symm
  have hSame : p = g.prev ↔
      p.latitude - g.prevLat = 0 ∧
        p.longitude - g.prevLong = 0 := by
    rw [sub_eq_zero, sub_eq_zero]
    exact Position.ext_iff
  unfold checkFalseGPS comparison
  by_cases hCheck : 0 < g.prevLat ∧ 0 < g.prevLong
  · simp only [if_pos hCheck, if_pos (hCovers.mpr hCheck),
      ← hNear, ← hSame]
    simp
  · simp only [if_neg hCheck, if_neg (mt hCovers.mp hCheck)]
    simp

/- The globals are what the sampled positions make them. -/
structure Tracks
    (g : Globals)
    (positions : List Position) : Prop where
  prev : g.prev = positions.getLast?.getD ⟨0, 0⟩
  falseGPS : g.falseGPS = !latestNear northEast positions
  motion : g.motion = latestMotion northEast positions

theorem not_covers_origin
    (signs : Signs) :
    ¬ signs.Covers ⟨0, 0⟩ := by
  intro hCovers
  have hPos := hCovers.1
  unfold Signs.apply at hPos
  cases hSign : signs.latitude with
  | plus => simp [hSign, Sign.apply] at hPos
  | minus => simp [hSign, Sign.apply] at hPos

/- One more sample: its comparison is the latest, if made. -/
theorem latestOutcome_append_singleton
    (signs : Signs)
    (compare : Position → Position → Bool)
    (initial : Bool)
    (positions : List Position)
    (p : Position) :
    latestOutcome signs compare initial
        (positions ++ [p]) =
      (comparison signs compare
        (positions.getLast?.getD ⟨0, 0⟩, p)).getD
          (latestOutcome signs compare initial
            positions) := by
  unfold latestOutcome
  rw [steps_append_singleton]
  cases positions.getLast? with
  | none =>
      simp [comparison, not_covers_origin]
  | some q =>
      simp only [Option.map_some, Option.toList_some,
        Option.getD_some, latest_append_singleton]
      cases comparison signs compare (q, p) with
      | none => rfl
      | some outcome => rfl

theorem tracks_init : Tracks Globals.init [] :=
  { prev := rfl
    falseGPS := rfl
    motion := rfl }

/- One report keeps track of the new sample. -/
theorem Tracks.report
    {g : Globals}
    {positions : List Position}
    (hTracks : Tracks g positions)
    (p : Position)
    (status : UInt8) :
    Tracks (report g p status).2 (positions ++ [p]) :=
  { prev := by
      rw [List.getLast?_concat]
      rfl
    falseGPS := by
      have hNear : latestNear northEast positions =
          !g.falseGPS := by
        rw [hTracks.falseGPS, Bool.not_not]
      unfold latestNear at hNear ⊢
      rw [App.report, checkFalseGPS_eq,
        latestOutcome_append_singleton, ← hTracks.prev,
        hNear]
    motion := by
      rw [App.report, checkFalseGPS_eq, latestMotion,
        latestOutcome_append_singleton, ← hTracks.prev,
        hTracks.motion]
      rfl }

theorem after_append_singleton
    (rounds : List Round)
    (r : Round) :
    after (rounds ++ [r]) =
      (iteration (after rounds) r).2 := by
  unfold after
  rw [List.foldl_append]
  rfl

theorem samples_append_singleton
    (rounds : List Round)
    (r : Round) :
    samples (rounds ++ [r]) =
      if r.isGpsOn then
        samples rounds ++ [r.position]
      else
        samples rounds := by
  unfold samples
  rw [List.filterMap_append]
  by_cases hOn : r.isGpsOn = true
  · simp [hOn]
  · simp [hOn]

/- A whole run keeps track of its samples. -/
theorem tracks_after
    (rounds : List Round) :
    Tracks (after rounds) (samples rounds) := by
  induction rounds using List.reverseRecOn with
  | nil => exact tracks_init
  | append_singleton rounds r ih =>
      rw [after_append_singleton, samples_append_singleton,
        iteration]
      by_cases hOn : r.isGpsOn = true
      · rw [if_pos hOn, if_pos hOn]
        exact ih.report r.position r.status
      · rw [if_neg hOn, if_neg hOn]
        exact ih

/- When an iteration uploads. -/
theorem posts_iff
    (rounds : List Round)
    (r : Round) :
    Posts rounds r ↔
      r.isGpsOn ∧ r.status ≠ 0 ∧
        latestNear northEast
          (samples rounds ++ [r.position]) := by
  have hTracks :=
    (tracks_after rounds).report r.position r.status
  unfold Posts iteration
  by_cases hOn : r.isGpsOn = true
  · rw [if_pos hOn]
    have hFalse := hTracks.falseGPS
    unfold report at hFalse ⊢
    simp only at hFalse ⊢
    rw [hFalse]
    simp [hOn]
  · simp [hOn]

end App

------------------------------------------------------------
-- The Outlier Filter
------------------------------------------------------------

namespace App

/-
  Every upload of the run is of a position near the previous
  one, with a position sampled before.
-/
def UploadsNear (run : List Round) : Prop :=
  ∀ before r rest, run = before ++ r :: rest →
    Posts before r →
    (∃ earlier ∈ before, earlier.isGpsOn) ∧
      abs (r.position.latitude - (after before).prevLat) <
        latThresholdMax / gpsMulFactorMax ∧
      abs (r.position.longitude - (after before).prevLong) <
        longThresholdMax / gpsMulFactorMax

/-
  Behind a position outside the north-east quadrant no
  comparison is made. Where the latest one made found near,
  and the network is up, the sample is near all the same.
-/
def UncheckedNear (run : List Round) : Prop :=
  ∀ before r rest, run = before ++ r :: rest →
    r.isGpsOn → r.status ≠ 0 →
    ∀ q, (samples before).getLast? = some q →
      ¬ northEast.Covers q →
      latestNear northEast (samples before) →
      r.position.Near q

theorem near_iff_threshold
    (p : Position)
    (g : Globals) :
    p.Near g.prev ↔
      abs (p.latitude - g.prevLat) <
          latThresholdMax / gpsMulFactorMax ∧
        abs (p.longitude - g.prevLong) <
          longThresholdMax / gpsMulFactorMax := by
  have hThreshold : (10 : ℚ) / 1000 = 1 / 100 := by norm_num
  simp only [latThresholdMax, longThresholdMax,
    gpsMulFactorMax, hThreshold, abs_eq]
  rfl

theorem samples_eq_nil_iff
    (rounds : List Round) :
    samples rounds = [] ↔
      ¬ ∃ r ∈ rounds, r.isGpsOn := by
  simp [samples, List.filterMap_eq_nil_iff]

/-
  The filter lets only near positions through exactly when
  nothing far arrives where the comparison is skipped.
-/
theorem uploadsNear_iff_uncheckedNear
    (run : List Round) :
    UploadsNear run ↔ UncheckedNear run := by
  constructor
  · intro hUploads before r rest hRun hOn hStatus q hLast
      hOutside hNear
    have hTracks := (tracks_after before).prev
    rw [hLast, Option.getD_some] at hTracks
    have hPosts : Posts before r := by
      rw [posts_iff]
      refine ⟨hOn, hStatus, ?_⟩
      rw [latestNear, latestOutcome_append_singleton, hLast,
        Option.getD_some, comparison, if_neg hOutside]
      exact hNear
    rw [← hTracks, near_iff_threshold]
    exact (hUploads before r rest hRun hPosts).2
  · intro hUnchecked before r rest hRun hPosts
    have hTracks := (tracks_after before).prev
    rcases (posts_iff before r).mp hPosts with
      ⟨hOn, hStatus, hNear⟩
    rw [latestNear, latestOutcome_append_singleton] at hNear
    rw [← near_iff_threshold, hTracks]
    cases hLast : (samples before).getLast? with
    | none =>
        -- nothing sampled: `falseGPS` is still true
        rw [List.getLast?_eq_none_iff.mp hLast] at hNear
        cases hNear
    | some q =>
        constructor
        · by_contra hNone
          rw [(samples_eq_nil_iff before).mpr hNone] at hLast
          cases hLast
        · rw [hLast, Option.getD_some, comparison] at hNear
          by_cases hInside : northEast.Covers q
          · rw [if_pos hInside] at hNear
            exact of_decide_eq_true hNear
          · rw [if_neg hInside] at hNear
            exact hUnchecked before r rest hRun hOn hStatus q
              hLast hInside hNear

/- From 0.3' north of the equator to 0.06' south of it. -/
def equatorCrossing : List Round :=
  [⟨true, ⟨1 / 200, 10⟩, 1⟩, ⟨true, ⟨1 / 200, 10⟩, 1⟩,
    ⟨true, ⟨-1 / 1000, 10⟩, 1⟩]

/- Behind the equator a far position is uploaded. -/
theorem far_position_uploaded :
    ¬ UploadsNear
      (equatorCrossing ++ [⟨true, ⟨50, 50⟩, 1⟩]) := by
  intro hUploads
  have hPosts :
      Posts equatorCrossing ⟨true, ⟨50, 50⟩, 1⟩ := by
    unfold Posts
    decide +kernel
  have hNear := (hUploads _ _ [] rfl hPosts).2.1
  revert hNear
  decide +kernel

end App
