import GpsTracker.App.Report

/-
  The reporting loop in the other hemispheres.

  Giving all sampled coordinates of a run other signs moves
  the comparisons of the loop to another quadrant of the
  original positions. The uploads and `motion` stay the same
  exactly when no comparison in either quadrant finds the
  tracker at rest, and the latest comparisons agree wherever
  an upload depends on them.

  Main declarations:
    * `App.Round.mirror`
    * `App.MirrorSame`
    * `App.mirrorSame_iff`
-/

open Latest

------------------------------------------------------------
-- Mirrored Positions
------------------------------------------------------------

namespace App

/- The iteration with the signs applied to its sample. -/
def Round.mirror
    (signs : Signs)
    (r : Round) : Round :=
  { r with position := signs.apply r.position }

theorem Sign.apply_sub
    (sign : Sign)
    (x y : ℚ) :
    sign.apply x - sign.apply y = sign.apply (x - y) := by
  cases sign with
  | plus => rfl
  | minus => exact (neg_sub' x y).symm

theorem Sign.abs_apply
    (sign : Sign)
    (x : ℚ) :
    |sign.apply x| = |x| := by
  cases sign with
  | plus => rfl
  | minus => exact abs_neg x

theorem Sign.apply_inj
    {sign : Sign}
    {x y : ℚ} :
    sign.apply x = sign.apply y ↔ x = y := by
  cases sign with
  | plus => rfl
  | minus => exact neg_inj

theorem Signs.apply_near
    (signs : Signs)
    (p q : Position) :
    (signs.apply p).Near (signs.apply q) ↔ p.Near q := by
  simp only [Position.Near, Signs.apply, Sign.apply_sub,
    Sign.abs_apply]

theorem Signs.apply_eq_iff
    (signs : Signs)
    (p q : Position) :
    signs.apply p = signs.apply q ↔ p = q := by
  simp only [Position.ext_iff, Signs.apply, Sign.apply_inj]

/- Two different quadrants have no position in common. -/
theorem Signs.not_covers_of_ne
    {signs : Signs}
    (hNe : signs ≠ northEast)
    {p : Position}
    (hCovers : northEast.Covers p) :
    ¬ signs.Covers p := by
  intro hSigns
  have hLatitude : 0 < p.latitude := hCovers.1
  have hLongitude : 0 < p.longitude := hCovers.2
  rcases signs with ⟨latitude, longitude⟩
  cases latitude with
  | minus =>
      exact lt_asymm hLatitude (neg_pos.mp hSigns.1)
  | plus =>
      cases longitude with
      | minus =>
          exact lt_asymm hLongitude (neg_pos.mp hSigns.2)
      | plus => exact hNe rfl

theorem samples_mirror
    (signs : Signs)
    (rounds : List Round) :
    samples (rounds.map (Round.mirror signs)) =
      (samples rounds).map signs.apply := by
  unfold samples
  rw [List.filterMap_map, List.map_filterMap]
  congr 1
  funext r
  by_cases hOn : r.isGpsOn = true
  · simp [Round.mirror, hOn]
  · simp [Round.mirror, hOn]

/- Comparisons of mirrored positions. -/
theorem latestOutcome_map
    (signs : Signs)
    {compare : Position → Position → Bool}
    (hCompare : ∀ p q,
      compare (signs.apply p) (signs.apply q) = compare p q)
    (initial : Bool)
    (positions : List Position) :
    latestOutcome northEast compare initial
        (positions.map signs.apply) =
      latestOutcome signs compare initial positions := by
  have hComparison :
      comparison northEast compare ∘
          Prod.map signs.apply signs.apply =
        comparison signs compare := by
    funext step
    simp only [comparison, Function.comp_apply, Prod.map_fst,
      Prod.map_snd, hCompare]
    rfl
  unfold latestOutcome
  rw [steps_map, latest_map, hComparison]

theorem latestNear_map
    (signs : Signs)
    (positions : List Position) :
    latestNear northEast (positions.map signs.apply) =
      latestNear signs positions := by
  apply latestOutcome_map signs
  intro p q
  simp only [signs.apply_near]

theorem latestMotion_map
    (signs : Signs)
    (positions : List Position) :
    latestMotion northEast (positions.map signs.apply) =
      latestMotion signs positions := by
  apply latestOutcome_map signs
  intro p q
  simp only [ne_eq, signs.apply_eq_iff]

end App

------------------------------------------------------------
-- Mirrored Runs
------------------------------------------------------------

namespace App

/-
  Mirroring the run changes neither in which iterations it
  uploads nor `motion` after any of them.
-/
def MirrorSame
    (signs : Signs)
    (run : List Round) : Prop :=
  ∀ before r rest, run = before ++ r :: rest →
    (Posts (before.map (Round.mirror signs))
        (r.mirror signs) ↔ Posts before r) ∧
      (after ((before ++ [r]).map
        (Round.mirror signs))).motion =
          (after (before ++ [r])).motion

/-
  Two equal samples in a row are never compared, neither in
  the north-east quadrant nor in the mirrored one.
-/
def NeverAtRest
    (signs : Signs)
    (run : List Round) : Prop :=
  ∀ step ∈ steps (samples run), step.2 = step.1 →
    ¬ northEast.Covers step.1 ∧ ¬ signs.Covers step.1

/-
  Whenever a sample is taken with the network up, the latest
  comparisons in the two quadrants have the same outcome.
-/
def NearAgrees
    (signs : Signs)
    (run : List Round) : Prop :=
  ∀ before r rest, run = before ++ r :: rest →
    r.isGpsOn → r.status ≠ 0 →
    latestNear signs (samples (before ++ [r])) =
      latestNear northEast (samples (before ++ [r]))

theorem motion_after
    (rounds : List Round) :
    (after rounds).motion =
      latestMotion northEast (samples rounds) :=
  (tracks_after rounds).motion

theorem motion_after_mirror
    (signs : Signs)
    (rounds : List Round) :
    (after (rounds.map (Round.mirror signs))).motion =
      latestMotion signs (samples rounds) := by
  rw [motion_after, samples_mirror, latestMotion_map]

theorem posts_iff_latestNear
    (rounds : List Round)
    (r : Round) :
    Posts rounds r ↔
      r.isGpsOn ∧ r.status ≠ 0 ∧
        latestNear northEast (samples (rounds ++ [r])) := by
  rw [posts_iff, samples_append_singleton]
  by_cases hOn : r.isGpsOn = true
  · rw [if_pos hOn]
  · simp [hOn]

theorem posts_mirror_iff
    (signs : Signs)
    (rounds : List Round)
    (r : Round) :
    Posts (rounds.map (Round.mirror signs))
        (r.mirror signs) ↔
      r.isGpsOn ∧ r.status ≠ 0 ∧
        latestNear signs (samples (rounds ++ [r])) := by
  rw [posts_iff_latestNear, ← List.map_singleton,
    ← List.map_append, samples_mirror, latestNear_map]
  rfl

/- Without a comparison at rest `motion` stays true. -/
theorem latestMotion_eq_true
    {signs : Signs}
    {positions : List Position}
    (hMoves : ∀ step ∈ steps positions,
      step.2 = step.1 → ¬ signs.Covers step.1) :
    latestMotion signs positions = true := by
  unfold latestMotion latestOutcome
  cases hLatest : latest
      (comparison signs fun p q => p ≠ q)
      (steps positions) with
  | none => rfl
  | some moved =>
      rcases exists_of_latest_eq_some hLatest with
        ⟨step, hMem, hOutcome⟩
      unfold comparison at hOutcome
      by_cases hCovers : signs.Covers step.1
      · rw [if_pos hCovers] at hOutcome
        rw [Option.getD_some, ← Option.some.inj hOutcome]
        exact decide_eq_true fun hSame =>
          hMoves step hMem hSame hCovers
      · rw [if_neg hCovers] at hOutcome
        cases hOutcome

/- A comparison at rest clears `motion`. -/
theorem latestMotion_at_rest
    {signs : Signs}
    {positions : List Position}
    {q : Position}
    (hLast : positions.getLast? = some q)
    (hCovers : signs.Covers q) :
    latestMotion signs (positions ++ [q]) = false := by
  rw [latestMotion, latestOutcome_append_singleton, hLast,
    Option.getD_some, comparison, if_pos hCovers]
  simp

/- Behind any other position `motion` is kept. -/
theorem latestMotion_unchecked
    {signs : Signs}
    {positions : List Position}
    {q : Position}
    (hLast : positions.getLast? = some q)
    (hCovers : ¬ signs.Covers q)
    (p : Position) :
    latestMotion signs (positions ++ [p]) =
      latestMotion signs positions := by
  rw [latestMotion, latestOutcome_append_singleton, hLast,
    Option.getD_some, comparison, if_neg hCovers]
  rfl

/- Where both are kept true, only one can be cleared. -/
theorem not_covers_of_motion_eq
    {signs other : Signs}
    {positions : List Position}
    {q : Position}
    (hLast : positions.getLast? = some q)
    (hApart : signs.Covers q → ¬ other.Covers q)
    (hMoving : latestMotion other positions = true)
    (hMotion : latestMotion other (positions ++ [q]) =
      latestMotion signs (positions ++ [q])) :
    ¬ signs.Covers q := by
  intro hCovers
  rw [latestMotion_unchecked hLast (hApart hCovers),
    latestMotion_at_rest hLast hCovers, hMoving] at hMotion
  cases hMotion

theorem MirrorSame.of_append
    {signs : Signs}
    {run more : List Round}
    (hSame : MirrorSame signs (run ++ more)) :
    MirrorSame signs run := by
  intro before r rest hRun
  apply hSame before r (rest ++ more)
  rw [hRun, List.append_assoc, List.cons_append]

/- Different signs allow no comparison at rest. -/
theorem neverAtRest_of_mirrorSame
    {signs : Signs}
    (hNe : signs ≠ northEast)
    {run : List Round}
    (hSame : MirrorSame signs run) :
    NeverAtRest signs run := by
  have hApart {q : Position} :
      northEast.Covers q → ¬ signs.Covers q :=
    Signs.not_covers_of_ne hNe
  induction run using List.reverseRecOn with
  | nil =>
      intro step hMem
      cases hMem
  | append_singleton run r ih =>
      have hBefore := ih hSame.of_append
      have hMotion := (hSame run r [] rfl).2
      rw [motion_after_mirror, motion_after,
        samples_append_singleton] at hMotion
      intro step hMem hStill
      rw [samples_append_singleton] at hMem
      by_cases hOn : r.isGpsOn = true
      · rw [if_pos hOn] at hMem hMotion
        rw [steps_append_singleton] at hMem
        rcases List.mem_append.mp hMem with hOld | hNew
        · exact hBefore step hOld hStill
        · have hNorthEast :
              latestMotion northEast (samples run) = true :=
            latestMotion_eq_true fun step hMem hStill =>
              (hBefore step hMem hStill).1
          have hSigns :
              latestMotion signs (samples run) = true :=
            latestMotion_eq_true fun step hMem hStill =>
              (hBefore step hMem hStill).2
          cases hLast : (samples run).getLast? with
          | none =>
              rw [hLast] at hNew
              cases hNew
          | some q =>
              rw [hLast] at hNew
              rcases List.mem_singleton.mp hNew with rfl
              -- the new sample is the previous one again
              have hAgain : r.position = q := hStill
              rw [hAgain] at hMotion
              exact ⟨not_covers_of_motion_eq hLast hApart
                  hSigns hMotion,
                not_covers_of_motion_eq hLast
                  (fun hCovers hInside =>
                    hApart hInside hCovers)
                  hNorthEast hMotion.symm⟩
      · rw [if_neg hOn] at hMem
        exact hBefore step hMem hStill

theorem nearAgrees_of_mirrorSame
    {signs : Signs}
    {run : List Round}
    (hSame : MirrorSame signs run) :
    NearAgrees signs run := by
  intro before r rest hRun hOn hStatus
  have hPosts := (hSame before r rest hRun).1
  rw [posts_mirror_iff, posts_iff_latestNear] at hPosts
  rw [Bool.eq_iff_iff]
  constructor
  · intro hNear
    exact (hPosts.mp ⟨hOn, hStatus, hNear⟩).2.2
  · intro hNear
    exact (hPosts.mpr ⟨hOn, hStatus, hNear⟩).2.2

theorem mirrorSame_of_agrees
    {signs : Signs}
    {run : List Round}
    (hMoves : NeverAtRest signs run)
    (hAgrees : NearAgrees signs run) :
    MirrorSame signs run := by
  intro before r rest hRun
  constructor
  · rw [posts_mirror_iff, posts_iff_latestNear]
    constructor
    · intro hPosts
      rcases hPosts with ⟨hOn, hStatus, hNear⟩
      rw [hAgrees before r rest hRun hOn hStatus] at hNear
      exact ⟨hOn, hStatus, hNear⟩
    · intro hPosts
      rcases hPosts with ⟨hOn, hStatus, hNear⟩
      rw [← hAgrees before r rest hRun hOn hStatus] at hNear
      exact ⟨hOn, hStatus, hNear⟩
  · have hSteps : ∀ step ∈ steps (samples (before ++ [r])),
        step ∈ steps (samples run) := by
      intro step hMem
      rw [hRun, List.append_cons,
        samples, List.filterMap_append]
      exact mem_steps_append _ hMem
    rw [motion_after_mirror, motion_after,
      latestMotion_eq_true fun step hMem hStill =>
        (hMoves step (hSteps step hMem) hStill).2,
      latestMotion_eq_true fun step hMem hStill =>
        (hMoves step (hSteps step hMem) hStill).1]

theorem mirrorSame_northEast
    (run : List Round) :
    MirrorSame northEast run := by
  intro before r rest hRun
  constructor
  · rw [posts_mirror_iff, posts_iff_latestNear]
  · rw [motion_after_mirror, motion_after]

/-
  The loop behaves the same in another quadrant exactly when
  no comparison meets a tracker at rest and the comparisons
  of both quadrants agree where an upload depends on them.
-/
theorem mirrorSame_iff
    (signs : Signs)
    (run : List Round) :
    MirrorSame signs run ↔
      signs = northEast ∨
        (NeverAtRest signs run ∧ NearAgrees signs run) := by
  constructor
  · intro hSame
    by_cases hSigns : signs = northEast
    · exact .inl hSigns
    · exact .inr ⟨neverAtRest_of_mirrorSame hSigns hSame,
        nearAgrees_of_mirrorSame hSame⟩
  · intro hAgrees
    rcases hAgrees with hSigns | hAgrees
    · rw [hSigns]
      exact mirrorSame_northEast run
    · exact mirrorSame_of_agrees hAgrees.1 hAgrees.2

/- At rest north of the equator: uploaded. -/
def atRest : List Round :=
  [⟨true, ⟨10, 10⟩, 1⟩, ⟨true, ⟨10, 10⟩, 1⟩]

/- At rest south of the equator: never uploaded. -/
theorem south_differs :
    ¬ MirrorSame ⟨.minus, .plus⟩ atRest := by
  intro hSame
  have hPosts := (hSame [⟨true, ⟨10, 10⟩, 1⟩] _ [] rfl).1
  revert hPosts
  unfold Posts
  decide +kernel

end App
