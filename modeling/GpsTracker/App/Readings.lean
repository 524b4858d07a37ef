import GpsTracker.App.Conversion
import GpsTracker.App.Tracker
import GpsTracker.Gps.Reception

/-
  What the RMC frame of `g_gps_info` holds in a run.

  The frame is what the RMC lines made of it, one after the
  other, whatever the tasks do in between. When a receiver
  has written the latest of them, the frame is its record,
  and a report works with the position of that record, in
  degrees; without a position there is nothing to divide by.

  Main declarations:
    * `App.rmcAfter`, `App.Tracker.HoldsRmc`
    * `App.holdsRmc_of_run`
    * `App.LatestRecord`, `App.report_of_run`
-/

open CString Gps Minmea

------------------------------------------------------------
-- The Frame as a History
------------------------------------------------------------

namespace App

/- A line that `ParseOneNmea` takes for an RMC sentence. -/
def isRmc (line : List UInt8) : Bool :=
  sentenceId line false = .rmc

/- One line after another, if it is an RMC sentence. -/
def rmcAfter
    (rmc : SentenceRmc)
    (lines : List (List UInt8)) : SentenceRmc :=
  lines.foldl
    (fun rmc line =>
      if isRmc line then (parseRmc rmc line).2 else rmc)
    rmc

/- The RMC frame is what the lines made of it. -/
def Tracker.HoldsRmc (t : Tracker) : Prop :=
  t.info.rmc = rmcAfter Parser.init.info.rmc t.handed

theorem rmc_parseOneNmea
    (p : Parser)
    (line : List UInt8)
    (flag : UInt8) :
    (parseOneNmea p line flag).2.info.rmc =
      rmcAfter p.info.rmc [line] := by
  have hInfo := p.enterFrame_info flag
  unfold parseOneNmea rmcAfter
  rw [List.foldl_cons, List.foldl_nil]
  by_cases hId : sentenceId line false = .rmc
  · rw [if_pos (show isRmc line = true by simp [isRmc, hId]),
      hId, ← hInfo]
    rfl
  · rw [if_neg (show ¬ isRmc line = true by
      simp [isRmc, hId]), ← hInfo]
    exact parseSentence_rmc _ line hId

theorem Tracker.HoldsRmc.step
    {t t' : Tracker}
    (hHolds : t.HoldsRmc)
    {event : Event}
    (hStep : App.step t event = some t') :
    t'.HoldsRmc := by
  unfold Tracker.HoldsRmc at hHolds ⊢
  cases effect_of_step hStep with
  | quiet hInfo hHanded _ _ =>
      rw [hInfo, hHanded]
      exact hHolds
  | handed line flag hInfo hHanded _ _ =>
      have hKept : t.gps.state.parser.info.rmc =
          rmcAfter Parser.init.info.rmc t.handed := hHolds
      rw [hInfo, hHanded, rmc_parseOneNmea, hKept, rmcAfter,
        rmcAfter, rmcAfter, List.foldl_append]
  | reported r hInfo hHanded _ _ =>
      rw [hInfo, hHanded]
      exact hHolds

theorem holdsRmc_of_run
    {events : List Event}
    {t : Tracker}
    (hRun : run events = some t) :
    t.HoldsRmc := by
  induction events using List.reverseRecOn generalizing t with
  | nil =>
      cases hRun
      rfl
  | append_singleton events event ih =>
      rw [run_append_singleton] at hRun
      rcases Option.bind_eq_some_iff.mp hRun with
        ⟨before, hBefore, hStep⟩
      exact (ih hBefore).step hStep

/- Lines of other types leave the frame as it is. -/
theorem rmcAfter_of_not_isRmc
    (rmc : SentenceRmc)
    {lines : List (List UInt8)}
    (hLines : ∀ line ∈ lines, isRmc line = false) :
    rmcAfter rmc lines = rmc := by
  induction lines with
  | nil => rfl
  | cons line lines ih =>
      rw [List.forall_mem_cons] at hLines
      rw [rmcAfter, List.foldl_cons, hLines.1]
      exact ih hLines.2

end App

------------------------------------------------------------
-- Reported Positions
------------------------------------------------------------

namespace App

/- The latest RMC line was written with this record. -/
def LatestRecord
    (lines : List (List UInt8))
    (r : RmcRecord) : Prop :=
  ∃ before talker after,
    lines = before ++ Record.line talker (.rmc r) :: after ∧
      Minmea.Short (Record.line talker (.rmc r)) ∧
      ∀ line ∈ after, isRmc line = false

/- A fix in degrees. -/
def ofFix (p : Fix) : Position :=
  { latitude := degrees (p.latitude.sided p.isSouth).value
      (10 ^ p.latitude.decimals)
    longitude := degrees (p.longitude.sided p.isWest).value
      (10 ^ p.longitude.decimals) }

/- Whatever the frame was, it is the latest record now. -/
theorem rmcAfter_of_latestRecord
    {lines : List (List UInt8)}
    {r : RmcRecord}
    (hLatest : LatestRecord lines r)
    (rmc : SentenceRmc) :
    rmcAfter rmc lines = r.frame := by
  rcases hLatest with
    ⟨before, talker, after, rfl, hShort, hAfter⟩
  have hIs : isRmc (Record.line talker (.rmc r)) = true := by
    rw [isRmc, sentenceId_line hShort]
    rfl
  have hParse (rmc : SentenceRmc) :
      parseRmc rmc (Record.line talker (.rmc r)) =
        (true, r.frame) :=
    parseRmc_line hShort rmc
  rw [rmcAfter, List.foldl_append, List.foldl_cons,
    if_pos hIs, hParse]
  exact rmcAfter_of_not_isRmc r.frame hAfter

theorem toDegrees_sided
    (x : Fixed)
    (isSecond : Bool) :
    toDegrees (x.sided isSecond) =
      some (degrees (x.sided isSecond).value
        (10 ^ x.decimals)) := by
  have hScale : (x.sided isSecond) =
      ⟨(x.sided isSecond).value,
        ((10 ^ x.decimals : Nat) : Int)⟩ := by
    unfold Fixed.sided Fixed.value
    push_cast
    rfl
  rw [hScale, toDegrees_eq_degrees
    (Nat.pow_pos (by decide))]

theorem coordinates_frame
    (r : RmcRecord) :
    coordinates r.frame = r.fix.map ofFix := by
  unfold coordinates RmcRecord.frame latitudeValue
    longitudeValue
  cases r.fix with
  | none => rfl
  | some p =>
      simp only [Option.map_some, Option.getD_some,
        toDegrees_sided]
      rfl

/-
  In any run, a report works with the position that the
  receiver wrote in the latest RMC line handed over. It has
  no next state when that line gave none.
-/
theorem report_of_run
    {events : List Event}
    {t : Tracker}
    (hRun : run events = some t)
    {r : RmcRecord}
    (hLatest : LatestRecord t.handed r)
    (hPhase : t.phase = .reporting)
    (hOn : t.isGpsOn = true)
    (status : UInt8) :
    step t (.report status) =
      r.fix.map fun p =>
        { t with
          globals :=
            (report t.globals (ofFix p) status).2 } := by
  have hHolds : t.info.rmc = _ := holdsRmc_of_run hRun
  rw [rmcAfter_of_latestRecord hLatest] at hHolds
  have hPosition := coordinates_frame r
  rw [← hHolds] at hPosition
  rw [step, if_pos hPhase, if_pos hOn, hPosition]
  cases r.fix with
  | none => rfl
  | some p => rfl

/- A frame with a position, and the end of the start-up. -/
def southRun : List Event :=
  [.received false
    (Record.line gp (.rmc southFix) ++ ascii "$GPVTG\r\n")] ++
    List.replicate 5 .iterate ++ [.startUpDone, .initDone]

theorem report_of_run_southFix :
    ∃ t, run southRun = some t ∧
      step t (.report 1) =
        southFix.fix.map fun p =>
          { t with
            globals := (report t.globals (ofFix p) 1).2 } := by
  have hRun : ((run southRun).map fun t =>
      (decide (t.phase = .reporting) && t.isGpsOn,
        t.handed)) =
      some (true, [Record.line gp (.rmc southFix),
        ascii "$GPVTG\r\n"]) := by
    decide +kernel
  rcases Option.map_eq_some_iff.mp hRun with ⟨t, hRun, hEnd⟩
  injection hEnd with hState hHanded
  rw [Bool.and_eq_true, decide_eq_true_eq] at hState
  have hLatest : LatestRecord t.handed southFix := by
    refine ⟨[], gp, [ascii "$GPVTG\r\n"], hHanded,
      by unfold Minmea.Short; decide +kernel, ?_⟩
    intro line hMem
    rw [List.mem_singleton] at hMem
    rw [hMem]
    decide +kernel
  exact ⟨t, hRun, report_of_run hRun hLatest hState.1
    hState.2 1⟩

end App
