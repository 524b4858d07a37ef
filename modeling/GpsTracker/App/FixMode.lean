import GpsTracker.Gps.FrameSlots
import GpsTracker.Lib.Machine

/-
  The fix that `gps_testTask` of `app/src/app.c` reports.

  The larger of the two fix types is narrowed to a byte. A
  2D fix and no fix have a text; a 3D fix has one for two
  values of the fix quality only, and otherwise the text is
  a pointer that was never assigned.

  Main declarations:
    * `App.fixMode`, `App.isFixed`, `App.classify`
    * `App.ClassifiedRight`, `App.Distinguished`
    * `App.classifiedRight_iff`
-/

open CString Machine Minmea Gps

------------------------------------------------------------
-- Classification
------------------------------------------------------------

namespace App

/- The larger of the fix types of the two GSA slots. -/
def fixMode (info : Info) : Int :=
  if info.gsa[0].fixType > info.gsa[1].fixType then
    info.gsa[0].fixType
  else
    info.gsa[1].fixType

/- The variable `isFixed`, a `uint8_t`. -/
def isFixed (info : Info) : Nat :=
  wrap 8 (fixMode info)

/- `TWO_D_FIX` -/
def twoDFix : String := "2D Fix"

/- `THREE_D_FIX` -/
def threeDFix : String := "3D Fix"

/- `DIFF_GPS_FIX` -/
def diffGpsFix : String := "3D/DGPS fix"

/- `NO_FIX` -/
def noFix : String := "no fix"

/-
  What an iteration decides on the fix; `isFixedStr` is
  `none` when nothing was assigned to it.
-/
structure FixInfo where
  isFixedStr : Option String
  isFixedFlag : Bool
deriving DecidableEq

/- "show fix info" -/
def classify (info : Info) : FixInfo :=
  if isFixed info = 2 then
    { isFixedStr := some twoDFix
      isFixedFlag := true }
  else if isFixed info = 3 then
    { isFixedStr :=
        if info.gga.fixQuality = 1 then
          some threeDFix
        else if info.gga.fixQuality = 2 then
          some diffGpsFix
        else
          none
      isFixedFlag := true }
  else
    { isFixedStr := some noFix
      isFixedFlag := false }

end App

------------------------------------------------------------
-- Total and Right
------------------------------------------------------------

namespace App

/- A text is assigned, and the flag is that of a fix. -/
structure ClassifiedRight (info : Info) : Prop where
  assigned : (classify info).isFixedStr.isSome = true
  flag : (classify info).isFixedFlag = true ↔
    fixMode info = 2 ∨ fixMode info = 3

/-
  The byte tells the fix type, and a 3D fix has a quality
  that the code has a text for.
-/
structure Distinguished (info : Info) : Prop where
  twoD : fixMode info % 256 = 2 → fixMode info = 2
  threeD : fixMode info % 256 = 3 →
    fixMode info = 3 ∧
      (info.gga.fixQuality = 1 ∨ info.gga.fixQuality = 2)

theorem isFixed_eq_iff
    (info : Info)
    {n : Nat}
    (hByte : n < 256) :
    isFixed info = n ↔ fixMode info % 256 = n := by
  unfold isFixed wrap
  omega

/- The fix is classified right exactly when distinguished. -/
theorem classifiedRight_iff
    (info : Info) :
    ClassifiedRight info ↔ Distinguished info := by
  have hTwo := isFixed_eq_iff info (show 2 < 256 by decide)
  have hThree := isFixed_eq_iff info (show 3 < 256 by decide)
  constructor
  · rintro ⟨hAssigned, hFlag⟩
    unfold classify at hAssigned hFlag
    constructor
    · intro hMod
      rw [if_pos (hTwo.mpr hMod)] at hFlag
      have hMode := hFlag.mp rfl
      omega
    · intro hMod
      rw [if_neg (by rw [hTwo]; omega),
        if_pos (hThree.mpr hMod)] at hAssigned hFlag
      have hMode := hFlag.mp rfl
      refine ⟨by omega, ?_⟩
      by_contra hQuality
      rw [not_or] at hQuality
      simp [hQuality.1, hQuality.2] at hAssigned
  · rintro ⟨hTwoD, hThreeD⟩
    by_cases hIsTwo : isFixed info = 2
    · have hMode := hTwoD (hTwo.mp hIsTwo)
      exact
        { assigned := by rw [classify, if_pos hIsTwo]; rfl
          flag := by simp [classify, hIsTwo, hMode] }
    · by_cases hIsThree : isFixed info = 3
      · rcases hThreeD (hThree.mp hIsThree) with
          ⟨hMode, hQuality⟩
        constructor
        · rw [classify, if_neg hIsTwo, if_pos hIsThree]
          rcases hQuality with hOne | hDiff
          · simp [hOne]
          · simp [hDiff]
        · simp [classify, hIsThree, hMode]
      · have hNotTwo : fixMode info ≠ 2 := by
          intro hMode
          exact hIsTwo (hTwo.mpr (by rw [hMode]; rfl))
        have hNotThree : fixMode info ≠ 3 := by
          intro hMode
          exact hIsThree (hThree.mpr (by rw [hMode]; rfl))
        exact
          { assigned := by
              rw [classify, if_neg hIsTwo, if_neg hIsThree]
              rfl
            flag := by
              simp [classify, hIsTwo, hIsThree, hNotTwo,
                hNotThree] }

/- A 3D fix whose quality is 4, an RTK fix. -/
def rtkFrame : List UInt8 :=
  ascii "$GPGSA,A,3,,,,,,,,,,,,,,,*1C\r\n" ++
    ascii "$GPGGA,084257.000,2234.7758,N,11354.9654,E,4" ++
    ascii ",12,1.00,59.4,M,-2.8,M,,*4E\r\n" ++ [0]

/- Its fix gets no text, whatever the GPS reported before. -/
theorem classify_rtkFrame :
    ∃ result,
      parse rtkFrame Parser.init = some result ∧
        (classify result.parser.info).isFixedStr = none := by
  refine ⟨(parse rtkFrame Parser.init).get
    (by decide +kernel), ?_, ?_⟩
  · exact (Option.some_get _).symm
  · decide +kernel

/- So not every fix that can be reported is classified. -/
theorem unclassified_fix :
    ¬ ∀ memory result,
      parse memory Parser.init = some result →
        ClassifiedRight result.parser.info := by
  intro hAll
  rcases classify_rtkFrame with ⟨result, hParse, hNone⟩
  have hAssigned := (hAll _ _ hParse).assigned
  rw [hNone] at hAssigned
  cases hAssigned

end App
