/-
  The data of `libs/gps/minmea/src/minmea.h`.

  `int` and `int_least32_t` fields are integers; the
  functions that compute them wrap where the code does.
  A `char` is the byte it holds.

  Main declarations:
    * `MinmeaFloat`, `MinmeaDate`, `MinmeaTime`
    * `Minmea.SentenceId`
    * `Minmea.SentenceRmc` and the other sentence frames
-/

------------------------------------------------------------
-- Field Values
------------------------------------------------------------

structure MinmeaFloat where
  value : Int
  scale : Int
deriving DecidableEq, Inhabited

structure MinmeaDate where
  day : Int
  month : Int
  year : Int
deriving DecidableEq, Inhabited

structure MinmeaTime where
  hours : Int
  minutes : Int
  seconds : Int
  microseconds : Int
deriving DecidableEq, Inhabited

------------------------------------------------------------
-- Sentences
------------------------------------------------------------

namespace Minmea

/- `MINMEA_MAX_LENGTH` -/
def maxLength : Nat := 80

/- `enum minmea_sentence_id` -/
inductive SentenceId where
  | invalid
  | unknown
  | rmc
  | gga
  | gsa
  | gll
  | gst
  | gsv
  | vtg
  | zda
deriving DecidableEq

structure SentenceRmc where
  time : MinmeaTime
  valid : Bool
  latitude : MinmeaFloat
  longitude : MinmeaFloat
  speed : MinmeaFloat
  course : MinmeaFloat
  date : MinmeaDate
  variation : MinmeaFloat
deriving DecidableEq, Inhabited

structure SentenceGga where
  time : MinmeaTime
  latitude : MinmeaFloat
  longitude : MinmeaFloat
  fixQuality : Int
  satellitesTracked : Int
  hdop : MinmeaFloat
  altitude : MinmeaFloat
  altitudeUnits : UInt8
  height : MinmeaFloat
  heightUnits : UInt8
  dgpsAge : MinmeaFloat
deriving DecidableEq, Inhabited

structure SentenceGll where
  latitude : MinmeaFloat
  longitude : MinmeaFloat
  time : MinmeaTime
  status : UInt8
  mode : UInt8
deriving DecidableEq, Inhabited

structure SentenceGst where
  time : MinmeaTime
  rmsDeviation : MinmeaFloat
  semiMajorDeviation : MinmeaFloat
  semiMinorDeviation : MinmeaFloat
  semiMajorOrientation : MinmeaFloat
  latitudeErrorDeviation : MinmeaFloat
  longitudeErrorDeviation : MinmeaFloat
  altitudeErrorDeviation : MinmeaFloat
deriving DecidableEq, Inhabited

structure SentenceGsa where
  mode : UInt8
  fixType : Int
  sats : Vector Int 12
  pdop : MinmeaFloat
  hdop : MinmeaFloat
  vdop : MinmeaFloat
deriving DecidableEq, Inhabited

structure SatInfo where
  nr : Int
  elevation : Int
  azimuth : Int
  snr : Int
deriving DecidableEq, Inhabited

structure SentenceGsv where
  totalMsgs : Int
  msgNr : Int
  totalSats : Int
  sats : Vector SatInfo 4
deriving DecidableEq, Inhabited

/- `faaMode` is the letter that the code casts to the enum. -/
structure SentenceVtg where
  trueTrackDegrees : MinmeaFloat
  magneticTrackDegrees : MinmeaFloat
  speedKnots : MinmeaFloat
  speedKph : MinmeaFloat
  faaMode : UInt8
deriving DecidableEq, Inhabited

structure SentenceZda where
  time : MinmeaTime
  date : MinmeaDate
  hourOffset : Int
  minuteOffset : Int
deriving DecidableEq, Inhabited

end Minmea
