import GpsTracker.App.FixMode
import GpsTracker.App.HttpPost
import GpsTracker.App.Readings
import GpsTracker.Lib.FixedPoint
import GpsTracker.Lib.Query
import GpsTracker.Minmea.Bounds

/-
  The request that a report posts, and what is read from it.

  `gps_testTask` prints the path of the request to `buffer2`
  and `Http_Post` prints its head to 2048 bytes; what does
  not fit is cut. A server reads all that was reported
  exactly when the path fits, and then the position up to
  half a unit of the last decimal.

  Numbers are printed from doubles; here they are exact.

  Main declarations:
    * `App.Device`, `App.requestText`, `App.postText`
    * `App.posted`, `App.reported`, `App.posted_read_iff`
    * `App.Reading`, `App.serverReading`
    * `App.Tracker.postedAt`, `App.position_posted_of_run`
-/

open CString FixedPoint Gps Minmea Query

------------------------------------------------------------
-- The Request
------------------------------------------------------------

namespace App

/- `SERVER_IP` -/
def serverIp : List UInt8 := ascii "demo3.traccar.org"

/-
  What a report gets from elsewhere: the IMEI, `time(NULL)`
  and the percentage of the battery. The altitude is given
  as text, since "%f" has a structure to print there.
-/
structure Device where
  imei : List UInt8
  time : Int
  percent : UInt8
  altitude : List UInt8
  imeiPlain : ∀ c ∈ imei, isPlain c = true
  imeiSome : imei ≠ []
  timeInt32 : InInt32 time
  altitudePlain : ∀ c ∈ altitude, isPlain c = true
  altitudeSome : altitude ≠ []

/- The text printed to `requestPath`. -/
def requestText
    (d : Device)
    (info : Info)
    (p : Position) : List UInt8 :=
  ascii "/?id=" ++ d.imei ++
    ascii "&timestamp=" ++ printInt d.time ++
    ascii "&lat=" ++ print 6 p.latitude ++
    ascii "&lon=" ++ print 6 p.longitude ++
    ascii "&speed=" ++ print 6 (isFixed info) ++
    ascii "&bearing=" ++ print 1 0 ++
    ascii "&altitude=" ++ d.altitude ++
    ascii "&accuracy=" ++ print 1 0 ++
    ascii "&batt=" ++ print 1 d.percent.toNat

/- The text that `Http_Post` prints to `temp`. -/
def postText
    (path domain : List UInt8)
    (bodyLen : UInt16) : List UInt8 :=
  ascii "POST " ++ path ++
    ascii " HTTP/1.1\r\n" ++
    ascii "Content-Type: application/x-www-form-urlencoded\r\n" ++
    ascii "Connection: Keep-Alive\r\n" ++
    ascii "Host: " ++ domain ++
    ascii "\r\nContent-Length: " ++ printInt bodyLen.toNat ++
    ascii "\r\n\r\n"

/-
  The string that `Http_Post` sends first, without a body to
  send behind it.
-/
def posted
    (d : Device)
    (info : Info)
    (p : Position)
    (buffer2 temp : List UInt8) : List UInt8 :=
  let requestPath :=
    text (snprintf buffer2 (requestText d info p))
  text (snprintf temp (postText requestPath serverIp 0))

end App

------------------------------------------------------------
-- Parameters
------------------------------------------------------------

namespace App

variable {d : Device}
variable {info : Info}
variable {p : Position}

/- What the path is meant to tell the server. -/
def reported
    (d : Device)
    (info : Info)
    (p : Position) : List Parameter :=
  [ ⟨ascii "id", d.imei⟩,
    ⟨ascii "timestamp", printInt d.time⟩,
    ⟨ascii "lat", print 6 p.latitude⟩,
    ⟨ascii "lon", print 6 p.longitude⟩,
    ⟨ascii "speed", print 6 (isFixed info)⟩,
    ⟨ascii "bearing", print 1 0⟩,
    ⟨ascii "altitude", d.altitude⟩,
    ⟨ascii "accuracy", print 1 0⟩,
    ⟨ascii "batt", print 1 d.percent.toNat⟩ ]

/- A parameter's name between the marks around it. -/
theorem ascii_name (name : String) :
    ascii ("&" ++ name ++ "=") =
      byte '&' :: (ascii name ++ [byte '=']) := by
  simp [ascii]

theorem requestText_eq
    (d : Device)
    (info : Info)
    (p : Position) :
    requestText d info p =
      ascii "/?" ++ write (reported d info p) := by
  have hId : ascii "/?id=" =
      ascii "/?" ++ (ascii "id" ++ [byte '=']) := by
    decide
  have hTimestamp : ascii "&timestamp=" = _ :=
    ascii_name "timestamp"
  have hLat : ascii "&lat=" = _ := ascii_name "lat"
  have hLon : ascii "&lon=" = _ := ascii_name "lon"
  have hSpeed : ascii "&speed=" = _ := ascii_name "speed"
  have hBearing : ascii "&bearing=" = _ := ascii_name "bearing"
  have hAltitude : ascii "&altitude=" = _ :=
    ascii_name "altitude"
  have hAccuracy : ascii "&accuracy=" = _ :=
    ascii_name "accuracy"
  have hBatt : ascii "&batt=" = _ := ascii_name "batt"
  delta requestText
  rw [hId, hTimestamp, hLat, hLon, hSpeed,
    hBearing, hAltitude, hAccuracy, hBatt]
  simp [reported, write, Parameter.written,
    List.intercalate, List.intersperse]

/- No number needs an escape. -/
theorem isPlain_of_isNumeric
    {c : UInt8}
    (hNumeric : isNumeric c = true) :
    isPlain c = true := by
  have hNe : ∀ mark ∈ ascii "&= %+#" ++ [0], c ≠ mark := by
    have hMarks : ∀ mark ∈ ascii "&= %+#" ++ [0],
        isNumeric mark = false := by
      decide +kernel
    intro mark hMark hEq
    rw [hEq, hMarks mark hMark] at hNumeric
    cases hNumeric
  simpa [isPlain, ascii, and_assoc] using hNe

theorem print_ne_nil
    (decimals : Nat)
    (x : ℚ) :
    print decimals x ≠ [] := by
  simp [print]

theorem printInt_ne_nil
    (n : Int) :
    printInt n ≠ [] := by
  simp [printInt, Decimal.numeral_ne_nil]

theorem plain_number
    {name number : List UInt8}
    (hName : ∀ c ∈ name, isPlain c = true)
    (hNumber : ∀ c ∈ number, isNumeric c = true)
    (hNe : number ≠ []) :
    Parameter.Plain ⟨name, number⟩ :=
  { name := hName
    value := fun c hc => isPlain_of_isNumeric (hNumber c hc)
    value_ne_nil := hNe }

theorem plain_print
    {name : List UInt8}
    (hName : ∀ c ∈ name, isPlain c = true)
    (decimals : Nat)
    (x : ℚ) :
    Parameter.Plain ⟨name, print decimals x⟩ :=
  plain_number hName (fun _ => isNumeric_print)
    (print_ne_nil decimals x)

theorem plain_reported
    (d : Device)
    (info : Info)
    (p : Position) :
    ∀ parameter ∈ reported d info p, parameter.Plain := by
  have hId : ∀ c ∈ ascii "id", isPlain c = true := by
    decide +kernel
  have hTime : ∀ c ∈ ascii "timestamp", isPlain c = true := by
    decide +kernel
  have hAltitude : ∀ c ∈ ascii "altitude",
      isPlain c = true := by
    decide +kernel
  unfold reported
  simp only [List.forall_mem_cons]
  exact ⟨⟨hId, d.imeiPlain, d.imeiSome⟩,
    plain_number hTime (fun _ => isNumeric_printInt)
      (printInt_ne_nil _),
    plain_print (by decide +kernel) _ _,
    plain_print (by decide +kernel) _ _,
    plain_print (by decide +kernel) _ _,
    plain_print (by decide +kernel) _ _,
    ⟨hAltitude, d.altitudePlain, d.altitudeSome⟩,
    plain_print (by decide +kernel) _ _,
    plain_print (by decide +kernel) _ _, by simp⟩

end App

------------------------------------------------------------
-- What Is Sent
------------------------------------------------------------

namespace App

variable {d : Device}
variable {info : Info}
variable {p : Position}
variable {buffer2 temp : List UInt8}

theorem nul_notMem_requestText
    (d : Device)
    (info : Info)
    (p : Position) :
    0 ∉ requestText d info p := by
  rw [requestText_eq, List.mem_append, not_or]
  exact ⟨by decide +kernel,
    notMem_write (plain_reported d info p)
      (by decide) (by decide) (by decide)⟩

/- The end of the first line, and the headers behind it. -/
def postRest : List UInt8 :=
  ascii "HTTP/1.1\r\n" ++
    ascii "Content-Type: application/x-www-form-urlencoded\r\n" ++
    ascii "Connection: Keep-Alive\r\n" ++
    ascii "Host: demo3.traccar.org" ++
    ascii "\r\nContent-Length: 0\r\n\r\n"

theorem postText_eq
    (path : List UInt8) :
    postText path serverIp 0 =
      ascii "POST" ++ byte ' ' :: (path ++ byte ' ' :: postRest) := by
  have hLength : printInt 0 = [byte '0'] := by
    decide +kernel
  simp [postText, postRest, serverIp, hLength, ascii]

/- The head of a request has room for any path. -/
theorem text_postText
    {path : List UInt8}
    (hNul : 0 ∉ path)
    (hPath : path.length < 400)
    (hTemp : temp.length = 2048) :
    text (snprintf temp (postText path serverIp 0)) =
      postText path serverIp 0 := by
  have hMethod : 0 ∉ ascii "POST" := by decide +kernel
  have hRest : 0 ∉ postRest := by decide +kernel
  have hMethodLength : (ascii "POST").length = 4 := rfl
  have hRestLength : postRest.length < 200 := by
    decide +kernel
  rw [postText_eq, text_snprintf]
  · apply List.take_of_length_le
    simp only [List.length_append, List.length_cons]
    omega
  · simp only [List.mem_append, List.mem_cons, not_or]
    exact ⟨hMethod, by decide, hNul, by decide, hRest⟩

/- The query is what is left of it in `buffer2`. -/
theorem posted_eq
    (hBuffer : buffer2.length = 400)
    (hTemp : temp.length = 2048) :
    posted d info p buffer2 temp =
      ascii "POST" ++ byte ' ' ::
        ((ascii "/" ++ byte '?' ::
            (write (reported d info p)).take 397) ++
          byte ' ' :: postRest) := by
  have hNul := nul_notMem_requestText d info p
  have hPath : text (snprintf buffer2 (requestText d info p)) =
      ascii "/" ++ byte '?' ::
        (write (reported d info p)).take 397 := by
    rw [text_snprintf _ hNul, hBuffer, requestText_eq]
    rfl
  have hTaken : 0 ∉
      text (snprintf buffer2 (requestText d info p)) := by
    rw [text_snprintf _ hNul]
    exact fun hMem => hNul (List.mem_of_mem_take hMem)
  have hLength :
      (text (snprintf buffer2
        (requestText d info p))).length < 400 := by
    rw [text_snprintf _ hNul, hBuffer, List.length_take]
    omega
  unfold posted
  simp only
  rw [text_postText hTaken hLength hTemp, postText_eq, hPath]

/-
  Whatever was in the buffers: the server reads all that is
  reported exactly when the path fits into `buffer2`.
-/
theorem posted_read_iff
    (hBuffer : buffer2.length = 400)
    (hTemp : temp.length = 2048) :
    parameters (posted d info p buffer2 temp) =
        reported d info p ↔
      (requestText d info p).length < 400 := by
  have hBlank : byte ' ' ∉
      (write (reported d info p)).take 397 := fun hMem =>
    notMem_write (plain_reported d info p) (by decide)
      (by decide) (by decide) (List.mem_of_mem_take hMem)
  have hSplit := congrArg List.length
    (requestText_eq d info p)
  have hMark : (ascii "/?").length = 2 := rfl
  rw [List.length_append, hMark] at hSplit
  rw [posted_eq hBuffer hTemp,
    parameters_request (by decide +kernel) (by decide +kernel)
      (by decide +kernel) hBlank,
    read_eq_iff (plain_reported d info p)
      (List.cons_ne_nil _ _), List.take_eq_self_iff]
  omega

/- A device with the IMEI that a comment of `app.c` names. -/
def sampleDevice : Device :=
  { imei := ascii "867959033006999"
    time := 1500000000
    percent := 90
    altitude := ascii "0.000000"
    imeiPlain := by decide +kernel
    imeiSome := by decide
    timeInt32 := by unfold InInt32; decide
    altitudePlain := by decide +kernel
    altitudeSome := by decide }

theorem posted_read_iff_sample :
    parameters
        (posted sampleDevice Parser.init.info ⟨-1 / 3, 100⟩
          (List.replicate 400 0) (List.replicate 2048 1)) =
      reported sampleDevice Parser.init.info ⟨-1 / 3, 100⟩ :=
  (posted_read_iff List.length_replicate
    List.length_replicate).mpr (by decide +kernel)

end App

------------------------------------------------------------
-- What the Server Reads
------------------------------------------------------------

namespace App

variable {d : Device}
variable {info : Info}
variable {p : Position}
variable {buffer2 temp : List UInt8}

/- What a server knows of the device after a request. -/
structure Reading where
  id : List UInt8
  timestamp : ℚ
  position : Position
  speed : ℚ
  batt : ℚ
deriving DecidableEq

/- The number that is given to a name. -/
def number
    (parameters : List Parameter)
    (name : String) : Option ℚ :=
  (lookup parameters (ascii name)).bind read

def serverReading (request : List UInt8) : Option Reading := do
  let given := parameters request
  let id ← lookup given (ascii "id")
  let timestamp ← number given "timestamp"
  let latitude ← number given "lat"
  let longitude ← number given "lon"
  let speed ← number given "speed"
  let batt ← number given "batt"
  some
    { id := id
      timestamp := timestamp
      position := ⟨latitude, longitude⟩
      speed := speed
      batt := batt }

/-
  The degrees with the decimals that are printed. The code
  prints a double; here the degrees are exact.
-/
def Position.printed (p : Position) : Position :=
  { latitude := rounded 6 p.latitude
    longitude := rounded 6 p.longitude }

/- What a report says, as it is printed. -/
def reading
    (d : Device)
    (info : Info)
    (p : Position) : Reading :=
  { id := d.imei
    timestamp := d.time
    position := p.printed
    speed := isFixed info
    batt := d.percent.toNat }

theorem serverReading_posted
    (hBuffer : buffer2.length = 400)
    (hTemp : temp.length = 2048)
    (hFits : (requestText d info p).length < 400) :
    serverReading (posted d info p buffer2 temp) =
      some (reading d info p) := by
  have hTime : number (reported d info p) "timestamp" =
      some (d.time : ℚ) := read_printInt d.time
  have hLatitude : number (reported d info p) "lat" =
      some (rounded 6 p.latitude) := read_print (by decide) _
  have hLongitude : number (reported d info p) "lon" =
      some (rounded 6 p.longitude) := read_print (by decide) _
  have hSpeed : number (reported d info p) "speed" =
      some (isFixed info : ℚ) := by
    rw [← rounded_natCast 6]
    exact read_print (by decide) _
  have hBatt : number (reported d info p) "batt" =
      some (d.percent.toNat : ℚ) := by
    rw [← rounded_natCast 1]
    exact read_print (by decide) _
  have hId : lookup (reported d info p) (ascii "id") =
      some d.imei := rfl
  unfold serverReading
  simp only [(posted_read_iff hBuffer hTemp).mpr hFits, hId,
    hTime, hLatitude, hLongitude, hSpeed, hBatt,
    Option.bind_eq_bind, Option.bind_some]
  rfl

theorem abs_degrees_le
    {scale : Nat}
    (hScale : 0 < scale)
    (value : Int) :
    |degrees value scale| ≤ value.natAbs / 60 := by
  have hRat : (1 : ℚ) ≤ scale := by exact_mod_cast hScale
  have hMinutes := minutes_nonneg hScale value.natAbs
  have hQuotient : (value.natAbs : ℚ) / scale ≤
      value.natAbs :=
    div_le_self (Nat.cast_nonneg _) hRat
  have hWhole : (0 : ℚ) ≤ wholeDegrees value.natAbs scale :=
    Nat.cast_nonneg _
  have hSign : |(value.sign : ℚ)| ≤ 1 := by
    rcases lt_trichotomy value 0 with hNeg | rfl | hPos
    · simp [Int.sign_eq_neg_one_of_neg hNeg]
    · simp
    · simp [Int.sign_eq_one_of_pos hPos]
  have hUnsigned : |unsignedDegrees value.natAbs scale| ≤
      value.natAbs / 60 := by
    unfold unsignedDegrees minutes at *
    rw [abs_of_nonneg (by linarith)]
    linarith
  calc |degrees value scale|
      = |(value.sign : ℚ)| *
          |unsignedDegrees value.natAbs scale| := by
        rw [degrees, abs_mul]
    _ ≤ 1 * (value.natAbs / 60) :=
        mul_le_mul hSign hUnsigned (abs_nonneg _) (by norm_num)
    _ = value.natAbs / 60 := one_mul _

/- A negative scale turns the sign around. -/
theorem toDegrees_neg_scale
    (value scale : Int) :
    toDegrees ⟨value, -scale⟩ =
      (toDegrees ⟨value, scale⟩).map (- ·) := by
  unfold toDegrees
  by_cases hScale : scale = 0
  · simp only [hScale, neg_zero, if_true]
    rfl
  · have hNeg : -scale ≠ 0 := by omega
    simp only [if_neg hScale, if_neg hNeg, Int.tdiv_neg,
      Int.neg_tdiv, Option.map_some]
    congr 1
    push_cast
    ring

/- A coordinate is no larger than its value in minutes. -/
theorem abs_toDegrees_le
    {x : MinmeaFloat}
    {y : ℚ}
    (hDegrees : toDegrees x = some y) :
    |y| ≤ x.value.natAbs / 60 := by
  rcases x with ⟨value, scale⟩
  have hNe : scale ≠ 0 :=
    (toDegrees_isSome_iff ⟨value, scale⟩).mp
      (by rw [hDegrees]; rfl)
  rcases Int.natAbs_eq scale with hScale | hScale
  · rw [hScale, toDegrees_eq_degrees (by omega)] at hDegrees
    cases hDegrees
    exact abs_degrees_le (by omega) value
  · rw [hScale, toDegrees_neg_scale,
      toDegrees_eq_degrees (by omega)] at hDegrees
    cases hDegrees
    rw [abs_neg]
    exact abs_degrees_le (by omega) value

/- Eight digits are enough for the degrees. -/
theorem small_of_inRange
    {x : MinmeaFloat}
    (hRange : x.InRange)
    {y : ℚ}
    (hDegrees : toDegrees x = some y) :
    |y| + 1 ≤ 10 ^ 8 := by
  have hMinutes := abs_toDegrees_le hDegrees
  have hCast : (x.value.natAbs : ℚ) ≤ 2 ^ 31 := by
    exact_mod_cast hRange
  linarith

theorem coordinates_eq_some_iff
    (rmc : SentenceRmc)
    (p : Position) :
    coordinates rmc = some p ↔
      toDegrees rmc.latitude = some p.latitude ∧
        toDegrees rmc.longitude = some p.longitude := by
  rcases p with ⟨latitude, longitude⟩
  unfold coordinates
  cases toDegrees rmc.latitude with
  | none => simp
  | some x =>
      cases toDegrees rmc.longitude with
      | none => simp
      | some y => simp

/- Every other text of the path has a bound. -/
theorem requestText_fits
    (hRoom : d.imei.length + d.altitude.length ≤ 265)
    {rmc : SentenceRmc}
    (hRange : rmc.InRange)
    (hPosition : coordinates rmc = some p) :
    (requestText d info p).length < 400 := by
  rcases (coordinates_eq_some_iff rmc p).mp hPosition with
    ⟨hLatitude, hLongitude⟩
  have hTime : (printInt d.time).length ≤ 11 := by
    have hInt32 := d.timeInt32
    unfold InInt32 at hInt32
    exact @length_printInt_le 10 (by decide) _ (by omega)
  have hSpeed : (print 6 (isFixed info : ℚ)).length ≤ 11 := by
    have hByte : isFixed info < 256 := by
      unfold isFixed Machine.wrap
      omega
    have hSmall : |(isFixed info : ℚ)| + 1 ≤ 10 ^ 3 := by
      rw [Nat.abs_cast]
      norm_cast
      omega
    exact length_print_le (by decide) hSmall 6
  have hBatt : (print 1 (d.percent.toNat : ℚ)).length ≤ 6 := by
    have hByte : d.percent.toNat < 256 := d.percent.toNat_lt
    have hSmall : |(d.percent.toNat : ℚ)| + 1 ≤ 10 ^ 3 := by
      rw [Nat.abs_cast]
      norm_cast
      omega
    exact length_print_le (by decide) hSmall 1
  have hLat : (print 6 p.latitude).length ≤ 16 :=
    length_print_le (by decide)
      (small_of_inRange hRange.latitude hLatitude) 6
  have hLon : (print 6 p.longitude).length ≤ 16 :=
    length_print_le (by decide)
      (small_of_inRange hRange.longitude hLongitude) 6
  have hZero : (print 1 0).length = 3 := by decide +kernel
  have hNames : (ascii "/?id=").length +
      (ascii "&timestamp=").length + (ascii "&lat=").length +
      (ascii "&lon=").length + (ascii "&speed=").length +
      (ascii "&bearing=").length +
      (ascii "&altitude=").length +
      (ascii "&accuracy=").length +
      (ascii "&batt=").length = 68 := by
    decide +kernel
  unfold requestText
  simp only [List.length_append]
  omega

end App

------------------------------------------------------------
-- Positions Sent
------------------------------------------------------------

namespace App

/-
  What `Http_Post` sends first in a report, if the report
  calls it and no call before that `send` fails, nor the
  `send` itself.
-/
def Tracker.postedAt
    (t : Tracker)
    (d : Device)
    (network : Network)
    (malloc : Bool)
    (buffer2 temp : List UInt8)
    (status : UInt8) : Option (List UInt8) :=
  if t.phase = .reporting ∧ t.isGpsOn = true then
    (coordinates t.info.rmc).bind fun p =>
      if (report t.globals p status).1 ∧
          HeadSent network malloc then
        some (posted d t.info p buffer2 temp)
      else
        none
  else
    none

theorem inRange_start : start.info.rmc.InRange :=
  { latitude := by unfold MinmeaFloat.InRange; decide
    longitude := by unfold MinmeaFloat.InRange; decide }

/- No lines bring the coordinates out of range. -/
theorem rmcAfter_inRange
    {rmc : SentenceRmc}
    (hBefore : rmc.InRange)
    (lines : List (List UInt8)) :
    (rmcAfter rmc lines).InRange := by
  unfold rmcAfter
  induction lines generalizing rmc with
  | nil => exact hBefore
  | cons line lines ih =>
      rw [List.foldl_cons]
      split
      · exact ih (parseRmc_inRange hBefore line)
      · exact ih hBefore

/- Two positions in degrees, this far apart at most. -/
structure Position.Within
    (p q : Position)
    (distance : ℚ) : Prop where
  latitude : |p.latitude - q.latitude| ≤ distance
  longitude : |p.longitude - q.longitude| ≤ distance

theorem Position.printed_within
    (p : Position) :
    p.printed.Within p (1 / 2 / 10 ^ 6) :=
  { latitude := abs_rounded_sub_le 6 p.latitude
    longitude := abs_rounded_sub_le 6 p.longitude }

/-
  A report that is not held back tells what the RMC frame
  holds, if it holds the frame of a record.
-/
theorem exists_reading_of_frame
    {t : Tracker}
    {r : RmcRecord}
    (hFrame : t.info.rmc = r.frame)
    (hRange : t.info.rmc.InRange)
    {p : Fix}
    (hFix : r.fix = some p)
    (hPhase : t.phase = .reporting)
    (hOn : t.isGpsOn = true)
    {status : UInt8}
    (hPosts : (report t.globals (ofFix p) status).1 = true)
    {d : Device}
    (hRoom : d.imei.length + d.altitude.length ≤ 265)
    {network : Network}
    {malloc : Bool}
    (hSent : HeadSent network malloc)
    {buffer2 temp : List UInt8}
    (hBuffer : buffer2.length = 400)
    (hTemp : temp.length = 2048) :
    ∃ request reading,
      t.postedAt d network malloc buffer2 temp status =
          some request ∧
        serverReading request = some reading ∧
        reading.id = d.imei ∧
        reading.timestamp = d.time ∧
        reading.position.Within (ofFix p) (1 / 2 / 10 ^ 6) := by
  have hPosition := coordinates_frame r
  rw [← hFrame, hFix, Option.map_some] at hPosition
  have hFits : (requestText d t.info (ofFix p)).length < 400 :=
    requestText_fits hRoom hRange hPosition
  refine ⟨posted d t.info (ofFix p) buffer2 temp,
    reading d t.info (ofFix p), ?_,
    serverReading_posted hBuffer hTemp hFits, rfl, rfl,
    Position.printed_within _⟩
  unfold Tracker.postedAt
  rw [if_pos ⟨hPhase, hOn⟩, hPosition, Option.bind_some,
    if_pos ⟨hPosts, hSent⟩]

/-
  In any run, a report that is not held back and whose
  request gets to `send` tells the server who the device is
  and, up to half a millionth of a degree, the position that
  the receiver wrote last.
-/
theorem position_posted_of_run
    {events : List Event}
    {t : Tracker}
    (hRun : run events = some t)
    {r : RmcRecord}
    (hLatest : LatestRecord t.handed r)
    {p : Fix}
    (hFix : r.fix = some p)
    (hPhase : t.phase = .reporting)
    (hOn : t.isGpsOn = true)
    {status : UInt8}
    (hPosts : (report t.globals (ofFix p) status).1 = true)
    {d : Device}
    (hRoom : d.imei.length + d.altitude.length ≤ 265)
    {network : Network}
    {malloc : Bool}
    (hSent : HeadSent network malloc)
    {buffer2 temp : List UInt8}
    (hBuffer : buffer2.length = 400)
    (hTemp : temp.length = 2048) :
    ∃ request reading,
      t.postedAt d network malloc buffer2 temp status =
          some request ∧
        serverReading request = some reading ∧
        reading.id = d.imei ∧
        reading.timestamp = d.time ∧
        reading.position.Within (ofFix p) (1 / 2 / 10 ^ 6) := by
  have hHolds : t.info.rmc = _ := holdsRmc_of_run hRun
  have hRange : t.info.rmc.InRange := by
    rw [hHolds]
    exact rmcAfter_inRange inRange_start t.handed
  rw [rmcAfter_of_latestRecord hLatest] at hHolds
  exact exists_reading_of_frame hHolds hRange hFix hPhase hOn
    hPosts hRoom hSent hBuffer hTemp

/- The position of `southFix`, in the north. -/
def northFix : RmcRecord :=
  { southFix with
    fix := southFix.fix.map fun p =>
      { p with isSouth := false } }

theorem short_northFix :
    Minmea.Short (Record.line gp (.rmc northFix)) := by
  unfold Minmea.Short
  decide +kernel

/- A report with that position, and time for another. -/
def northRun : List Event :=
  [.received false
    (Record.line gp (.rmc northFix) ++ ascii "$GPVTG\r\n")] ++
    List.replicate 5 .iterate ++
    [.startUpDone, .initDone, .report 1]

theorem position_posted_of_run_northFix :
    ∃ t p request reading,
      run northRun = some t ∧ northFix.fix = some p ∧
        t.postedAt sampleDevice (.responds []) true
            (List.replicate 400 0) (List.replicate 2048 0)
            1 = some request ∧
        serverReading request = some reading ∧
        reading.position.Within (ofFix p) (1 / 2 / 10 ^ 6) := by
  rcases hFix : northFix.fix with _ | p
  · cases hFix
  have hRun : ((run northRun).map fun t =>
      (decide (t.phase = .reporting), t.isGpsOn, t.handed,
        northFix.fix.map fun p =>
          (report t.globals (ofFix p) 1).1)) =
      some (true, true, [Record.line gp (.rmc northFix),
        ascii "$GPVTG\r\n"], some true) := by
    decide +kernel
  rcases Option.map_eq_some_iff.mp hRun with ⟨t, hRun, hEnd⟩
  simp only [Prod.mk.injEq, decide_eq_true_eq, hFix,
    Option.map_some, Option.some.injEq] at hEnd
  rcases hEnd with ⟨hPhase, hOn, hHanded, hPosts⟩
  have hLatest : LatestRecord t.handed northFix := by
    refine ⟨[], gp, [ascii "$GPVTG\r\n"], hHanded,
      short_northFix, ?_⟩
    intro line hMem
    rw [List.mem_singleton] at hMem
    rw [hMem]
    decide +kernel
  have hRoom : sampleDevice.imei.length +
      sampleDevice.altitude.length ≤ 265 := by
    decide +kernel
  have hSent : HeadSent (.responds []) true := by
    decide
  rcases position_posted_of_run hRun hLatest hFix hPhase hOn
    hPosts hRoom hSent List.length_replicate
    List.length_replicate with
    ⟨request, reading, hPosted, hRead, _, _, hWithin⟩
  exact ⟨t, p, request, reading, hRun, rfl, hPosted, hRead,
    hWithin⟩

end App
