import Mathlib.Data.List.Forall2
import GpsTracker.Gps.ApiFs
import GpsTracker.Gps.Delivery

/-
  The log of received frames on the TF card.

  `GPS_Update` appends each frame that it takes out to a
  file, as a string. `GPS_ClearLog` opens the file for
  writing without the flag that truncates it, and so it
  clears nothing.

  The result of `SaveToTFCard` is not looked at. Nothing
  else in the source touches the files of the card.

  Main declarations:
    * `Gps.saveToTfCard`, `Gps.clearLog`
    * `Gps.LogEvent`, `Gps.LogRun`
    * `Gps.log_grows`, `Gps.log_whole_iff`
-/

open CString Machine ListSearch

------------------------------------------------------------
-- The Functions
------------------------------------------------------------

namespace Gps

variable {Disk File : Type}

/-
  What `SaveToTFCard` comes to: its value, what
  `API_FS_Write` returned if the file could be opened, and
  the disk.
-/
structure Saved (Disk : Type) where
  value : Bool
  written : Option Int
  disk : Disk

/- `SaveToTFCard` -/
def saveToTfCard
    (fs : ApiFs Disk File)
    (gpsLogPath : Path)
    (str : List UInt8)
    (disk : Disk) : Saved Disk :=
  let (fd, disk) :=
    fs.apiFsOpen gpsLogPath
      (fsORdwr ||| fsOAppend ||| fsOCreat) 0 disk
  if fd < 0 then
    { value := false, written := none, disk := disk }
  else
    let (ret, disk) := fs.apiFsWrite fd (text str) disk
    { value := 0 < ret
      written := some ret
      disk := fs.apiFsClose fd disk }

/- `GPS_ClearLog` -/
def clearLog
    (fs : ApiFs Disk File)
    (gpsLogPath : Path)
    (disk : Disk) : Bool × Disk :=
  let (fd, disk) :=
    fs.apiFsOpen gpsLogPath (fsORdwr ||| fsOCreat) 0 disk
  if fd < 0 then
    (false, disk)
  else
    (true, fs.apiFsClose fd disk)

/-
  The strings of a call of `GPS_Update`, saved in turn, with
  what each `API_FS_Write` returned. Between two of them the
  call does nothing that depends on the disk.
-/
def saveAll
    (fs : ApiFs Disk File)
    (gpsLogPath : Path) :
    List (List UInt8) → Disk → List (Option Int) × Disk
| [], disk => ([], disk)
| str :: strs, disk =>
    let saved := saveToTfCard fs gpsLogPath str disk
    let later := saveAll fs gpsLogPath strs saved.disk
    (saved.written :: later.1, later.2)

end Gps

------------------------------------------------------------
-- Runs
------------------------------------------------------------

namespace Gps

variable {Disk File : Type}

/- The statics of the GPS library, and the disk. -/
structure LogState (Disk : Type) where
  gps : State
  gpsLogPath : Path
  disk : Disk

/-
  What is done: `GPS_SaveLog` and `GPS_ClearLog` are called,
  bytes arrive, or a command of the library changes the
  statics. No command touches `isSaveLog`.
-/
inductive LogEvent where
  | saveLog (save : Bool) (path : Path)
  | clearLog
  | received (data : List UInt8)
  | command (gps : State)

/-
  A call of `GPS_Update` in a run: the path of the log, the
  state the call returned in, and what `API_FS_Write`
  returned for each string.
-/
structure LoggedCall where
  path : Path
  result : UpdateState
  writes : List (Option Int)

/- A run of such events, with its calls of `GPS_Update`. -/
inductive LogRun (fs : ApiFs Disk File) :
    LogState Disk → List LogEvent → List LoggedCall →
      LogState Disk → Prop where
  | nil
      {s : LogState Disk} :
      LogRun fs s [] [] s
  | saveLog
      {s last : LogState Disk}
      {events : List LogEvent}
      {calls : List LoggedCall}
      (save : Bool)
      (path : Path)
      (hLater : LogRun fs
        { s with
          gps := { s.gps with isSaveLog := save }
          gpsLogPath := path }
        events calls last) :
      LogRun fs s (.saveLog save path :: events) calls last
  | clearLog
      {s last : LogState Disk}
      {events : List LogEvent}
      {calls : List LoggedCall}
      (hLater : LogRun fs
        { s with
          disk := (Gps.clearLog fs s.gpsLogPath s.disk).2 }
        events calls last) :
      LogRun fs s (.clearLog :: events) calls last
  | received
      {s last : LogState Disk}
      {data : List UInt8}
      {malloc : Bool}
      {result : UpdateState}
      {events : List LogEvent}
      {calls : List LoggedCall}
      (hUpdates : Updates malloc s.gps data result)
      (hLater : LogRun fs
        { s with
          gps := result.gps
          disk :=
            (saveAll fs s.gpsLogPath result.logged s.disk).2 }
        events calls last) :
      LogRun fs s (.received data :: events)
        ({ path := s.gpsLogPath
           result := result
           writes :=
            (saveAll fs s.gpsLogPath result.logged s.disk).1 }
          :: calls)
        last
  | command
      {s last : LogState Disk}
      {gps : State}
      {events : List LogEvent}
      {calls : List LoggedCall}
      (hSaveLog : gps.isSaveLog = s.gps.isSaveLog)
      (hLater : LogRun fs { s with gps := gps }
        events calls last) :
      LogRun fs s (.command gps :: events) calls last

end Gps

------------------------------------------------------------
-- One Call of the File System
------------------------------------------------------------

namespace Gps

variable {Disk File : Type}

/-
  What a call of `SaveToTFCard` adds to a file: a beginning
  of the string, and all of it if `API_FS_Write` says so.
-/
theorem grows_saveToTfCard
    [DecidableEq File]
    {fs : ApiFs Disk File}
    (hFs : fs.Documented)
    (path : Path)
    (str : List UInt8)
    (disk : Disk) :
    ∃ piece,
      piece <+: text str ∧
      ((saveToTfCard fs path str disk).written =
          some ((text str).length : Int) →
        piece = text str) ∧
      ∀ file,
        Grows (fs.content disk file)
          (if fs.named path = file then piece else [])
          (fs.content (saveToTfCard fs path str disk).disk
            file) := by
  have hKeeps := hFs.openKeeps path
    (fsORdwr ||| fsOAppend ||| fsOCreat) 0 disk
  have hOpens := hFs.openOpens path
    (fsORdwr ||| fsOAppend ||| fsOCreat) 0 disk
  unfold saveToTfCard
  rcases hOpen : fs.apiFsOpen path
    (fsORdwr ||| fsOAppend ||| fsOCreat) 0 disk with ⟨fd, disk₁⟩
  simp only [hOpen] at hKeeps hOpens ⊢
  split
  · refine ⟨[], List.nil_prefix, ?_, ?_⟩
    · intro hNone
      cases hNone
    · intro file
      rw [ite_self]
      exact hKeeps file (by decide)
  · rename_i hFd
    rcases hFs.writeAppends fd (text str) disk₁ (fs.named path) _
        (hOpens (not_lt.mp hFd)) (by decide) with
      ⟨piece, hPiece, hWritten, hNamed, hOther⟩
    refine ⟨piece, hPiece, ?_, ?_⟩
    · intro hAll
      have hRet := Option.some.inj hAll
      rw [hRet] at hWritten
      have hLength := hWritten (Int.natCast_nonneg _)
      exact hPiece.eq_of_length (Int.ofNat_inj.mp hLength)
    · intro file
      simp only [hFs.closeKeeps]
      split
      · rename_i hFile
        subst hFile
        exact (hKeeps _ (by decide)).trans hNamed
      · rename_i hFile
        rw [hOther file (Ne.symm hFile)]
        exact hKeeps file (by decide)

/- `GPS_ClearLog` leaves every file that is there as it is. -/
theorem grows_clearLog
    {fs : ApiFs Disk File}
    (hFs : fs.Documented)
    (path : Path)
    (disk : Disk)
    (file : File) :
    Grows (fs.content disk file) []
      (fs.content (clearLog fs path disk).2 file) := by
  have hKeeps := hFs.openKeeps path (fsORdwr ||| fsOCreat) 0
    disk file (by decide)
  unfold clearLog
  rcases hOpen : fs.apiFsOpen path (fsORdwr ||| fsOCreat) 0 disk
    with ⟨fd, disk₁⟩
  simp only [hOpen] at hKeeps ⊢
  split
  · exact hKeeps
  · simp only [hFs.closeKeeps]
    exact hKeeps

/- The strings of a call of `GPS_Update`, one after the other. -/
theorem grows_saveAll
    [DecidableEq File]
    {fs : ApiFs Disk File}
    (hFs : fs.Documented)
    (path : Path)
    (strs : List (List UInt8))
    (disk : Disk) :
    ∃ pieces,
      List.Forall₂ (fun piece str => piece <+: text str)
        pieces strs ∧
      ((saveAll fs path strs disk).1 =
          strs.map (fun str => some ((text str).length : Int)) →
        pieces = strs.map text) ∧
      ∀ file,
        Grows (fs.content disk file)
          (if fs.named path = file then pieces.flatten else [])
          (fs.content (saveAll fs path strs disk).2 file) := by
  induction strs generalizing disk with
  | nil =>
      refine ⟨[], .nil, fun _ => rfl, fun file => ?_⟩
      rw [List.flatten_nil, ite_self]
      exact Grows.refl _
  | cons str strs ih =>
      rcases grows_saveToTfCard hFs path str disk with
        ⟨piece, hPiece, hWritten, hGrows⟩
      rcases ih (saveToTfCard fs path str disk).disk with
        ⟨pieces, hPieces, hWrites, hLater⟩
      refine ⟨piece :: pieces, .cons hPiece hPieces, ?_, ?_⟩
      · intro hAll
        rcases List.cons.inj hAll with ⟨hHead, hTail⟩
        rw [List.map_cons, hWritten hHead, hWrites hTail]
      · intro file
        have hBoth := (hGrows file).trans (hLater file)
        by_cases hFile : fs.named path = file
        · simp only [if_pos hFile] at hBoth ⊢
          exact hBoth
        · simp only [if_neg hFile] at hBoth ⊢
          exact hBoth

end Gps

------------------------------------------------------------
-- What a Call Logs
------------------------------------------------------------

namespace Gps

/- What is logged, from what is parsed. -/
def LogsParsed (s : UpdateState) : Prop :=
  s.logged =
    if s.gps.isSaveLog then s.parsed.map text else []

theorem logsParsed_updateStart
    (s : State)
    (data : List UInt8) :
    LogsParsed (updateStart s data) := by
  unfold LogsParsed updateStart
  simp

theorem logsParsed_updateBody
    {s s' : UpdateState}
    (hLogs : LogsParsed s)
    (hBody : updateBody s = .next s') :
    LogsParsed s' := by
  unfold updateBody at hBody
  split at hBody
  · cases hBody
  · cases hBody
    exact hLogs
  · split at hBody
    · cases hBody
      exact hLogs
    · cases hBody
      unfold LogsParsed at hLogs ⊢
      simp only [UpdateState.finishFrame, hLogs]
      split
      · rw [List.map_append, List.map_singleton, text_tmp]
      · rfl

/- An iteration that leaves has changed nothing. -/
theorem eq_of_updateBody_done
    {s result : UpdateState}
    (hBody : updateBody s = .done result) :
    result = s := by
  unfold updateBody at hBody
  split at hBody
  · cases hBody
    rfl
  · cases hBody
  · split at hBody
    · cases hBody
    · cases hBody

/- With a command in flight nothing is parsed or logged. -/
structure LogsNothing
    (s result : UpdateState) : Prop where
  parsed : result.parsed = s.parsed
  logged : result.logged = s.logged
  isSaveLog : result.gps.isSaveLog = s.gps.isSaveLog

theorem logsNothing_takeAck
    {malloc : Bool}
    {start : List UInt8 → Option Nat}
    {index : Fin dataBufferMaxLength}
    {s result : UpdateState}
    (hTakes : takeAck malloc start index s = some result) :
    LogsNothing s result := by
  unfold takeAck handOver at hTakes
  split at hTakes
  · cases hTakes
    exact ⟨rfl, rfl, rfl⟩
  · dsimp only at hTakes
    split at hTakes
    · cases hTakes
      exact ⟨rfl, rfl, rfl⟩
    · split at hTakes
      · cases hTakes
        exact ⟨rfl, rfl, rfl⟩
      · cases hTakes
      · cases hTakes
        exact ⟨rfl, rfl, rfl⟩

theorem logsNothing_updateCommand
    {malloc : Bool}
    {s result : UpdateState}
    (hUpdates : updateCommand malloc s = some result) :
    LogsNothing s result := by
  unfold updateCommand at hUpdates
  dsimp only at hUpdates
  split at hUpdates
  · exact logsNothing_takeAck hUpdates
  · split at hUpdates
    · cases hUpdates
      exact ⟨rfl, rfl, rfl⟩
    · exact logsNothing_takeAck hUpdates

theorem logsParsed_of_updates
    {s : State}
    {malloc : Bool}
    {data : List UInt8}
    {result : UpdateState}
    (hUpdates : Updates malloc s data result) :
    LogsParsed result := by
  cases hIdle : s.semCmdSending with
  | false =>
      rw [updates_iff_returns hIdle] at hUpdates
      refine Loop.Returns.of_invariant LogsParsed ?_
        (fun _ _ hLogs hBody => logsParsed_updateBody hLogs hBody)
        hUpdates (logsParsed_updateStart s data)
      intro state result hLogs hBody
      rw [eq_of_updateBody_done hBody]
      exact hLogs
  | true =>
      rcases hUpdates with ⟨fuel, hUpdate⟩
      rw [update, if_pos hIdle] at hUpdate
      have hNothing := logsNothing_updateCommand hUpdate
      have hStart := logsParsed_updateStart s data
      unfold LogsParsed at hStart ⊢
      rw [hNothing.logged, hNothing.parsed, hNothing.isSaveLog]
      exact hStart

end Gps

------------------------------------------------------------
-- The File Only Grows
------------------------------------------------------------

namespace Gps

variable {Disk File : Type} [DecidableEq File]

/- The frames taken out while the log was on to a file. -/
def framesFor
    (fs : ApiFs Disk File)
    (file : File)
    (calls : List LoggedCall) : List (List UInt8) :=
  (calls.filter fun call =>
    fs.named call.path = file ∧
      call.result.gps.isSaveLog = true).flatMap
    (·.result.parsed)

/- Each `API_FS_Write` says that it wrote the whole string. -/
def LoggedCall.Whole (call : LoggedCall) : Prop :=
  call.writes = call.result.logged.map
    fun str => some ((text str).length : Int)

theorem text_text
    (memory : List UInt8) :
    text (text memory) = text memory :=
  text_of_nul_notMem (nul_notMem_text memory)

/- What the calls of a run have done to a file. -/
structure Logs
    (fs : ApiFs Disk File)
    (file : File)
    (calls : List LoggedCall)
    (before after : Option (List UInt8))
    (pieces : List (List UInt8)) : Prop where
  prefixes :
    List.Forall₂ (fun piece frame => piece <+: text frame)
      pieces (framesFor fs file calls)
  whole : (∀ call ∈ calls, call.Whole) →
    pieces = (framesFor fs file calls).map text
  grows : Grows before pieces.flatten after

theorem logs_nil
    {fs : ApiFs Disk File}
    {file : File}
    {before after : Option (List UInt8)}
    (hGrows : Grows before [] after) :
    Logs fs file [] before after [] :=
  { prefixes := .nil
    whole := fun _ => rfl
    grows := hGrows }

theorem Logs.append
    {fs : ApiFs Disk File}
    {file : File}
    {calls later : List LoggedCall}
    {before middle after : Option (List UInt8)}
    {pieces rest : List (List UInt8)}
    (hLogs : Logs fs file calls before middle pieces)
    (hLater : Logs fs file later middle after rest) :
    Logs fs file (calls ++ later) before after
      (pieces ++ rest) := by
  have hFrames : framesFor fs file (calls ++ later) =
      framesFor fs file calls ++ framesFor fs file later := by
    simp [framesFor]
  refine ⟨?_, ?_, ?_⟩
  · rw [hFrames]
    exact List.rel_append hLogs.prefixes hLater.prefixes
  · intro hWhole
    rw [hFrames, List.map_append,
      hLogs.whole fun call hMem =>
        hWhole call (List.mem_append_left _ hMem),
      hLater.whole fun call hMem =>
        hWhole call (List.mem_append_right _ hMem)]
  · rw [List.flatten_append]
    exact hLogs.grows.trans hLater.grows

/- One call of `GPS_Update`. -/
theorem logs_of_call
    {fs : ApiFs Disk File}
    (hFs : fs.Documented)
    {result : UpdateState}
    (hParsed : LogsParsed result)
    (path : Path)
    (disk : Disk)
    (file : File) :
    ∃ pieces,
      Logs fs file
        [{ path := path
           result := result
           writes := (saveAll fs path result.logged disk).1 }]
        (fs.content disk file)
        (fs.content (saveAll fs path result.logged disk).2 file)
        pieces := by
  rcases grows_saveAll hFs path result.logged disk with
    ⟨pieces, hPieces, hWhole, hGrows⟩
  have hFile := hGrows file
  unfold LogsParsed at hParsed
  by_cases hNamed : fs.named path = file
  · by_cases hOn : result.gps.isSaveLog = true
    · rw [if_pos hOn] at hParsed
      refine ⟨pieces, ?_, ?_, ?_⟩
      · simp only [framesFor, hNamed, hOn, and_self, decide_true,
          List.filter_cons_of_pos, List.filter_nil,
          List.flatMap_cons, List.flatMap_nil, List.append_nil]
        rw [hParsed, List.forall₂_map_right_iff] at hPieces
        exact hPieces.imp fun piece frame hPiece => by
          rwa [text_text] at hPiece
      · intro hAll
        simp only [framesFor, hNamed, hOn, and_self, decide_true,
          List.filter_cons_of_pos, List.filter_nil,
          List.flatMap_cons, List.flatMap_nil, List.append_nil]
        rw [hWhole (hAll _ List.mem_cons_self), hParsed,
          List.map_map]
        exact List.map_congr_left fun frame _ => text_text frame
      · rwa [if_pos hNamed] at hFile
    · rw [if_neg hOn] at hParsed
      rw [hParsed] at hPieces
      cases hPieces
      refine ⟨[], ?_, ?_, ?_⟩
      · simp [framesFor, hOn]
      · simp [framesFor, hOn]
      · rwa [List.flatten_nil, ite_self] at hFile
  · refine ⟨[], ?_, ?_, ?_⟩
    · simp [framesFor, hNamed]
    · simp [framesFor, hNamed]
    · rwa [if_neg hNamed] at hFile

theorem logs_of_logRun
    {fs : ApiFs Disk File}
    (hFs : fs.Documented)
    {s last : LogState Disk}
    {events : List LogEvent}
    {calls : List LoggedCall}
    (hRun : LogRun fs s events calls last)
    (file : File) :
    ∃ pieces,
      Logs fs file calls (fs.content s.disk file)
        (fs.content last.disk file) pieces := by
  induction hRun with
  | nil => exact ⟨[], logs_nil (Grows.refl _)⟩
  | saveLog save path _ ih => exact ih
  | clearLog _ ih =>
      rcases ih with ⟨pieces, hLogs⟩
      exact ⟨pieces,
        (logs_nil (grows_clearLog hFs _ _ file)).append hLogs⟩
  | received hUpdates _ ih =>
      rcases logs_of_call hFs (logsParsed_of_updates hUpdates)
        _ _ file with ⟨pieces, hCall⟩
      rcases ih with ⟨rest, hLogs⟩
      exact ⟨pieces ++ rest, hCall.append hLogs⟩
  | command _ _ ih => exact ih

/-
  Whatever is called in whatever order and whatever the file
  system answers, what a file held stays at its beginning,
  and behind it comes, for each frame that was taken out
  while the log was on to this file, in order, a beginning
  of the string of the frame, and nothing else.
-/
theorem log_grows
    {fs : ApiFs Disk File}
    (hFs : fs.Documented)
    {s last : LogState Disk}
    {events : List LogEvent}
    {calls : List LoggedCall}
    (hRun : LogRun fs s events calls last)
    (file : File) :
    ∃ pieces,
      List.Forall₂ (fun piece frame => piece <+: text frame)
        pieces (framesFor fs file calls) ∧
      Grows (fs.content s.disk file) pieces.flatten
        (fs.content last.disk file) := by
  rcases logs_of_logRun hFs hRun file with ⟨pieces, hLogs⟩
  exact ⟨pieces, hLogs.prefixes, hLogs.grows⟩

end Gps

------------------------------------------------------------
-- A Card That Is Full
------------------------------------------------------------

namespace Gps

/- A call with a chunk that is taken, and what it logs. -/
theorem exists_updates_of_segments
    {s : State}
    (hIdle : s.semCmdSending = false)
    (hOn : s.isSaveLog = true)
    {chunk : List UInt8}
    {frames : List (List UInt8)}
    {rest : List UInt8}
    (hFits : (s.live ++ chunk).length < dataBufferMaxLength)
    (hSplit : frameSegmenter.segments (s.live ++ chunk) = frames ∧
      frameSegmenter.rest (s.live ++ chunk) = rest)
    (hRest : ¬ Occurs (ascii "VTG") rest) :
    ∃ result,
      Updates false s chunk result ∧
      result.ret = true ∧
      result.logged = frames.map text ∧
      result.gps.live = rest ∧
      result.gps.semCmdSending = false ∧
      result.gps.isSaveLog = true := by
  rcases hSplit with ⟨rfl, rfl⟩
  have hLive := live_updateStart_of_fits hFits
  rw [← hLive] at hRest
  rcases returns_updateBody hRest with
    ⟨result, hReturns, hExtracted⟩
  have hUpdates : Updates false s chunk result :=
    (updates_iff_returns hIdle).mpr hReturns
  have hStaysOn : result.gps.isSaveLog = true :=
    hExtracted.isSaveLog.trans hOn
  have hLogs := logsParsed_of_updates hUpdates
  unfold LogsParsed at hLogs
  rw [if_pos hStaysOn, hExtracted.parsed, hLive] at hLogs
  refine ⟨result, hUpdates,
    hExtracted.ret.trans (ret_updateStart_of_fits hFits),
    hLogs, ?_, hExtracted.semCmdSending.trans hIdle, hStaysOn⟩
  rw [hExtracted.live, hLive]

/- The path that the examples log to. -/
def examplePath : Path := some (ascii "/t/gps_nmea.log")

/- The log is switched on, with a number of bytes free. -/
def logBoot (free : Nat) : LogState SmallCard :=
  { gps := { boot with isSaveLog := true }
    gpsLogPath := examplePath
    disk :=
      { files := fun _ => none
        descriptor := none
        free := free } }

/- The first line of the examples is not a frame yet. -/
theorem split_unfinished :
    frameSegmenter.segments (ascii "$GPV") = [] ∧
      frameSegmenter.rest (ascii "$GPV") = ascii "$GPV" :=
  ⟨Segmenter.segments_of_cut_none (by decide),
    Segmenter.rest_of_cut_none (by decide)⟩

/- The rest of the line, and the beginning of another. -/
theorem split_finished :
    frameSegmenter.segments
        (ascii "$GPV" ++ ascii "TG\r\n$G") =
          [ascii "$GPVTG\r\n"] ∧
      frameSegmenter.rest
        (ascii "$GPV" ++ ascii "TG\r\n$G") = ascii "$G" := by
  constructor
  · rw [Segmenter.segments_of_cut_some (n := 8) (by decide),
      Segmenter.segments_of_cut_none (by decide)]
    decide
  · rw [Segmenter.rest_of_cut_some (n := 8) (by decide),
      Segmenter.rest_of_cut_none (by decide)]
    decide

theorem no_vtg_unfinished :
    ¬ Occurs (ascii "VTG") (ascii "$GPV") := by
  rw [← find_eq_none_iff]
  decide

theorem no_vtg_next :
    ¬ Occurs (ascii "VTG") (ascii "$G") := by
  rw [← find_eq_none_iff]
  decide

/-
  The two calls of `GPS_Update` that receive the line, the
  first of which logs nothing.
-/
theorem exists_updates_logBoot
    (free : Nat) :
    ∃ first second,
      Updates false (logBoot free).gps (ascii "$GPV") first ∧
      Updates false first.gps (ascii "TG\r\n$G") second ∧
      first.ret = true ∧ second.ret = true ∧
      first.logged = [] ∧
      second.logged = [ascii "$GPVTG\r\n"] := by
  have hLive : (logBoot free).gps.live = [] := live_boot
  have hFits : ((logBoot free).gps.live ++
      ascii "$GPV").length < dataBufferMaxLength := by
    rw [hLive]
    decide
  rcases exists_updates_of_segments (s := (logBoot free).gps)
      rfl rfl hFits
      (by rw [hLive]; exact split_unfinished)
      no_vtg_unfinished with
    ⟨first, hFirst, hRet, hLogged, hFirstLive, hIdle, hOn⟩
  have hFits' : (first.gps.live ++
      ascii "TG\r\n$G").length < dataBufferMaxLength := by
    rw [hFirstLive]
    decide
  rcases exists_updates_of_segments hIdle hOn hFits'
      (by rw [hFirstLive]; exact split_finished)
      no_vtg_next with
    ⟨second, hSecond, hRet', hLogged', _⟩
  exact ⟨first, second, hFirst, hSecond, hRet, hRet', hLogged,
    hLogged'.trans (by decide)⟩

/-
  A line that arrives on a card with five bytes free is cut
  there, and `GPS_ClearLog` leaves them in the file.
-/
theorem log_grows_fullCard :
    ∃ calls last,
      LogRun smallCard (logBoot 5)
        [ .received (ascii "$GPV"),
          .received (ascii "TG\r\n$G"),
          .clearLog ] calls last ∧
      last.disk.files examplePath = some (ascii "$GPVT") ∧
      ∃ pieces,
        List.Forall₂ (fun piece frame => piece <+: text frame)
          pieces (framesFor smallCard examplePath calls) ∧
        Grows (smallCard.content (logBoot 5).disk examplePath)
          pieces.flatten
          (smallCard.content last.disk examplePath) := by
  rcases exists_updates_logBoot 5 with
    ⟨first, second, hFirst, hSecond, _, _, hLogged, hLogged'⟩
  have hRun : LogRun smallCard (logBoot 5)
      [ .received (ascii "$GPV"),
        .received (ascii "TG\r\n$G"),
        .clearLog ] _ _ :=
    .received hFirst (.received hSecond (.clearLog .nil))
  refine ⟨_, _, hRun, ?_,
    log_grows documented_smallCard hRun examplePath⟩
  simp only [hLogged, hLogged']
  decide

end Gps

------------------------------------------------------------
-- Nothing Is Lost
------------------------------------------------------------

namespace Gps

variable {Disk File : Type} [DecidableEq File]

/- The log stays on to a path, and no command is sent. -/
def LogEvent.StaysOn (path : Path) : LogEvent → Prop
  | .saveLog save path' => save = true ∧ path' = path
  | .clearLog => True
  | .received _ => True
  | .command _ => False

/- The chunk that arrives in an event. -/
def LogEvent.chunk? : LogEvent → Option (List UInt8)
  | .received data => some data
  | _ => none

theorem length_flatten_map_text_le
    (frames : List (List UInt8)) :
    ((frames.map text).flatten).length ≤
      frames.flatten.length := by
  induction frames with
  | nil => exact le_refl 0
  | cons frame frames ih =>
      have hFrame := (text_isPrefix frame).length_le
      simp only [List.map_cons, List.flatten_cons,
        List.length_append]
      omega

/- Strings are whole when there is no NUL in them. -/
theorem flatten_map_text_eq_iff
    {frames : List (List UInt8)} :
    (frames.map text).flatten = frames.flatten ↔
      ∀ frame ∈ frames, 0 ∉ frame := by
  induction frames with
  | nil => simp
  | cons frame frames ih =>
      rw [List.map_cons, List.flatten_cons, List.flatten_cons,
        List.forall_mem_cons, ← ih]
      constructor
      · intro hSame
        have hLength := congrArg List.length hSame
        have hFrame := (text_isPrefix frame).length_le
        have hRest := length_flatten_map_text_le frames
        rw [List.length_append, List.length_append] at hLength
        have hText : text frame = frame :=
          (text_isPrefix frame).eq_of_length (by omega)
        rw [hText] at hSame
        refine ⟨?_, List.append_cancel_left hSame⟩
        rw [← hText]
        exact nul_notMem_text frame
      · rintro ⟨hNul, hRest⟩
        rw [text_of_nul_notMem hNul, hRest]

/-
  The calls of such a run deliver its chunks, and all of
  their frames are logged to the file of the path.
-/
theorem delivers_of_logRun
    {fs : ApiFs Disk File}
    {s last : LogState Disk}
    {events : List LogEvent}
    {calls : List LoggedCall}
    (hRun : LogRun fs s events calls last)
    (hIdle : s.gps.semCmdSending = false)
    (hOn : s.gps.isSaveLog = true)
    (hStays : ∀ event ∈ events, event.StaysOn s.gpsLogPath) :
    Delivers s.gps (events.filterMap LogEvent.chunk?)
        (calls.map (·.result)) last.gps ∧
      framesFor fs (fs.named s.gpsLogPath) calls =
        parsedBy (calls.map (·.result)) := by
  induction hRun with
  | nil => exact ⟨.nil, rfl⟩
  | @saveLog s last events calls save path _ ih =>
      rcases List.forall_mem_cons.mp hStays with
        ⟨⟨rfl, rfl⟩, hLater⟩
      have hSame : { s.gps with isSaveLog := true } = s.gps := by
        rw [← hOn]
      rw [hSame] at ih
      exact ih hIdle hOn hLater
  | clearLog _ ih =>
      exact ih hIdle hOn (List.forall_mem_cons.mp hStays).2
  | received hUpdates _ ih =>
      have hCall : Updates false _ _ _ :=
        (updates_iff_returns hIdle).mpr
          ((updates_iff_returns hIdle).mp hUpdates)
      have hExtracted := (extracted_of_updates hIdle hUpdates).1
      have hStaysOn := hExtracted.isSaveLog.trans hOn
      rcases ih (hExtracted.semCmdSending.trans hIdle) hStaysOn
          (List.forall_mem_cons.mp hStays).2 with
        ⟨hDelivers, hFrames⟩
      refine ⟨.cons hIdle hCall hDelivers, ?_⟩
      rw [framesFor, List.filter_cons_of_pos
        (by simpa using hStaysOn), List.flatMap_cons]
      exact congrArg (_ ++ ·) hFrames
  | command _ _ _ =>
      exact (List.forall_mem_cons.mp hStays).1.elim

/-
  With the log on, no command in flight and all writes whole,
  the file and the ring buffer together hold everything
  received, in order and once, exactly when no frame has a
  NUL in it. Calls of `GPS_ClearLog` in between change
  nothing.
-/
theorem log_whole_iff
    {fs : ApiFs Disk File}
    (hFs : fs.Documented)
    {s last : LogState Disk}
    {events : List LogEvent}
    {calls : List LoggedCall}
    (hRun : LogRun fs s events calls last)
    (hIdle : s.gps.semCmdSending = false)
    (hOn : s.gps.isSaveLog = true)
    (hStays : ∀ event ∈ events, event.StaysOn s.gpsLogPath)
    (hWhole : ∀ call ∈ calls, call.Whole)
    (hAccepted : Accepted (calls.map (·.result)))
    {stream : List UInt8}
    (hStream : stream =
      ((events.filterMap LogEvent.chunk?).map offered).flatten)
    (hStart : events.filterMap LogEvent.chunk? = [] →
      frameSegmenter.cut s.gps.live = none) :
    (fs.content last.disk (fs.named s.gpsLogPath)).getD [] ++
          last.gps.live =
        (fs.content s.disk (fs.named s.gpsLogPath)).getD [] ++
          s.gps.live ++ stream ↔
      ∀ frame ∈ frameSegmenter.segments (s.gps.live ++ stream),
        0 ∉ frame := by
  subst hStream
  rcases delivers_of_logRun hRun hIdle hOn hStays with
    ⟨hDelivers, hFrames⟩
  have hDelivered :=
    delivered_of_delivers hDelivers hAccepted hStart
  rcases logs_of_logRun hFs hRun (fs.named s.gpsLogPath) with
    ⟨pieces, hLogs⟩
  have hWholeStream := frameSegmenter.flatten_segments_append_rest
    (s.gps.live ++ ((events.filterMap LogEvent.chunk?).map
      offered).flatten)
  rw [← flatten_map_text_eq_iff, List.append_assoc,
    hLogs.grows.getD, hLogs.whole hWhole, hFrames,
    hDelivered.parsed, hDelivered.live, List.append_assoc,
    List.append_cancel_left_eq]
  constructor
  · intro hSame
    exact List.append_cancel_right
      (hSame.trans hWholeStream.symm)
  · intro hSame
    rw [hSame]
    exact hWholeStream

/-
  A line in two chunks with a call of `GPS_ClearLog` between
  them, on a card with room.
-/
theorem log_whole_iff_cut_line :
    ∃ calls last,
      LogRun smallCard (logBoot 100)
        [ .received (ascii "$GPV"),
          .clearLog,
          .received (ascii "TG\r\n$G") ] calls last ∧
      ((last.disk.files examplePath).getD [] ++ last.gps.live =
          ((logBoot 100).disk.files examplePath).getD [] ++
            (logBoot 100).gps.live ++ ascii "$GPVTG\r\n$G" ↔
        ∀ frame ∈ frameSegmenter.segments
            ((logBoot 100).gps.live ++ ascii "$GPVTG\r\n$G"),
          0 ∉ frame) := by
  rcases exists_updates_logBoot 100 with
    ⟨first, second, hFirst, hSecond, hRet, hRet', hLogged,
      hLogged'⟩
  have hRun : LogRun smallCard (logBoot 100)
      [ .received (ascii "$GPV"),
        .clearLog,
        .received (ascii "TG\r\n$G") ] _ _ :=
    .received hFirst (.clearLog (.received hSecond .nil))
  refine ⟨_, _, hRun, log_whole_iff documented_smallCard hRun
    rfl rfl ?_ ?_ ?_ (by decide) (fun hNil => by cases hNil)⟩
  · intro event hMem
    rcases List.mem_cons.mp hMem with rfl | hMem
    · trivial
    · rcases List.mem_cons.mp hMem with rfl | hMem
      · trivial
      · rw [List.mem_singleton.mp hMem]
        trivial
  · intro call hMem
    rcases List.mem_cons.mp hMem with rfl | hMem
    · rw [LoggedCall.Whole, hLogged]
      rfl
    · rw [List.mem_singleton.mp hMem]
      simp only [LoggedCall.Whole, hLogged, hLogged']
      decide
  · simp [Accepted, hRet, hRet']

end Gps
