import GpsTracker.App.Uploads
import GpsTracker.Gps.Exchange

/-
  The lines handed over, as places of the byte stream.

  Chunks are cut anywhere, a command empties the buffer in
  the middle of a line, an ack is taken out with all bytes
  before it, a frame is cut to its buffer, and the cursor of
  `GPS_Parse` may fall behind. Still every line handed over
  stands in the stream, from a '$' to the next "\r\n", and
  no line begins before one that was handed over earlier.

  Main declarations:
    * `Gps.LineAt`
    * `App.arrived`, `App.Taken`
    * `App.GpsStep`, `App.gpsStep_of_step`
    * `App.InStream`, `App.InStream.step`
    * `App.inStream_of_run`
-/

open CString Gps ListSearch

------------------------------------------------------------
-- Lines of a Stream
------------------------------------------------------------

namespace Gps

/- The line from a '$' at this offset to the next "\r\n". -/
structure LineAt
    (stream : List UInt8)
    (offset : Nat)
    (line : List UInt8) : Prop where
  span : sentenceSpan (stream.drop offset) =
    some (0, line.length)
  isPrefix : line <+: stream.drop offset

variable {stream line : List UInt8}
variable {offset : Nat}

theorem LineAt.add_three_le
    (hLine : LineAt stream offset line) :
    offset + 3 ≤ stream.length := by
  have hBounds := sentenceSpan_bounds hLine.span
  rw [List.length_drop] at hBounds
  omega

/- What arrives later does not change a line. -/
theorem LineAt.append
    (hLine : LineAt stream offset line)
    (more : List UInt8) :
    LineAt (stream ++ more) offset line := by
  have hInside := hLine.add_three_le
  have hDrop : (stream ++ more).drop offset =
      stream.drop offset ++ more :=
    List.drop_append_of_le_length (by omega)
  exact
    { span := by
        rw [hDrop]
        exact sentenceSpan_append more hLine.span
      isPrefix := by
        rw [hDrop]
        exact hLine.isPrefix.trans (List.prefix_append _ _) }

/- A line of a part of the stream. -/
theorem LineAt.of_part
    {part : List UInt8}
    {place : Nat}
    (hPart : part <+: stream.drop place)
    (hLine : LineAt part offset line) :
    LineAt stream (place + offset) line := by
  rcases hPart with ⟨more, hMore⟩
  have hGrown := hLine.append more
  rw [hMore] at hGrown
  exact
    { span := by
        rw [← List.drop_drop]
        exact hGrown.span
      isPrefix := by
        rw [← List.drop_drop]
        exact hGrown.isPrefix }

/- The first sentence behind a cursor is a line. -/
theorem lineAt_of_span
    {cursor start stop : Nat}
    (hSpan : sentenceSpan (stream.drop cursor) =
      some (start, stop)) :
    LineAt stream (cursor + start)
      (((stream.drop cursor).take stop).drop start) := by
  have hLength := length_take_drop_of_span hSpan
  rcases sentenceSpan_eq_some_iff.mp hSpan with
    ⟨hStart, length, hStop, rfl⟩
  refine ⟨?_, ?_⟩
  · rcases find_occursAt hStart with ⟨behind, hBehind⟩
    rw [← List.drop_drop, hLength]
    apply sentenceSpan_eq_some_iff.mpr
    refine ⟨?_, length, hStop, by omega⟩
    rw [← hBehind]
    exact find_self_append _ behind
  · rw [← List.drop_drop, List.drop_take]
    exact List.take_prefix _ _

end Gps

------------------------------------------------------------
-- What Is Taken out of the Buffer
------------------------------------------------------------

namespace Gps

variable {u u' : UpdateState}

theorem live_handOver
    {malloc : Bool}
    {start : List UInt8 → Option Nat}
    {index : Fin dataBufferMaxLength}
    (hHandOver : handOver malloc start index u = some u') :
    u'.gps.live <:+ u.gps.live := by
  unfold handOver at hHandOver
  simp only at hHandOver
  split at hHandOver
  · cases hHandOver
    exact List.suffix_rfl
  · next bytes buffer hGets =>
      have hLive : buffer.contents <:+ u.gps.live := by
        rw [(gets_eq_some hGets).2.2]
        exact List.drop_suffix _ _
      split at hHandOver
      · cases hHandOver
        exact hLive
      · cases hHandOver
      · cases hHandOver
        exact hLive

/- An ack is taken out with the bytes before it. -/
theorem live_updateCommand
    {malloc : Bool}
    (hUpdate : updateCommand malloc u = some u') :
    u'.gps.live <:+ u.gps.live := by
  have hTake {start : List UInt8 → Option Nat}
      {index : Fin dataBufferMaxLength}
      (hTake : takeAck malloc start index u = some u') :
      u'.gps.live <:+ u.gps.live := by
    unfold takeAck at hTake
    split at hTake
    · cases hTake
      exact List.suffix_rfl
    · exact live_handOver hTake
  unfold updateCommand at hUpdate
  simp only at hUpdate
  split at hUpdate
  · exact hTake hUpdate
  · split at hUpdate
    · cases hUpdate
      exact List.suffix_rfl
    · exact hTake hUpdate

end Gps

------------------------------------------------------------
-- Where the Tasks Stand
------------------------------------------------------------

namespace App

/- The bytes that arrive with an event. -/
def Event.data : Event → List UInt8
| .received _ data => data
| _ => []

/- The bytes that arrive in a run. -/
def arrived (events : List Event) : List UInt8 :=
  events.flatMap Event.data

theorem arrived_append_singleton
    (events : List Event)
    (event : Event) :
    arrived (events ++ [event]) =
      arrived events ++ event.data := by
  simp [arrived]

/- The bytes in the ring buffer. -/
def Tracker.live (t : Tracker) : List UInt8 :=
  t.gps.state.live

/- `Buffer_Puts` has room for what arrives with an event. -/
def Tracker.HasRoom
    (t : Tracker)
    (event : Event) : Prop :=
  (t.live ++ event.data).length < dataBufferMaxLength

/- No `Buffer_Puts` of a run is refused. -/
def Taken (events : List Event) : Prop :=
  ∀ before event t,
    before ++ [event] <+: events → run before = some t →
      t.HasRoom event

/-
  The string that `GPS_Parse` works on stands in the stream,
  before what is in the buffer. From the cursor on no '$'
  stands before a line that was handed over.
-/
structure Parses
    (stream : List UInt8)
    (offsets : List Nat)
    (live : List UInt8)
    (p : ParseState)
    (s rest : List UInt8)
    (place : Nat) : Prop where
  inside : p.Inside s rest
  noNul : 0 ∉ s
  part : s <+: stream.drop place
  before : place + s.length + live.length ≤ stream.length
  behind : ∀ offset ∈ offsets, ∀ i, p.nmeas ≤ i →
    OccursAt (ascii "$") s i → offset ≤ place + i

/- Where the main task stands in the stream. -/
def GpsTask.Stands
    (stream : List UInt8)
    (offsets : List Nat) : GpsTask → Prop
| .parsing u _ p =>
    ∃ s rest place,
      Parses stream offsets u.gps.live p s rest place
| _ => True

/-
  The lines handed over stand at these offsets, and what is
  in the buffer is the end of the stream, behind them.
-/
structure InStream
    (stream : List UInt8)
    (offsets : List Nat)
    (t : Tracker) : Prop where
  lines : List.Forall₂ (LineAt stream) offsets t.handed
  sorted : offsets.Pairwise (· ≤ ·)
  live : t.live <:+ stream
  before : ∀ offset ∈ offsets,
    offset + t.live.length ≤ stream.length
  stands : t.gps.Stands stream offsets

theorem inStream_start : InStream [] [] start :=
  { lines := .nil
    sorted := .nil
    live := by
      rw [show start.live = boot.live from rfl, live_boot]
    before := fun _ hMem => by cases hMem
    stands := trivial }

end App

------------------------------------------------------------
-- What a Step Does to the Main Task
------------------------------------------------------------

namespace App

/-
  What a step does to the main task and to the lines that
  are handed over; every other variable is left out.
-/
inductive GpsStep
    (t : Tracker)
    (event : Event)
    (t' : Tracker) : Prop where
  | received
      {malloc : Bool}
      {data : List UInt8}
      {s : State}
      {g : GpsTask}
      (hEvent : event = .received malloc data)
      (hWaiting : t.gps = .waiting s)
      (hCall : GpsTask.call malloc data s = some g)
      (hNext : t' = { t with gps := g })
  | advanced
      {lines : List (List UInt8)}
      {g : GpsTask}
      (hEvent : event = .iterate)
      (hAdvance : t.gps.advance = some (lines, g))
      (hNext : t' =
        { t with gps := g, parsed := t.parsed ++ lines })
  | sent
      (hEvent : event = .commandSent)
      (hNext : t' = { t with gps := t.gps.modify sendCommand })
  | ended
      (hEvent : event = .commandEnded)
      (hSending : t.gps.state.semCmdSending = true)
      (hNext : t' = { t with gps := t.gps.modify endCommand })
  | same
      (hData : event.data = [])
      (hGps : t'.gps = t.gps)
      (hParsed : t'.parsed = t.parsed)

theorem gpsStep_of_step
    {t t' : Tracker}
    {event : Event}
    (hStep : step t event = some t') :
    GpsStep t event t' := by
  cases event with
  | received malloc data =>
      rw [step] at hStep
      split at hStep
      · next s hWaiting =>
          rcases Option.map_eq_some_iff.mp hStep with
            ⟨g, hCall, rfl⟩
          exact .received rfl hWaiting hCall rfl
      · cases hStep
  | iterate =>
      rcases Option.map_eq_some_iff.mp hStep with
        ⟨⟨lines, g⟩, hAdvance, rfl⟩
      exact .advanced rfl hAdvance rfl
  | switched isGpsOn =>
      rw [step] at hStep
      split at hStep
      · cases hStep
        exact .same rfl rfl rfl
      · cases hStep
  | startUpDone =>
      rcases Option.ite_none_right_eq_some.mp hStep with
        ⟨_, hNext⟩
      cases hNext
      exact .same rfl rfl rfl
  | commandSent =>
      rcases Option.ite_none_right_eq_some.mp hStep with
        ⟨_, hNext⟩
      cases hNext
      exact .sent rfl rfl
  | commandEnded =>
      rcases Option.ite_none_right_eq_some.mp hStep with
        ⟨⟨_, hSending⟩, hNext⟩
      cases hNext
      exact .ended rfl hSending rfl
  | initDone =>
      rcases Option.ite_none_right_eq_some.mp hStep with
        ⟨_, hNext⟩
      cases hNext
      exact .same rfl rfl rfl
  | report status =>
      rcases Option.ite_none_right_eq_some.mp hStep with
        ⟨_, hNext⟩
      split at hNext
      · split at hNext
        · cases hNext
        · cases hNext
          exact .same rfl rfl rfl
      · cases hNext
        exact .same rfl rfl rfl

/- Only a task that waits is called. -/
theorem handed_of_call
    {t : Tracker}
    {malloc : Bool}
    {data : List UInt8}
    {s : State}
    {g : GpsTask}
    (hWaiting : t.gps = .waiting s)
    (hCall : GpsTask.call malloc data s = some g) :
    t.parsed ++ g.lines = t.handed := by
  rw [(parser_call hCall).2, Tracker.handed, hWaiting]
  rfl

theorem Tracker.live_waiting
    {t : Tracker}
    {s : State}
    (hWaiting : t.gps = .waiting s) :
    t.live = s.live := by
  rw [Tracker.live, hWaiting]
  rfl

theorem Tracker.live_updating
    {t : Tracker}
    {u : UpdateState}
    (hGps : t.gps = .updating u) :
    t.live = u.gps.live := by
  rw [Tracker.live, hGps]
  rfl

theorem Tracker.live_parsing
    {t : Tracker}
    {u : UpdateState}
    {bytes : List UInt8}
    {p : ParseState}
    (hGps : t.gps = .parsing u bytes p) :
    t.live = u.gps.live := by
  rw [Tracker.live, hGps]
  rfl

end App

------------------------------------------------------------
-- Steps
------------------------------------------------------------

namespace App

variable {stream : List UInt8}
variable {offsets : List Nat}
variable {t t' : Tracker}

/- Bytes arrive, and some may be taken out at once. -/
theorem InStream.received
    (hInStream : InStream stream offsets t)
    {data : List UInt8}
    (hHanded : t'.handed = t.handed)
    (hLive : t'.live <:+ t.live ++ data)
    (hStands : t'.gps.Stands (stream ++ data) offsets) :
    InStream (stream ++ data) offsets t' := by
  have hShort := hLive.length_le
  rw [List.length_append] at hShort
  refine
    { lines := ?_
      sorted := hInStream.sorted
      live := ?_
      before := ?_
      stands := hStands }
  · rw [hHanded]
    exact hInStream.lines.imp fun _ _ hLine =>
      hLine.append data
  · rcases hInStream.live with ⟨front, hFront⟩
    rw [← hFront, List.append_assoc]
    exact hLive.trans (List.suffix_append _ _)
  · intro offset hMem
    have hBefore := hInStream.before offset hMem
    rw [List.length_append]
    omega

/- Nothing arrives, and bytes may be taken out. -/
theorem InStream.taken_out
    (hInStream : InStream stream offsets t)
    (hHanded : t'.handed = t.handed)
    (hLive : t'.live <:+ t.live)
    (hStands : t'.gps.Stands stream offsets) :
    InStream stream offsets t' := by
  have hSame : InStream (stream ++ []) offsets t' :=
    hInStream.received hHanded (by rwa [List.append_nil])
      (by rwa [List.append_nil])
  rwa [List.append_nil] at hSame

/- A task that does not parse stands anywhere. -/
theorem stands_of_call
    {malloc : Bool}
    {data : List UInt8}
    {s : State}
    {g : GpsTask}
    (hCall : GpsTask.call malloc data s = some g) :
    g.Stands stream offsets := by
  unfold GpsTask.call at hCall
  simp only at hCall
  split at hCall
  · rcases Option.map_eq_some_iff.mp hCall with ⟨u, _, rfl⟩
    trivial
  · cases hCall
    trivial

theorem live_call
    {malloc : Bool}
    {data : List UInt8}
    {s : State}
    {g : GpsTask}
    (hCall : GpsTask.call malloc data s = some g)
    (hRoom : (s.live ++ data).length < dataBufferMaxLength) :
    g.state.live <:+ s.live ++ data := by
  have hStart := live_updateStart_of_fits hRoom
  unfold GpsTask.call at hCall
  simp only at hCall
  split at hCall
  · rcases Option.map_eq_some_iff.mp hCall with
      ⟨u, hUpdate, rfl⟩
    rw [← hStart]
    exact live_updateCommand hUpdate
  · cases hCall
    rw [← hStart]
    exact List.suffix_rfl

/- The semaphore and the buffer change, and no cursor. -/
theorem stands_modify
    {f : State → State}
    (hLive : ∀ s, (f s).live <:+ s.live)
    {g : GpsTask}
    (hStands : g.Stands stream offsets) :
    (g.modify f).Stands stream offsets := by
  cases g with
  | waiting s => trivial
  | updating u => trivial
  | parsing u bytes p =>
      rcases hStands with ⟨s, rest, place, hParses⟩
      have hShort := (hLive u.gps).length_le
      have hBefore := hParses.before
      have hKept : place + s.length + (f u.gps).live.length ≤
          stream.length := by
        omega
      exact ⟨s, rest, place, { hParses with before := hKept }⟩

theorem live_modify
    {f : State → State}
    (hLive : ∀ s, (f s).live <:+ s.live)
    (g : GpsTask) :
    (g.modify f).state.live <:+ g.state.live := by
  cases g with
  | waiting s => exact hLive s
  | updating u => exact hLive u.gps
  | parsing u bytes p => exact hLive u.gps

theorem InStream.modify
    (hInStream : InStream stream offsets t)
    {f : State → State}
    (hLive : ∀ s, (f s).live <:+ s.live) :
    InStream stream offsets
      { t with gps := t.gps.modify f } :=
  hInStream.taken_out
    (congrArg (t.parsed ++ ·) (lines_modify f t.gps))
    (live_modify hLive t.gps)
    (stands_modify hLive hInStream.stands)

end App

------------------------------------------------------------
-- Iterations
------------------------------------------------------------

namespace App

variable {stream : List UInt8}
variable {offsets : List Nat}
variable {t t' : Tracker}
variable {g : GpsTask}
variable {lines : List (List UInt8)}

/- A frame that is taken out stands before the rest. -/
theorem parses_parseStart
    (hInStream : InStream stream offsets t)
    {bytes behind : List UInt8}
    (hFits : bytes.length ≤ nmeaFrameBufferLength)
    (hLive : t.live = bytes ++ behind)
    (parser : Parser) :
    ∃ s rest place,
      Parses stream offsets behind
        (parseStart (tmp bytes) parser) s rest place := by
  rcases hInStream.live with ⟨front, hFront⟩
  rcases exists_eq_text_append (nul_mem_tmp hFits) with
    ⟨rest, hMemory⟩
  rw [text_tmp] at hMemory
  have hText := text_isPrefix bytes
  have hLength := congrArg List.length hFront
  rw [hLive, List.length_append, List.length_append]
    at hLength
  refine ⟨text bytes, rest, front.length,
    { inside := ⟨hMemory, Nat.zero_le _⟩
      noNul := nul_notMem_text bytes
      part := ?_
      before := ?_
      behind := ?_ }⟩
  · rw [← hFront, List.drop_left, hLive]
    exact hText.trans (List.prefix_append _ _)
  · have hLe := hText.length_le
    omega
  · intro offset hMem i _ _
    have hBefore := hInStream.before offset hMem
    rw [hLive, List.length_append] at hBefore
    omega

theorem InStream.updating
    (hInStream : InStream stream offsets t)
    {u : UpdateState}
    (hGps : t.gps = .updating u)
    (hAdvance : (GpsTask.updating u).advance =
      some (lines, g)) :
    InStream stream offsets
      { t with gps := g, parsed := t.parsed ++ lines } := by
  have hLive := Tracker.live_updating hGps
  have hHanded : t.parsed ++ [] ++ [] = t.handed := by
    rw [Tracker.handed, hGps, List.append_nil]
    rfl
  rw [GpsTask.advance] at hAdvance
  split at hAdvance
  · cases hAdvance
    refine hInStream.taken_out hHanded ?_ trivial
    rw [hLive]
    exact List.suffix_rfl
  · cases hAdvance
    refine hInStream.taken_out hHanded ?_ trivial
    rw [hLive]
    exact List.suffix_rfl
  · next bytes buffer hFound =>
      cases hAdvance
      rcases findFrame_eq_frame hFound with
        ⟨length, _, hFits, rfl, hRest⟩
      have hSplit : t.live =
          u.gps.live.take length ++ buffer.contents := by
        rw [hLive, hRest]
        exact (List.take_append_drop length _).symm
      refine hInStream.taken_out hHanded ?_
        (parses_parseStart hInStream
          ((List.length_take_le _ _).trans hFits) hSplit _)
      rw [hSplit]
      exact List.suffix_append _ _

section Parsing

variable {live s rest : List UInt8}
variable {p : ParseState}
variable {place start stop : Nat}

/- From the cursor on, the first '$' begins the next line. -/
theorem Parses.pass
    (hParses : Parses stream offsets live p s rest place)
    (hSpan : sentenceSpan (s.drop p.nmeas) =
      some (start, stop)) :
    Parses stream (offsets ++ [place + (p.nmeas + start)])
      live
      (p.pass (((s.drop p.nmeas).take stop).drop start))
      s rest place := by
  have hBounds := sentenceSpan_bounds hSpan
  refine
    { hParses with
      inside := hParses.inside.pass hSpan
      behind := ?_ }
  intro offset hMem i hCursor hAt
  rw [nmeas_pass hSpan] at hCursor
  rcases List.mem_append.mp hMem with hOld | hNew
  · exact hParses.behind offset hOld i (by omega) hAt
  · have hRest : OccursAt (ascii "$") (s.drop p.nmeas)
        (i - p.nmeas) := by
      rw [occursAt_drop, Nat.add_sub_of_le (by omega)]
      exact hAt
    have hFirst := find_le_of_occursAt
      (sentenceSpan_eq_some_iff.mp hSpan).1 hRest
    rw [List.mem_singleton.mp hNew]
    omega

theorem InStream.hand_over
    (hInStream : InStream stream offsets t)
    (hParses : Parses stream offsets t.live p s rest place)
    (hSpan : sentenceSpan (s.drop p.nmeas) =
      some (start, stop))
    (hHanded : t'.handed = t.handed ++
      [((s.drop p.nmeas).take stop).drop start])
    (hLive : t'.live = t.live)
    (hStands : t'.gps.Stands stream
      (offsets ++ [place + (p.nmeas + start)])) :
    InStream stream (offsets ++ [place + (p.nmeas + start)])
      t' := by
  have hLine := (lineAt_of_span hSpan).of_part hParses.part
  have hDollar := (occursAt_of_sentenceSpan_drop hSpan).1
  have hBounds := sentenceSpan_bounds hSpan
  have hBefore := hParses.before
  rw [List.length_drop] at hBounds
  refine
    { lines := ?_
      sorted := ?_
      live := ?_
      before := ?_
      stands := hStands }
  · rw [hHanded]
    exact List.rel_append hInStream.lines (.cons hLine .nil)
  · refine List.pairwise_append.mpr
      ⟨hInStream.sorted, List.pairwise_singleton _ _, ?_⟩
    intro offset hMem last hLast
    rw [List.mem_singleton.mp hLast]
    exact hParses.behind offset hMem _
      (Nat.le_add_right _ _) hDollar
  · rw [hLive]
    exact hInStream.live
  · intro offset hMem
    rw [hLive]
    rcases List.mem_append.mp hMem with hOld | hNew
    · exact hInStream.before offset hOld
    · rw [List.mem_singleton.mp hNew]
      omega

end Parsing

/- A line is handed over, or the frame is finished. -/
theorem InStream.parsing
    (hInStream : InStream stream offsets t)
    {u : UpdateState}
    {bytes : List UInt8}
    {p : ParseState}
    (hGps : t.gps = .parsing u bytes p)
    (hAdvance : (GpsTask.parsing u bytes p).advance =
      some (lines, g)) :
    ∃ offsets', InStream stream offsets'
      { t with gps := g, parsed := t.parsed ++ lines } := by
  have hLive := Tracker.live_parsing hGps
  have hHanded : t.handed = t.parsed ++ p.calls := by
    rw [Tracker.handed, hGps]
    rfl
  have hStands := hInStream.stands
  rw [hGps] at hStands
  rcases hStands with ⟨s, rest, place, hParses⟩
  cases hSpan : sentenceSpan (s.drop p.nmeas) with
  | none =>
      have hBody := parseBody_of_span_none hParses.noNul
        hParses.inside hSpan
      simp only [GpsTask.advance, hBody] at hAdvance
      cases hAdvance
      refine ⟨offsets, hInStream.taken_out ?_ ?_ trivial⟩
      · rw [hHanded]
        exact List.append_nil _
      · rw [hLive]
        exact List.suffix_rfl
  | some span =>
      rcases span with ⟨start, stop⟩
      have hBody := parseBody_of_span_some hParses.noNul
        hParses.inside hSpan
      simp only [GpsTask.advance, hBody] at hAdvance
      cases hAdvance
      refine ⟨_, hInStream.hand_over (hLive ▸ hParses) hSpan
        ?_ hLive.symm ⟨s, rest, place, hParses.pass hSpan⟩⟩
      rw [hHanded, Tracker.handed, List.append_nil,
        List.append_assoc]
      rfl

theorem InStream.same
    (hInStream : InStream stream offsets t)
    (hGps : t'.gps = t.gps)
    (hParsed : t'.parsed = t.parsed) :
    InStream stream offsets t' := by
  apply hInStream.taken_out
  · rw [Tracker.handed, hGps, hParsed]
    rfl
  · rw [Tracker.live, hGps]
    exact List.suffix_rfl
  · rw [hGps]
    exact hInStream.stands

theorem live_sendCommand
    (s : State) :
    (sendCommand s).live <:+ s.live := by
  rw [show (sendCommand s).live = [] from
    s.gpsNmeaBuffer.contents_clear]
  exact List.nil_suffix

theorem InStream.advance
    (hInStream : InStream stream offsets t)
    (hAdvance : t.gps.advance = some (lines, g)) :
    ∃ offsets', InStream stream offsets'
      { t with gps := g, parsed := t.parsed ++ lines } := by
  cases hGps : t.gps with
  | waiting s =>
      rw [hGps] at hAdvance
      cases hAdvance
  | updating u =>
      rw [hGps] at hAdvance
      exact ⟨offsets, hInStream.updating hGps hAdvance⟩
  | parsing u bytes p =>
      rw [hGps] at hAdvance
      exact hInStream.parsing hGps hAdvance

theorem InStream.step
    (hInStream : InStream stream offsets t)
    {event : Event}
    (hStep : App.step t event = some t')
    (hRoom : t.HasRoom event) :
    ∃ offsets',
      InStream (stream ++ event.data) offsets' t' := by
  cases gpsStep_of_step hStep with
  | received hEvent hWaiting hCall hNext =>
      subst hEvent hNext
      unfold Tracker.HasRoom at hRoom
      rw [Tracker.live_waiting hWaiting] at hRoom
      refine ⟨offsets, hInStream.received
        (handed_of_call hWaiting hCall) ?_
        (stands_of_call hCall)⟩
      rw [Tracker.live_waiting hWaiting]
      exact live_call hCall hRoom
  | advanced hEvent hAdvance hNext =>
      subst hEvent hNext
      simp only [Event.data, List.append_nil]
      exact hInStream.advance hAdvance
  | sent hEvent hNext =>
      subst hEvent hNext
      simp only [Event.data, List.append_nil]
      exact ⟨offsets, hInStream.modify live_sendCommand⟩
  | ended hEvent _ hNext =>
      subst hEvent hNext
      simp only [Event.data, List.append_nil]
      exact ⟨offsets, hInStream.modify fun _ =>
        List.suffix_rfl⟩
  | same hData hGps hParsed =>
      rw [hData, List.append_nil]
      exact ⟨offsets, hInStream.same hGps hParsed⟩

theorem Taken.before
    {events : List Event}
    {event : Event}
    (hTaken : Taken (events ++ [event])) :
    Taken events :=
  fun before next t hBefore =>
    hTaken before next t
      (hBefore.trans (List.prefix_append _ _))

/- Only the first event of these brings bytes. -/
theorem taken_of_first
    {event : Event}
    {events : List Event}
    (hRoom : start.HasRoom event)
    (hSilent : ∀ later ∈ events, later.data = []) :
    Taken (event :: events) := by
  intro before next t hPrefix hRun
  cases before with
  | nil =>
      rw [List.nil_append, List.cons_prefix_cons] at hPrefix
      rcases hPrefix with ⟨rfl, _⟩
      cases hRun
      exact hRoom
  | cons first before =>
      rw [List.cons_append, List.cons_prefix_cons] at hPrefix
      have hMem : next ∈ events := hPrefix.2.subset
        (List.mem_append_right _ (List.mem_singleton_self _))
      unfold Tracker.HasRoom
      rw [hSilent next hMem, List.append_nil]
      show t.gps.state.gpsNmeaBuffer.contents.length < _
      rw [Buffer.length_contents]
      exact Buffer.size_lt _

/- The lines of a whole run stand in all that arrived. -/
theorem inStream_of_run
    {events : List Event}
    (hRun : run events = some t)
    (hTaken : Taken events) :
    ∃ offsets, InStream (arrived events) offsets t := by
  induction events using List.reverseRecOn generalizing t with
  | nil =>
      cases hRun
      exact ⟨[], inStream_start⟩
  | append_singleton events event ih =>
      rw [run_append_singleton] at hRun
      rcases Option.bind_eq_some_iff.mp hRun with
        ⟨before, hBefore, hStep⟩
      rcases ih hBefore hTaken.before with ⟨offsets, hInStream⟩
      rw [arrived_append_singleton]
      exact hInStream.step hStep
        (hTaken events event before List.prefix_rfl hBefore)

end App
