import GpsTracker.App.Wire

/-
  From the bytes of the receiver to the track of the server.

  The receiver writes lines, some of them RMC records. What
  arrives is a beginning of what it writes, in any chunks,
  while commands are sent and acks come between. If the
  buffer has room for every chunk, each request that is
  posted tells the fix of an RMC record that was written,
  and the requests tell them in the order of the records.

  Main declarations:
    * `App.Written`, `App.lineIndex`, `App.exists_written`
    * `App.Dated`, `App.Dated.step`
    * `App.LatestRmc`
    * `App.IsTrack`, `App.server_follows_receiver`
-/

open CString Gps ListSearch Minmea

------------------------------------------------------------
-- Lines of the Receiver
------------------------------------------------------------

namespace App

/-
  A line that the receiver writes, with the record if it is
  one that `ParseOneNmea` takes for an RMC sentence.
-/
structure Written where
  line : List UInt8
  record : Option RmcRecord
  complete : CompleteSentence line
  dollar : byte '$' ∉ line.tail
  isRecord : ∀ r, record = some r →
    Minmea.Short line ∧
      ∃ talker, line = Record.line talker (.rmc r)
  isOther : record = none → isRmc line = false

def written (wire : List Written) : List UInt8 :=
  wire.flatMap Written.line

/- The number of the line that a byte belongs to. -/
def lineIndex : List Written → Nat → Nat
| [], _ => 0
| w :: wire, offset =>
    if offset < w.line.length then
      0
    else
      lineIndex wire (offset - w.line.length) + 1

theorem lineIndex_mono
    (wire : List Written)
    {a b : Nat}
    (hLe : a ≤ b) :
    lineIndex wire a ≤ lineIndex wire b := by
  induction wire generalizing a b with
  | nil => exact Nat.le_refl _
  | cons w wire ih =>
      unfold lineIndex
      split
      · exact Nat.zero_le _
      · rw [if_neg (by omega)]
        exact Nat.succ_le_succ (ih (by omega))

/- A '$' inside a line is the first byte of it. -/
theorem Written.offset_eq_zero
    (w : Written)
    {more line : List UInt8}
    {offset : Nat}
    (hLine : LineAt (w.line ++ more) offset line)
    (hInside : offset < w.line.length) :
    offset = 0 := by
  by_contra hNe
  have hDollar := find_occursAt
    (sentenceSpan_eq_some_iff.mp hLine.span).1
  rw [occursAt_drop, Nat.add_zero] at hDollar
  have hByte := hDollar.getElem?_add (k := 0) (by decide)
  rw [Nat.add_zero, List.getElem?_append_left hInside]
    at hByte
  apply w.dollar
  apply List.mem_of_getElem? (i := offset - 1)
  rw [List.getElem?_tail, Nat.sub_add_cancel (by omega)]
  exact hByte

/- A line of the stream is a line that was written. -/
theorem exists_written
    {wire : List Written}
    {offset : Nat}
    {line : List UInt8}
    (hLine : LineAt (written wire) offset line) :
    ∃ w, wire[lineIndex wire offset]? = some w ∧
      w.line = line := by
  induction wire generalizing offset with
  | nil =>
      have hInside := hLine.add_three_le
      simp [written] at hInside
  | cons w wire ih =>
      rw [written, List.flatMap_cons, ← written] at hLine
      unfold lineIndex
      split
      · next hInside =>
          cases w.offset_eq_zero hLine hInside
          have hSpan := hLine.span
          have hPrefix := hLine.isPrefix
          rw [List.drop_zero, sentenceSpan_append _
            w.complete.span, Option.some.injEq,
            Prod.mk.injEq] at hSpan
          rw [List.drop_zero] at hPrefix
          have hSame := List.prefix_of_prefix_length_le
            (List.prefix_append w.line (written wire))
            hPrefix hSpan.2.le
          exact ⟨w, rfl, hSame.eq_of_length hSpan.2⟩
      · next hBehind =>
          have hDrop :
              (w.line ++ written wire).drop offset =
                (written wire).drop
                  (offset - w.line.length) := by
            rw [List.drop_append,
              List.drop_of_length_le (by omega),
              List.nil_append]
          have hLater : LineAt (written wire)
              (offset - w.line.length) line :=
            { span := by
                rw [← hDrop]
                exact hLine.span
              isPrefix := by
                rw [← hDrop]
                exact hLine.isPrefix }
          rcases ih hLater with ⟨v, hAt, hSame⟩
          exact ⟨v, by rwa [List.getElem?_cons_succ], hSame⟩

end App

------------------------------------------------------------
-- When a Request Is Made
------------------------------------------------------------

namespace App

variable {moment : Nat → Moment}
variable {j j' : Journal}

/-
  The request tells the position that the RMC frame had
  after so many of the lines.
-/
def ToldAfter
    (lines : List (List UInt8))
    (request : List UInt8)
    (count : Nat) : Prop :=
  ∃ p seen,
    coordinates (rmcAfter Parser.init.info.rmc
        (lines.take count)) = some p ∧
      serverReading request = some seen ∧
      seen.position = p.printed

/-
  The requests of a journal, each with the number of lines
  that were handed over by then.
-/
structure Dated
    (j : Journal)
    (dated : List (List UInt8 × Nat)) : Prop where
  requests : dated.map Prod.fst = j.requests
  sorted : (dated.map Prod.snd).Pairwise (· ≤ ·)
  before : ∀ entry ∈ dated,
    entry.2 ≤ j.tracker.handed.length
  told : ∀ entry ∈ dated,
    ToldAfter j.tracker.handed entry.1 entry.2

variable {dated : List (List UInt8 × Nat)}

/- Lines that come later change nothing. -/
theorem Dated.handed
    (hDated : Dated j dated)
    (hRequests : j'.requests = j.requests)
    {lines : List (List UInt8)}
    (hHanded : j'.tracker.handed =
      j.tracker.handed ++ lines) :
    Dated j' dated := by
  refine
    { requests := hDated.requests.trans hRequests.symm
      sorted := hDated.sorted
      before := ?_
      told := ?_ }
  · intro entry hMem
    have hBefore := hDated.before entry hMem
    rw [hHanded, List.length_append]
    omega
  · intro entry hMem
    have hTold := hDated.told entry hMem
    unfold ToldAfter at hTold ⊢
    rwa [hHanded, List.take_append_of_le_length
      (hDated.before entry hMem)]

theorem Dated.same
    (hDated : Dated j dated)
    (hRequests : j'.requests = j.requests)
    (hHanded : j'.tracker.handed = j.tracker.handed) :
    Dated j' dated :=
  hDated.handed hRequests
    (hHanded.trans (List.append_nil _).symm)

/- A request is dated with all lines handed over. -/
theorem Dated.post
    (hDated : Dated j dated)
    (hHanded : j'.tracker.handed = j.tracker.handed)
    {request : List UInt8}
    (hRequests : j'.requests = j.requests ++ [request])
    (hTold : ToldAfter j.tracker.handed request
      j.tracker.handed.length) :
    Dated j'
      (dated ++ [(request, j.tracker.handed.length)]) := by
  refine
    { requests := ?_
      sorted := ?_
      before := ?_
      told := ?_ }
  · rw [List.map_append, hDated.requests, hRequests]
    rfl
  · rw [List.map_append, List.pairwise_append]
    refine ⟨hDated.sorted, List.pairwise_singleton _ _, ?_⟩
    intro count hMem last hLast
    rcases List.mem_map.mp hMem with ⟨entry, hEntry, rfl⟩
    rw [List.mem_singleton.mp hLast]
    exact hDated.before entry hEntry
  · intro entry hMem
    rw [hHanded]
    rcases List.mem_append.mp hMem with hOld | hNew
    · exact hDated.before entry hOld
    · rw [List.mem_singleton.mp hNew]
  · intro entry hMem
    rw [hHanded]
    rcases List.mem_append.mp hMem with hOld | hNew
    · exact hDated.told entry hOld
    · rw [List.mem_singleton.mp hNew]
      exact hTold

theorem Dated.report
    (hDated : Dated j dated)
    (hHolds : j.tracker.HoldsRmc)
    (hRange : j.tracker.info.rmc.InRange)
    {status : UInt8}
    {t : Tracker}
    (hStep : App.step j.tracker (.report status) = some t)
    (hHanded : t.handed = j.tracker.handed) :
    ∃ dated', Dated
      { j.enter moment (.report status) with
        tracker := t } dated' := by
  rcases report_cases hStep with ⟨_, _, hPosted⟩
  generalize hMoment : moment j.rounds.length = m
  have hHeld (hNone : j.tracker.postedIn m status = none) :
      ∃ dated', Dated
        { j.enter moment (.report status) with
          tracker := t } dated' := by
    refine ⟨dated, hDated.same ?_ hHanded⟩
    show j.requests ++ _ = j.requests
    rw [hMoment, hNone]
    exact List.append_nil _
  rcases hPosted m with
    ⟨_, hNone⟩ | ⟨p, hPosition, _, _, hSome⟩
  · exact hHeld hNone
  by_cases hSends : m.sends = true
  · rw [if_pos hSends] at hSome
    have hFits := @requestText_fits _ j.tracker.info _
      m.hRoom _ hRange hPosition
    have hTold : ToldAfter j.tracker.handed
        (posted m.device j.tracker.info p m.buffer2 m.temp)
        j.tracker.handed.length := by
      refine ⟨p, reading m.device j.tracker.info p, ?_,
        serverReading_posted m.hBuffer m.hTemp hFits, rfl⟩
      rw [List.take_length, ← hHolds]
      exact hPosition
    refine ⟨_, hDated.post hHanded ?_ hTold⟩
    show j.requests ++ _ = _
    rw [hMoment, hSome]
    rfl
  · rw [if_neg hSends] at hSome
    exact hHeld hSome

theorem Dated.step
    (hDated : Dated j dated)
    (hHolds : j.tracker.HoldsRmc)
    (hRange : j.tracker.info.rmc.InRange)
    {event : Event}
    (hStep : j.step moment event = some j') :
    ∃ dated', Dated j' dated' := by
  rcases Option.map_eq_some_iff.mp hStep with ⟨t, hNext, rfl⟩
  cases effect_of_step hNext with
  | quiet _ hHanded _ hNone =>
      rw [j.enter_of_no_status moment hNone]
      exact ⟨dated, hDated.same rfl hHanded⟩
  | handed line flag _ hHanded _ hNone =>
      rw [j.enter_of_no_status moment hNone]
      exact ⟨dated, hDated.handed rfl hHanded⟩
  | reported r _ hHanded _ hStatus =>
      cases event with
      | report status =>
          exact hDated.report hHolds hRange hNext hHanded
      | _ => cases hStatus

/- The requests of a whole run have their dates. -/
theorem dated_of_journal
    {events : List Event}
    (hJournal : journal moment events = some j) :
    ∃ dated, Dated j dated := by
  induction events using List.reverseRecOn generalizing j with
  | nil =>
      cases hJournal
      exact ⟨[],
        { requests := rfl
          sorted := .nil
          before := fun _ hMem => by cases hMem
          told := fun _ hMem => by cases hMem }⟩
  | append_singleton events event ih =>
      rw [journal_append_singleton] at hJournal
      rcases Option.bind_eq_some_iff.mp hJournal with
        ⟨before, hBefore, hStep⟩
      have hRun := journal_tracker moment events
      rw [hBefore, Option.map_some] at hRun
      rcases ih hBefore with ⟨dated, hDated⟩
      exact hDated.step (holdsRmc_of_run hRun.symm)
        (tells_of_journal hBefore).range hStep

end App

------------------------------------------------------------
-- The Latest RMC Line
------------------------------------------------------------

namespace App

variable {lines : List (List UInt8)}
variable {count i : Nat}

/- The latest RMC line of so many lines is this one. -/
structure LatestRmc
    (lines : List (List UInt8))
    (count i : Nat)
    (line : List UInt8) : Prop where
  before : i < count
  at_i : lines[i]? = some line
  isRmc : isRmc line = true
  latest : ∀ k other, i < k → k < count →
    lines[k]? = some other → App.isRmc other = false

theorem LatestRmc.le
    {count' i' : Nat}
    {line line' : List UInt8}
    (hLatest : LatestRmc lines count i line)
    (hLatest' : LatestRmc lines count' i' line')
    (hLe : count ≤ count') :
    i ≤ i' := by
  by_contra hLess
  have hBefore := hLatest.before
  have hNot := hLatest'.latest i line (by omega) (by omega)
    hLatest.at_i
  rw [hLatest.isRmc] at hNot
  cases hNot

/- A list without RMC lines, or split at the latest one. -/
theorem rmc_free_or_split
    (lines : List (List UInt8)) :
    (∀ line ∈ lines, isRmc line = false) ∨
      ∃ before line after,
        lines = before ++ line :: after ∧
          isRmc line = true ∧
          ∀ other ∈ after, isRmc other = false := by
  induction lines with
  | nil => exact .inl fun _ hMem => by cases hMem
  | cons first lines ih =>
      rcases ih with hFree | ⟨before, line, after, rfl, hSplit⟩
      · cases hFirst : isRmc first with
        | true => exact .inr ⟨[], first, lines, rfl, hFirst,
            hFree⟩
        | false =>
            exact .inl (List.forall_mem_cons.mpr
              ⟨hFirst, hFree⟩)
      · exact .inr ⟨first :: before, line, after, rfl, hSplit⟩

/- Coordinates that can be divided come from an RMC line. -/
theorem exists_latestRmc
    {p : Position}
    (hPosition : coordinates (rmcAfter Parser.init.info.rmc
      (lines.take count)) = some p) :
    ∃ i line,
      LatestRmc lines count i line ∧
        ∀ r talker,
          line = Record.line talker (.rmc r) →
            Minmea.Short line →
            r.fix.map ofFix = some p := by
  rcases rmc_free_or_split (lines.take count) with
    hFree | ⟨before, line, after, hSplit, hIs, hAfter⟩
  · rw [rmcAfter_of_not_isRmc _ hFree] at hPosition
    cases hPosition
  · have hLength := congrArg List.length hSplit
    rw [List.length_take, List.length_append,
      List.length_cons] at hLength
    refine ⟨before.length, line,
      { before := by omega
        at_i := ?_
        isRmc := hIs
        latest := ?_ }, ?_⟩
    · rw [← List.getElem?_take_of_lt
        (show before.length < count by omega), hSplit,
        List.getElem?_append_right (Nat.le_refl _),
        Nat.sub_self]
      rfl
    · intro k other hBehind hBefore hAt
      rw [← List.getElem?_take_of_lt hBefore, hSplit,
        List.getElem?_append_right (by omega),
        show k - before.length =
          (k - before.length - 1) + 1 by omega,
        List.getElem?_cons_succ] at hAt
      exact hAfter other (List.mem_of_getElem? hAt)
    · rintro r talker rfl hShort
      rw [rmcAfter_of_latestRecord
        ⟨before, talker, after, hSplit, hShort, hAfter⟩]
        at hPosition
      rw [← coordinates_frame]
      exact hPosition

end App

------------------------------------------------------------
-- The Track
------------------------------------------------------------

namespace App

/-
  The request tells the server the fix of this line, up to
  half a unit of the last decimal.
-/
def TellsLine
    (wire : List Written)
    (request : List UInt8)
    (number : Nat) : Prop :=
  ∃ w r p seen,
    wire[number]? = some w ∧
      w.record = some r ∧
      r.fix = some p ∧
      serverReading request = some seen ∧
      seen.position.Within (ofFix p) (1 / 2 / 10 ^ 6)

/-
  The requests, each with the number of the line that it
  tells, in the order in which the lines were written.
-/
structure IsTrack
    (wire : List Written)
    (requests : List (List UInt8))
    (track : List (List UInt8 × Nat)) : Prop where
  requests_eq : track.map Prod.fst = requests
  inOrder : (track.map Prod.snd).Pairwise (· ≤ ·)
  told : ∀ entry ∈ track, TellsLine wire entry.1 entry.2

variable {wire : List Written}
variable {stream : List UInt8}
variable {offsets : List Nat}
variable {t : Tracker}

/- A line handed over is the written line at its offset. -/
theorem InStream.exists_written
    (hInStream : InStream stream offsets t)
    (hWire : stream <+: written wire)
    {i : Nat}
    {line : List UInt8}
    (hAt : t.handed[i]? = some line) :
    ∃ offset w, offsets[i]? = some offset ∧
      wire[lineIndex wire offset]? = some w ∧
      w.line = line := by
  have hLength := hInStream.lines.length_eq
  rcases List.getElem?_eq_some_iff.mp hAt with ⟨hIn, rfl⟩
  have hLine := hInStream.lines.get (hLength ▸ hIn) hIn
  have hPart : stream <+: (written wire).drop 0 := hWire
  have hWritten := hLine.of_part hPart
  rw [Nat.zero_add] at hWritten
  rcases App.exists_written hWritten with ⟨w, hNumber, hSame⟩
  exact ⟨_, w, List.getElem?_eq_getElem _, hNumber, hSame⟩

/- Later lines have later numbers. -/
theorem InStream.lineIndex_le
    (hInStream : InStream stream offsets t)
    {i k a b : Nat}
    (hLe : i ≤ k)
    (hFirst : offsets[i]? = some a)
    (hSecond : offsets[k]? = some b) :
    lineIndex wire a ≤ lineIndex wire b := by
  apply lineIndex_mono
  rcases List.getElem?_eq_some_iff.mp hFirst with ⟨_, rfl⟩
  rcases List.getElem?_eq_some_iff.mp hSecond with ⟨_, rfl⟩
  rcases hLe.eq_or_lt with rfl | hLess
  · exact Nat.le_refl _
  · exact List.pairwise_iff_getElem.mp hInStream.sorted i k _ _
      hLess

/- The line that a dated request tells. -/
theorem exists_tellsLine
    (hInStream : InStream stream offsets t)
    (hWire : stream <+: written wire)
    {request : List UInt8}
    {count : Nat}
    (hTold : ToldAfter t.handed request count) :
    ∃ i line offset,
      LatestRmc t.handed count i line ∧
        offsets[i]? = some offset ∧
        TellsLine wire request (lineIndex wire offset) := by
  rcases hTold with ⟨p, seen, hPosition, hRead, hSeen⟩
  rcases exists_latestRmc hPosition with
    ⟨i, line, hLatest, hFix⟩
  rcases hInStream.exists_written hWire hLatest.at_i with
    ⟨offset, w, hOffset, hNumber, rfl⟩
  refine ⟨i, w.line, offset, hLatest, hOffset, ?_⟩
  cases hRecord : w.record with
  | none =>
      have hNot := w.isOther hRecord
      rw [hLatest.isRmc] at hNot
      cases hNot
  | some r =>
      rcases w.isRecord r hRecord with
        ⟨hShort, talker, hLine⟩
      rcases Option.map_eq_some_iff.mp
        (hFix r talker hLine hShort) with ⟨fix, hSome, rfl⟩
      refine ⟨w, r, fix, seen, hNumber, hRecord, hSome, hRead,
        ?_⟩
      rw [hSeen]
      exact Position.printed_within _

theorem exists_track
    {j : Journal}
    (hInStream : InStream stream offsets j.tracker)
    (hWire : stream <+: written wire)
    {dated : List (List UInt8 × Nat)}
    (hDated : Dated j dated) :
    ∃ track, IsTrack wire j.requests track := by
  have hLines : ∀ entry, entry ∈ dated →
      ∃ number, TellsLine wire entry.1 number ∧
        ∃ i line offset,
          LatestRmc j.tracker.handed entry.2 i line ∧
            offsets[i]? = some offset ∧
            number = lineIndex wire offset := by
    intro entry hMem
    rcases exists_tellsLine hInStream hWire
      (hDated.told entry hMem) with
      ⟨i, line, offset, hLatest, hOffset, hTells⟩
    exact ⟨_, hTells, i, line, offset, hLatest, hOffset, rfl⟩
  choose! number hTells hNumber using hLines
  refine ⟨dated.map fun entry => (entry.1, number entry),
    { requests_eq := ?_
      inOrder := ?_
      told := ?_ }⟩
  · rw [List.map_map]
    exact hDated.requests
  · have hSorted := List.pairwise_map.mp hDated.sorted
    rw [List.map_map, List.pairwise_map]
    refine hSorted.imp_of_mem ?_
    intro first second hFirst hSecond hLe
    rcases hNumber first hFirst with
      ⟨i, line, a, hLatest, hOffset, hEq⟩
    rcases hNumber second hSecond with
      ⟨k, line', b, hLatest', hOffset', hEq'⟩
    show number first ≤ number second
    rw [hEq, hEq']
    exact hInStream.lineIndex_le (hLatest.le hLatest' hLe)
      hOffset hOffset'
  · intro entry hMem
    rcases List.mem_map.mp hMem with ⟨request, hRequest, rfl⟩
    exact hTells request hRequest

/-
  From the receiver to the server: in any run in which the
  buffer takes what arrives, and what arrives is what the
  receiver writes, the requests tell fixes of its records,
  in the order in which it wrote them.
-/
theorem server_follows_receiver
    (moment : Nat → Moment)
    {events : List Event}
    (hRun : run events = some t)
    (hTaken : Taken events)
    (hWire : arrived events <+: written wire) :
    ∃ j track,
      journal moment events = some j ∧ j.tracker = t ∧
        IsTrack wire j.requests track := by
  have hTracker := journal_tracker moment events
  rw [hRun] at hTracker
  rcases Option.map_eq_some_iff.mp hTracker with
    ⟨j, hJournal, rfl⟩
  rcases inStream_of_run hRun hTaken with ⟨offsets, hInStream⟩
  rcases dated_of_journal hJournal with ⟨dated, hDated⟩
  rcases exists_track hInStream hWire hDated with
    ⟨track, hTrack⟩
  exact ⟨j, track, hJournal, rfl, hTrack⟩

theorem dollar_notMem_northFix :
    byte '$' ∉ (Record.line gp (.rmc northFix)).tail := by
  decide +kernel

theorem dollar_notMem_vtg :
    byte '$' ∉ (ascii "$GPVTG\r\n").tail := by
  decide +kernel

theorem completeSentence_vtg :
    CompleteSentence (ascii "$GPVTG\r\n") :=
  ⟨by decide +kernel, by decide⟩

theorem not_isRmc_vtg :
    isRmc (ascii "$GPVTG\r\n") = false := by
  decide +kernel

/- The RMC line of `northRun` and the VTG line behind it. -/
def northWire : List Written :=
  [ { line := Record.line gp (.rmc northFix)
      record := some northFix
      complete := completeSentence_line gp (.rmc northFix)
      dollar := dollar_notMem_northFix
      isRecord := fun r hSome => by
        cases hSome
        exact ⟨short_northFix, gp, rfl⟩
      isOther := fun hNone => by cases hNone },
    { line := ascii "$GPVTG\r\n"
      record := none
      complete := completeSentence_vtg
      dollar := dollar_notMem_vtg
      isRecord := fun _ hSome => by cases hSome
      isOther := fun _ => not_isRmc_vtg } ]

theorem server_follows_receiver_northRun :
    ∃ j track,
      journal (fun _ => sampleMoment)
        (northRun ++ [.report 1]) = some j ∧
      j.requests.length = 1 ∧
      IsTrack northWire j.requests track := by
  have hEnd : (run (northRun ++ [.report 1])).isSome := by
    decide +kernel
  rcases Option.isSome_iff_exists.mp hEnd with ⟨t, hRun⟩
  have hTaken : Taken (northRun ++ [.report 1]) :=
    taken_of_first
      (by unfold Tracker.HasRoom; decide +kernel)
      (by decide)
  have hWire : arrived (northRun ++ [.report 1]) <+:
      written northWire := by
    decide +kernel
  rcases server_follows_receiver (fun _ => sampleMoment) hRun
    hTaken hWire with ⟨j, track, hJournal, _, hTrack⟩
  have hRequests : (journal (fun _ => sampleMoment)
      (northRun ++ [.report 1])).map (fun j =>
        j.requests.length) = some 1 := by
    decide +kernel
  rw [hJournal, Option.map_some, Option.some.injEq]
    at hRequests
  exact ⟨j, track, hJournal, hRequests, hTrack⟩

end App
