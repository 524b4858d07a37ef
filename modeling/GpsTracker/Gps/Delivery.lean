import GpsTracker.Gps.Frames

/-
  Streams that arrive in chunks, with no command in flight.

  A run is a sequence of calls of `GPS_Update`, each of which
  returns. If no chunk is refused, the run takes out of the
  buffer what the frame loop takes out of the whole stream.

  Main declarations:
    * `Gps.Delivers`
    * `Gps.Delivered`, `Gps.delivered_of_delivers`
    * `Gps.delivers_chunking_irrelevant`
-/

open CString Machine ListSearch

------------------------------------------------------------
-- Runs
------------------------------------------------------------

namespace Gps

/-
  One call of `GPS_Update` for each chunk: what each of the
  calls returned with, and the state after the last one.
-/
inductive Delivers :
    State → List (List UInt8) → List UpdateState →
      State → Prop where
  | nil
      {s : State} :
      Delivers s [] [] s
  | cons
      {s last : State}
      {chunk : List UInt8}
      {chunks : List (List UInt8)}
      {result : UpdateState}
      {results : List UpdateState}
      (hIdle : s.semCmdSending = false)
      (hUpdates : Updates false s chunk result)
      (hLater : Delivers result.gps chunks results last) :
      Delivers s (chunk :: chunks) (result :: results) last

/- The bytes that the calls of a run handed to `GPS_Parse`. -/
def parsedBy
    (results : List UpdateState) : List (List UInt8) :=
  results.flatMap (·.parsed)

/- Every chunk is shorter than the buffer. -/
def Short (chunks : List (List UInt8)) : Prop :=
  ∀ chunk ∈ chunks, chunk.length < dataBufferMaxLength

/- No `Buffer_Puts` was refused. -/
def Accepted (results : List UpdateState) : Prop :=
  ∀ result ∈ results, result.ret = true

/-
  The bytes of a chunk that `Buffer_Puts` is asked to take:
  its length is a `uint16_t`.
-/
def offered (chunk : List UInt8) : List UInt8 :=
  chunk.take (u16 chunk.length)

/- What a run has done to the stream it was given. -/
structure Delivered
    (s last : State)
    (stream : List UInt8)
    (taken : List (List UInt8)) : Prop where
  parsed : taken = frameSegmenter.segments (s.live ++ stream)
  live : last.live = frameSegmenter.rest (s.live ++ stream)
  parser : last.parser = taken.foldl parseFrame s.parser

theorem received_of_accepted
    {s : State}
    {chunk : List UInt8}
    (hAccepted : (updateStart s chunk).ret = true) :
    received s.live chunk = s.live ++ offered chunk := by
  have hRoom :
      s.live.length + u16 chunk.length <
        dataBufferMaxLength :=
    (s.gpsNmeaBuffer.puts_accepted_iff chunk
      (u16 chunk.length)).mp hAccepted
  rw [received, if_pos hRoom, offered]

theorem offered_of_short
    {chunk : List UInt8}
    (hShort : chunk.length < dataBufferMaxLength) :
    offered chunk = chunk := by
  rw [offered, u16_length_of_short hShort, List.take_length]

/- Chunks shorter than the buffer are offered whole. -/
theorem flatten_offered
    {chunks : List (List UInt8)}
    (hShort : Short chunks) :
    (chunks.map offered).flatten = chunks.flatten := by
  have hWhole : ∀ chunk ∈ chunks, offered chunk = chunk :=
    fun chunk hMem => offered_of_short (hShort chunk hMem)
  rw [List.map_congr_left hWhole, List.map_id']

/- One call, seen on the queue. -/
theorem delivered_of_updates
    {s : State}
    (hIdle : s.semCmdSending = false)
    {chunk : List UInt8}
    {result : UpdateState}
    (hUpdates : Updates false s chunk result)
    (hAccepted : result.ret = true) :
    Delivered s result.gps (offered chunk)
      result.parsed := by
  rcases extracted_of_updates hIdle hUpdates with
    ⟨hExtracted, _⟩
  rw [hExtracted.ret] at hAccepted
  have hLive :
      (updateStart s chunk).gps.live =
        s.live ++ offered chunk := by
    rw [live_updateStart, received_of_accepted hAccepted]
  have hParsed : result.parsed =
      frameSegmenter.segments
        (s.live ++ offered chunk) := by
    rw [hExtracted.parsed, hLive]
    rfl
  exact
    { parsed := hParsed
      live := by rw [hExtracted.live, hLive]
      parser := by
        rw [hExtracted.parser, hParsed, hLive]
        rfl }

/-
  A run does to the stream what the frame loop does to it in
  one piece.
-/
theorem delivered_of_delivers
    {s last : State}
    {chunks : List (List UInt8)}
    {results : List UpdateState}
    (hRun : Delivers s chunks results last)
    (hAccepted : Accepted results)
    (hStart :
      chunks = [] → frameSegmenter.cut s.live = none) :
    Delivered s last (chunks.map offered).flatten
      (parsedBy results) := by
  have hSplit :
      (parsedBy results, last.live) =
          frameSegmenter.splitChunks s.live
            (chunks.map offered) ∧
        last.parser =
          (parsedBy results).foldl parseFrame s.parser := by
    clear hStart
    induction hRun with
    | nil => exact ⟨rfl, rfl⟩
    | cons hIdle hUpdates _ ih =>
        have hFirst := delivered_of_updates hIdle hUpdates
          (hAccepted _ List.mem_cons_self)
        rcases ih fun result hMem => hAccepted result
            (List.mem_cons_of_mem _ hMem) with
          ⟨hLater, hParser⟩
        rw [hFirst.live] at hLater
        constructor
        · rw [List.map_cons, Segmenter.splitChunks, ← hLater,
            ← hFirst.parsed]
          rfl
        · rw [hParser, hFirst.parser, ← List.foldl_append]
          rfl
  rcases hSplit with ⟨hSplit, hParser⟩
  rw [Segmenter.splitChunks_eq_split
    (fun hNil => hStart (List.map_eq_nil_iff.mp hNil))]
    at hSplit
  exact
    { parsed := congrArg Prod.fst hSplit
      live := congrArg Prod.snd hSplit
      parser := hParser }

/- After a call that returned no "VTG" is left. -/
theorem no_vtg_of_delivers
    {s last : State}
    {chunks : List (List UInt8)}
    {results : List UpdateState}
    (hRun : Delivers s chunks results last)
    (hStart : ¬ Occurs (ascii "VTG") s.live) :
    ¬ Occurs (ascii "VTG") last.live := by
  induction hRun with
  | nil => exact hStart
  | cons hIdle hUpdates _ ih =>
      exact ih (extracted_of_updates hIdle hUpdates).2

theorem idle_of_delivers
    {s last : State}
    {chunks : List (List UInt8)}
    {results : List UpdateState}
    (hRun : Delivers s chunks results last)
    (hStart : s.semCmdSending = false) :
    last.semCmdSending = false := by
  induction hRun with
  | nil => exact hStart
  | cons hIdle hUpdates _ ih =>
      apply ih
      exact (extracted_of_updates hIdle
        hUpdates).1.semCmdSending.trans hIdle

theorem no_vtg_boot :
    ¬ Occurs (ascii "VTG") boot.live := by
  rw [live_boot, ← find_eq_none_iff]
  decide

/- Any number of the same byte. -/
theorem not_occurs_vtg_noise
    (noise : Nat) :
    ¬ Occurs (ascii "VTG")
      (List.replicate noise (byte 'x')) := by
  intro hOccurs
  rcases hOccurs with ⟨i, hAt⟩
  have hMem := List.mem_of_mem_drop
    (hAt.subset (List.mem_cons_self (a := byte 'V')))
  exact absurd (List.eq_of_mem_replicate hMem) (by decide)

theorem cut_eq_none_of_no_vtg
    {live : List UInt8}
    (hVtg : ¬ Occurs (ascii "VTG") live) :
    frameSegmenter.cut live = none := by
  rw [← find_eq_none_iff] at hVtg
  simp [cut_frameSegmenter, frameCut, vtgLineEnd, hVtg]

end Gps

------------------------------------------------------------
-- Runs That Return
------------------------------------------------------------

namespace Gps

/- Each chunk fits, and none ends inside a VTG line. -/
def Deliverable :
    List UInt8 → List (List UInt8) → Prop
| _, [] => True
| live, chunk :: chunks =>
    (live ++ chunk).length < dataBufferMaxLength ∧
      VtgTerminated (live ++ chunk) ∧
      Deliverable (frameSegmenter.rest (live ++ chunk)) chunks

theorem exists_delivers
    {s : State}
    (hIdle : s.semCmdSending = false)
    {chunks : List (List UInt8)}
    (hChunks : Deliverable s.live chunks) :
    ∃ results last,
      Delivers s chunks results last ∧ Accepted results := by
  induction chunks generalizing s with
  | nil => exact ⟨[], s, .nil, fun _ hMem => by cases hMem⟩
  | cons chunk chunks ih =>
      rcases hChunks with ⟨hFits, hEnds, hLater⟩
      have hAccepted := ret_updateStart_of_fits hFits
      have hLive := live_updateStart_of_fits hFits
      rw [vtgTerminated_iff_rest, ← hLive] at hEnds
      rcases returns_updateBody hEnds with
        ⟨result, hReturns, hExtracted⟩
      rw [← hLive, ← hExtracted.live] at hLater
      rcases ih (hExtracted.semCmdSending.trans hIdle)
          hLater with ⟨results, last, hRun, hRets⟩
      refine ⟨result :: results, last,
        .cons hIdle ((updates_iff_returns hIdle).mpr hReturns)
          hRun, ?_⟩
      intro result' hMem
      rcases List.mem_cons.mp hMem with rfl | hMem
      · exact hExtracted.ret.trans hAccepted
      · exact hRets result' hMem

/- Chunks that have room are accepted in every run. -/
theorem accepted_of_deliverable
    {s last : State}
    {chunks : List (List UInt8)}
    {results : List UpdateState}
    (hRun : Delivers s chunks results last)
    (hChunks : Deliverable s.live chunks) :
    Accepted results ∧ Short chunks := by
  induction hRun with
  | nil => exact ⟨List.forall_mem_nil _, List.forall_mem_nil _⟩
  | cons hIdle hUpdates _ ih =>
      rcases hChunks with ⟨hFits, _, hRest⟩
      rcases extracted_of_updates hIdle hUpdates with
        ⟨hExtracted, _⟩
      rw [← live_updateStart_of_fits hFits,
        ← hExtracted.live] at hRest
      rcases ih hRest with ⟨hAccepted, hShort⟩
      refine ⟨List.forall_mem_cons.mpr ⟨?_, hAccepted⟩,
        List.forall_mem_cons.mpr ⟨?_, hShort⟩⟩
      · exact hExtracted.ret.trans
          (ret_updateStart_of_fits hFits)
      · rw [List.length_append] at hFits
        omega

theorem deliverable_vtg_line :
    Deliverable boot.live [ascii "$GPVTG\r\n"] := by
  rw [live_boot]
  refine ⟨by decide, ?_, trivial⟩
  rw [vtgTerminated_iff_rest,
    Segmenter.rest_of_cut_some (n := 8) (by decide),
    Segmenter.rest_of_cut_none (by decide),
    ← find_eq_none_iff]
  decide

end Gps

------------------------------------------------------------
-- Chunking
------------------------------------------------------------

namespace Gps

/-
  Two runs over one stream from one state hand the same
  bytes to `GPS_Parse` and end in the same queue and parser.
  A call leaves no "VTG" behind, so only a run that makes no
  call at all could differ from one that makes some.
-/
theorem delivers_chunking_irrelevant
    {s last₁ last₂ : State}
    {chunks₁ chunks₂ : List (List UInt8)}
    {results₁ results₂ : List UpdateState}
    (hRun₁ : Delivers s chunks₁ results₁ last₁)
    (hRun₂ : Delivers s chunks₂ results₂ last₂)
    (hStream : chunks₁.flatten = chunks₂.flatten)
    (hShort₁ : Short chunks₁)
    (hShort₂ : Short chunks₂)
    (hAccepted₁ : Accepted results₁)
    (hAccepted₂ : Accepted results₂)
    (hCalls : (chunks₁ = [] ↔ chunks₂ = []) ∨
      ¬ Occurs (ascii "VTG") s.live) :
    parsedBy results₁ = parsedBy results₂ ∧
      last₁.live = last₂.live ∧
      last₁.parser = last₂.parser := by
  by_cases hNone : chunks₁ = [] ∧ chunks₂ = []
  · rcases hNone with ⟨rfl, rfl⟩
    cases hRun₁
    cases hRun₂
    exact ⟨rfl, rfl, rfl⟩
  · have hStart (chunks : List (List UInt8))
        (hEither : chunks = chunks₁ ∨ chunks = chunks₂)
        (hNil : chunks = []) :
        frameSegmenter.cut s.live = none := by
      rcases hCalls with hBoth | hVtg
      · exfalso
        rcases hEither with rfl | rfl
        · exact hNone ⟨hNil, hBoth.mp hNil⟩
        · exact hNone ⟨hBoth.mpr hNil, hNil⟩
      · exact cut_eq_none_of_no_vtg hVtg
    have hFirst := delivered_of_delivers hRun₁ hAccepted₁
      (hStart chunks₁ (Or.inl rfl))
    have hSecond := delivered_of_delivers hRun₂ hAccepted₂
      (hStart chunks₂ (Or.inr rfl))
    rw [flatten_offered hShort₁] at hFirst
    rw [flatten_offered hShort₂] at hSecond
    have hParsed : parsedBy results₁ = parsedBy results₂ := by
      rw [hFirst.parsed, hSecond.parsed, hStream]
    refine ⟨hParsed, ?_, ?_⟩
    · rw [hFirst.live, hSecond.live, hStream]
    · rw [hFirst.parser, hSecond.parser, hParsed]

/- A VTG line in one chunk, and cut inside its "VTG". -/
theorem delivers_chunking_irrelevant_vtg_line :
    ∃ results₁ results₂ last₁ last₂,
      Delivers boot [ascii "$GPVTG\r\n"] results₁ last₁ ∧
        Delivers boot [ascii "$GPV", ascii "TG\r\n"]
          results₂ last₂ ∧
        parsedBy results₁ = parsedBy results₂ ∧
        last₁.live = last₂.live ∧
        last₁.parser = last₂.parser := by
  have hParts : Deliverable boot.live
      [ascii "$GPV", ascii "TG\r\n"] := by
    rw [live_boot]
    refine ⟨by decide, ?_, ?_⟩
    · rw [vtgTerminated_iff_rest,
        Segmenter.rest_of_cut_none (by decide),
        ← find_eq_none_iff]
      decide
    · rw [Segmenter.rest_of_cut_none (by decide)]
      refine ⟨by decide, ?_, trivial⟩
      rw [vtgTerminated_iff_rest,
        Segmenter.rest_of_cut_some (n := 8) (by decide),
        Segmenter.rest_of_cut_none (by decide),
        ← find_eq_none_iff]
      decide
  rcases exists_delivers rfl deliverable_vtg_line with
    ⟨results₁, last₁, hRun₁, hAccepted₁⟩
  rcases exists_delivers rfl hParts with
    ⟨results₂, last₂, hRun₂, hAccepted₂⟩
  refine ⟨results₁, results₂, last₁, last₂, hRun₁, hRun₂, ?_⟩
  exact delivers_chunking_irrelevant hRun₁ hRun₂ (by decide)
    (by unfold Short; decide) (by unfold Short; decide)
    hAccepted₁ hAccepted₂ (Or.inl (by simp))

end Gps
