import GpsTracker.Gps.Delivery
import GpsTracker.Gps.FrameSlots
import GpsTracker.Minmea.Records

/-
  What a receiver writes is what the parser holds.

  A receiver reports in bursts: some records and a VTG
  record at the end, which closes the frame. The bursts may
  arrive in any chunks for which there is room and that do
  not end inside a VTG line. Then every call returns, the
  frames are the bursts, and `g_gps_info` holds the values
  of the records, in the order in which they were written.

  Main declarations:
    * `Gps.Parser.report`, `Gps.parseOneNmea_line`
    * `Gps.Burst`, `Gps.Burst.apply`
    * `Gps.parseFrame_burst`
    * `Gps.bursts_received`
-/

open CString ListSearch Minmea

------------------------------------------------------------
-- One Record
------------------------------------------------------------

namespace Gps

/-
  A record is stored in its place: the only one of its type,
  or the next free slot of the frame.
-/
def Parser.report (p : Parser) : Record → Parser
| .rmc r => { p with info := { p.info with rmc := r.frame } }
| .gga r => { p with info := { p.info with gga := r.frame } }
| .gst r => { p with info := { p.info with gst := r.frame } }
| .vtg r => { p with info := { p.info with vtg := r.frame } }
| .zda r => { p with info := { p.info with zda := r.frame } }
| .gll r => { p with info := { p.info with gll := r.frame } }
| .gsv r =>
    if hSlot : p.gsvCount.toNat < maxGsvNumber then
      { p with
        gsvCount := p.gsvCount + 1
        info :=
          { p.info with
            gsv := p.info.gsv.set p.gsvCount.toNat r.frame } }
    else
      p
| .gsa r =>
    if hSlot : p.gsaCount.toNat < maxGsaNumber then
      { p with
        gsaCount := p.gsaCount + 1
        info :=
          { p.info with
            gsa := p.info.gsa.set p.gsaCount.toNat r.frame } }
    else
      p

theorem parseSentence_line
    (p : Parser)
    {talker : Talker}
    {r : Record}
    (hShort : Minmea.Short (r.line talker)) :
    (parseSentence p (r.line talker) r.id).2 = p.report r := by
  cases r with
  | rmc r =>
      simp only [parseSentence, Record.id, Parser.report,
        Record.line, Record.type, Record.fields,
        parseRmc_line hShort]
  | gga r =>
      simp only [parseSentence, Record.id, Parser.report,
        Record.line, Record.type, Record.fields,
        parseGga_line hShort]
  | gst r =>
      simp only [parseSentence, Record.id, Parser.report,
        Record.line, Record.type, Record.fields,
        parseGst_line hShort]
  | vtg r =>
      simp only [parseSentence, Record.id, Parser.report,
        Record.line, Record.type, Record.fields,
        parseVtg_line hShort]
  | zda r =>
      simp only [parseSentence, Record.id, Parser.report,
        Record.line, Record.type, Record.fields,
        parseZda_line hShort]
  | gll r =>
      simp only [parseSentence, Record.id, Parser.report,
        Record.line, Record.type, Record.fields,
        parseGll_line hShort]
  | gsv r =>
      unfold parseSentence Record.id Parser.report
      simp only
      split
      · simp only [Record.line, Record.type, Record.fields,
          parseGsv_line hShort]
      · rfl
  | gsa r =>
      unfold parseSentence Record.id Parser.report
      simp only
      split
      · simp only [Record.line, Record.type, Record.fields,
          parseGsa_line hShort]
      · rfl

/- `ParseOneNmea` of a written line. -/
theorem parseOneNmea_line
    (p : Parser)
    {talker : Talker}
    {r : Record}
    (hShort : Minmea.Short (r.line talker))
    (flag : UInt8) :
    parseOneNmea p (r.line talker) flag =
      (true, (p.enterFrame flag).report r) := by
  unfold parseOneNmea
  simp only
  rw [sentenceId_line hShort, parseSentence_line _ hShort]
  cases r <;> rfl

/- The letters of a GPS receiver. -/
def gp : Talker := ⟨⟨byte 'G', by decide⟩, ⟨byte 'P', by decide⟩⟩

/- A position in the south, with a course and no speed. -/
def southFix : RmcRecord :=
  { time := some ⟨8, 18, 36, 0, 0, by decide, by decide⟩
    isActive := true
    fix := some
      { latitude := ⟨false, 4, 2, 375165, by decide,
          by decide, by decide, by decide⟩
        isSouth := true
        longitude := ⟨false, 5, 2, 1450736, by decide,
          by decide, by decide, by decide⟩
        isWest := false }
    speed := none
    course := some ⟨false, 3, 1, 3600, by decide, by decide,
      by decide, by decide⟩
    date := some ⟨13, 9, 98⟩
    variation := none
    more := ⟨[], by simp⟩ }

example : Record.line gp (.rmc southFix) = ascii
    ("$GPRMC,081836,A,3751.65,S,14507.36,E,,360.0,130998" ++
      ",,*24\r\n") := by
  decide +kernel

theorem parseOneNmea_line_southFix :
    parseOneNmea Parser.init
        (Record.line gp (.rmc southFix)) 0 =
      (true, (Parser.init.enterFrame 0).report
        (.rmc southFix)) :=
  parseOneNmea_line Parser.init
    (by unfold Minmea.Short; decide +kernel) 0

end Gps

------------------------------------------------------------
-- Lines
------------------------------------------------------------

namespace Gps

/- A line begins with '$', and only its end is a newline. -/
theorem exists_line_eq
    (talker : Talker)
    (r : Record) :
    ∃ text, r.line talker = byte '$' :: (text ++ crlf) ∧
      (13 : UInt8) ∉ text ∧ (0 : UInt8) ∉ text := by
  have hClear {c : UInt8} (hc : isBody c = true) :
      (13 : UInt8) ≠ c ∧ (0 : UInt8) ≠ c := by
    constructor
    · rintro rfl
      exact absurd hc (by decide)
    · rintro rfl
      exact absurd hc (by decide)
  have hDigit (n : Nat) : (13 : UInt8) ≠ hexDigit n ∧
      (0 : UInt8) ≠ hexDigit n ∨ 16 ≤ n := by
    by_cases hn : n < 16
    · exact Or.inl (hClear (isBody_of_isDigit
        ((Numeral.isDigit_iff 16 _).mpr
          ⟨n, digit?_hexDigit hn, hn⟩)))
    · exact Or.inr (by omega)
  have hSum := (Xor.checksum
    (body talker r.type r.fields)).toNat_lt
  have hHigh := (hDigit ((Xor.checksum
    (body talker r.type r.fields)).toNat / 16)).resolve_right
      (by omega)
  have hLow := (hDigit ((Xor.checksum
    (body talker r.type r.fields)).toNat % 16)).resolve_right
      (by omega)
  refine ⟨body talker r.type r.fields ++ [byte '*',
    hexDigit ((Xor.checksum
      (body talker r.type r.fields)).toNat / 16),
    hexDigit ((Xor.checksum
      (body talker r.type r.fields)).toNat % 16)],
    ?_, ?_, ?_⟩
  · simp [Record.line, line]
  · rw [List.mem_append, not_or]
    refine ⟨fun hMem => (hClear
      (isBody_body r.plain 13 hMem)).1 rfl, ?_⟩
    simp only [List.mem_cons, List.not_mem_nil, or_false,
      not_or]
    exact ⟨by decide, hHigh.1, hLow.1⟩
  · rw [List.mem_append, not_or]
    refine ⟨fun hMem => (hClear
      (isBody_body r.plain 0 hMem)).2 rfl, ?_⟩
    simp only [List.mem_cons, List.not_mem_nil, or_false,
      not_or]
    exact ⟨by decide, hHigh.2, hLow.2⟩

theorem completeSentence_line
    (talker : Talker)
    (r : Record) :
    CompleteSentence (r.line talker) := by
  rcases exists_line_eq talker r with
    ⟨text, hLine, hReturn, hNul⟩
  have hOut : (13 : UInt8) ∉ byte '$' :: text := by
    rw [List.mem_cons, not_or]
    exact ⟨by decide, hReturn⟩
  have hEnd : find crlf ((byte '$' :: text) ++ crlf) =
      some (byte '$' :: text).length := by
    have hFind := @find_append_of_head_notMem UInt8 _ 13 [10]
      (byte '$' :: text) crlf hOut
    rw [show find [13, 10] crlf = some 0 by decide] at hFind
    exact hFind
  have hStart : find (ascii "$")
      (byte '$' :: (text ++ crlf)) = some 0 :=
    find_self_append (ascii "$") (text ++ crlf)
  refine ⟨?_, ?_⟩
  · rw [hLine]
    apply sentenceSpan_eq_some_iff.mpr
    refine ⟨hStart, text.length + 1, hEnd, ?_⟩
    simp only [List.length_cons, List.length_append, crlf,
      List.length_nil]
    omega
  · rw [hLine, List.mem_cons, List.mem_append, not_or, not_or]
    exact ⟨by decide, hNul, by decide⟩

end Gps

------------------------------------------------------------
-- Bursts
------------------------------------------------------------

namespace Gps

/-
  What a receiver writes at a time: records, and a VTG
  record behind them. The letters "VTG" stand in no other
  line, and the burst fits into a frame.
-/
structure Burst where
  reports : List (Talker × Record)
  talker : Talker
  vtg : VtgRecord
  hShort : ∀ report ∈ reports,
    Minmea.Short (report.2.line report.1)
  hShortVtg : Minmea.Short (Record.line talker (.vtg vtg))
  hNoVtg : ∀ report ∈ reports,
    ¬ Occurs (ascii "VTG") (report.2.line report.1)
  hFits : (reports.flatMap fun report =>
      report.2.line report.1).length +
    (Record.line talker (.vtg vtg)).length ≤
      nmeaFrameBufferLength

namespace Burst

def all (b : Burst) : List (Talker × Record) :=
  b.reports ++ [(b.talker, .vtg b.vtg)]

def lines (b : Burst) : List (List UInt8) :=
  b.all.map fun report => report.2.line report.1

def bytes (b : Burst) : List UInt8 :=
  b.lines.flatten

/- What the parser holds after the burst. -/
def apply (p : Parser) (b : Burst) : Parser :=
  let p := b.all.foldl
    (fun p report => (p.enterFrame p.flag).report report.2) p
  { p with flag := p.flag + 1 }

theorem short_of_mem
    (b : Burst)
    {report : Talker × Record}
    (hMem : report ∈ b.all) :
    Minmea.Short (report.2.line report.1) := by
  rw [all, List.mem_append, List.mem_singleton] at hMem
  rcases hMem with hMem | rfl
  · exact b.hShort report hMem
  · exact b.hShortVtg

theorem length_bytes_le
    (b : Burst) :
    b.bytes.length ≤ nmeaFrameBufferLength := by
  have hFits := b.hFits
  unfold bytes lines all
  rw [List.map_append, List.flatten_append,
    List.length_append, ← List.flatMap_def]
  simpa using hFits

end Burst

/- The VTG line ends the burst. -/
theorem vtgLineEnd_line
    (talker : Talker)
    (r : VtgRecord)
    (rest : List UInt8) :
    vtgLineEnd (Record.line talker (.vtg r) ++ rest) =
      some (Record.line talker (.vtg r)).length := by
  rcases exists_line_eq talker (.vtg r) with
    ⟨text, hLine, hReturn, _⟩
  have hOccurs : Occurs (ascii "VTG")
      (Record.line talker (.vtg r)) := by
    refine ⟨3, ?_⟩
    exact List.prefix_append (ascii "VTG") _
  rcases exists_find_of_occurs hOccurs with ⟨vtg, hVtg⟩
  have hFits := find_add_length_le (by decide) hVtg
  have hLength : (Record.line talker (.vtg r)).length =
      text.length + 3 := by
    rw [hLine]
    simp [crlf]
  have hInside : vtg ≤ (byte '$' :: text).length := by
    rw [hLength, show (ascii "VTG").length = 3 from rfl]
      at hFits
    rw [List.length_cons]
    omega
  have hOut : (13 : UInt8) ∉ (byte '$' :: text).drop vtg := by
    intro hMem
    have hAll := List.mem_of_mem_drop hMem
    rw [List.mem_cons] at hAll
    rcases hAll with hFirst | hText
    · exact absurd hFirst (by decide)
    · exact hReturn hText
  have hDrop : (Record.line talker (.vtg r) ++ rest).drop vtg =
      (byte '$' :: text).drop vtg ++ (crlf ++ rest) := by
    rw [hLine, ← List.cons_append, List.append_assoc,
      List.drop_append_of_le_length hInside]
  have hEnd : find crlf
      ((Record.line talker (.vtg r) ++ rest).drop vtg) =
        some ((byte '$' :: text).drop vtg).length := by
    rw [hDrop]
    have hFind := @find_append_of_head_notMem UInt8 _ 13 [10]
      ((byte '$' :: text).drop vtg) (crlf ++ rest) hOut
    rw [show find [13, 10] (crlf ++ rest) = some 0 from
      find_self_append crlf rest] at hFind
    exact hFind
  apply vtgLineEnd_eq_some_iff.mpr
  refine ⟨vtg, _, find_append_of_some rest (by decide) hVtg,
    hEnd, ?_⟩
  rw [List.length_drop, hLength]
  rw [List.length_cons] at hInside ⊢
  omega

theorem vtgLineEnd_burst
    (b : Burst)
    (rest : List UInt8) :
    vtgLineEnd (b.bytes ++ rest) = some b.bytes.length := by
  have hAll (reports : List (Talker × Record))
      (hNoVtg : ∀ report ∈ reports,
        ¬ Occurs (ascii "VTG") (report.2.line report.1)) :
      vtgLineEnd ((reports.flatMap fun report =>
          report.2.line report.1) ++
        (Record.line b.talker (.vtg b.vtg) ++ rest)) =
      some ((reports.flatMap fun report =>
          report.2.line report.1).length +
        (Record.line b.talker (.vtg b.vtg)).length) := by
    induction reports with
    | nil =>
        rw [List.flatMap_nil, List.nil_append,
          vtgLineEnd_line, List.length_nil, Nat.zero_add]
    | cons report reports ih =>
        rw [List.forall_mem_cons] at hNoVtg
        have hHead : ((reports.flatMap fun report =>
              report.2.line report.1) ++
            (Record.line b.talker (.vtg b.vtg) ++
              rest)).head? = some (byte '$') := by
          cases reports with
          | nil => rfl
          | cons report reports => rfl
        rw [List.flatMap_cons, List.append_assoc,
          vtgLineEnd_append hNoVtg.1 hHead, ih hNoVtg.2,
          Option.map_some, List.length_append, Nat.add_assoc]
  have hBytes : b.bytes =
      (b.reports.flatMap fun report =>
        report.2.line report.1) ++
      Record.line b.talker (.vtg b.vtg) := by
    unfold Burst.bytes Burst.lines Burst.all
    rw [List.map_append, List.flatten_append,
      ← List.flatMap_def]
    simp
  rw [hBytes, List.append_assoc, hAll b.reports b.hNoVtg,
    List.length_append]

theorem cut_burst
    (b : Burst)
    (rest : List UInt8) :
    frameSegmenter.cut (b.bytes ++ rest) =
      some b.bytes.length := by
  rw [cut_frameSegmenter, frameCut, vtgLineEnd_burst,
    Option.map_some, min_eq_left b.length_bytes_le]

theorem segments_bursts
    (bursts : List Burst)
    {rest : List UInt8}
    (hRest : frameSegmenter.cut rest = none) :
    frameSegmenter.segments
        ((bursts.map Burst.bytes).flatten ++ rest) =
      bursts.map Burst.bytes ∧
    frameSegmenter.rest
        ((bursts.map Burst.bytes).flatten ++ rest) = rest := by
  induction bursts with
  | nil =>
      exact ⟨Segmenter.segments_of_cut_none hRest,
        Segmenter.rest_of_cut_none hRest⟩
  | cons b bursts ih =>
      have hCut := cut_burst b
        ((bursts.map Burst.bytes).flatten ++ rest)
      rw [List.map_cons, List.flatten_cons, List.append_assoc,
        Segmenter.segments_of_cut_some hCut,
        Segmenter.rest_of_cut_some hCut, List.take_left,
        List.drop_left, ih.1, ih.2]
      exact ⟨rfl, rfl⟩

theorem parseLines_burst
    (p : Parser)
    (b : Burst) :
    { parseLines p b.lines with
      flag := (parseLines p b.lines).flag + 1 } =
        b.apply p := by
  have hAll (reports : List (Talker × Record))
      (hShort : ∀ report ∈ reports,
        Minmea.Short (report.2.line report.1))
      (p : Parser) :
      parseLines p (reports.map fun report =>
          report.2.line report.1) =
        reports.foldl (fun p report =>
          (p.enterFrame p.flag).report report.2) p := by
    induction reports generalizing p with
    | nil => rfl
    | cons report reports ih =>
        rw [List.forall_mem_cons] at hShort
        have hOne : (parseOneNmea p
            (report.2.line report.1) p.flag).2 =
              (p.enterFrame p.flag).report report.2 := by
          rw [parseOneNmea_line p hShort.1]
        rw [List.foldl_cons, ← ih hShort.2, ← hOne]
        rfl
  unfold Burst.apply Burst.lines
  simp only
  rw [hAll b.all (fun _ hMem => b.short_of_mem hMem)]

/- The lines of a burst are handed over one by one. -/
theorem handed_text_burst
    (b : Burst) :
    handed (text b.bytes) = b.lines := by
  have hComplete : ∀ line ∈ b.lines,
      CompleteSentence line := by
    intro line hLine
    rcases List.mem_map.mp hLine with ⟨report, _, rfl⟩
    exact completeSentence_line report.1 report.2
  have hNul : 0 ∉ b.bytes := by
    intro hMem
    rcases List.mem_flatten.mp hMem with ⟨line, hLine, hZero⟩
    exact (hComplete line hLine).no_nul hZero
  rw [text_of_nul_notMem hNul, Burst.bytes,
    handed_flatten hComplete]

theorem parseFrame_burst
    (p : Parser)
    (b : Burst) :
    parseFrame p b.bytes = b.apply p := by
  unfold parseFrame
  rw [handed_text_burst]
  exact parseLines_burst p b

/-
  Bursts that arrive in chunks for which there is room, none
  of them cut inside a VTG line: every call returns, and in
  every run they are the frames that are parsed, and the
  parser holds what they report.
-/
theorem bursts_received
    {s : State}
    (hIdle : s.semCmdSending = false)
    {chunks : List (List UInt8)}
    (hSome : chunks ≠ [])
    (hChunks : Deliverable s.live chunks)
    {bursts : List Burst}
    {rest : List UInt8}
    (hRest : frameSegmenter.cut rest = none)
    (hStream : s.live ++ chunks.flatten =
      (bursts.map Burst.bytes).flatten ++ rest) :
    (∃ results last, Delivers s chunks results last) ∧
      ∀ results last, Delivers s chunks results last →
        parsedBy results = bursts.map Burst.bytes ∧
          last.live = rest ∧
          last.parser = bursts.foldl Burst.apply s.parser := by
  constructor
  · rcases exists_delivers hIdle hChunks with
      ⟨results, last, hRun, _⟩
    exact ⟨results, last, hRun⟩
  intro results last hRun
  rcases accepted_of_deliverable hRun hChunks with
    ⟨hAccepted, hShort⟩
  have hDelivered := delivered_of_delivers hRun hAccepted
    (fun hNone => absurd hNone hSome)
  have hSplit := segments_bursts bursts hRest
  have hParsed := hDelivered.parsed
  have hLive := hDelivered.live
  have hParser := hDelivered.parser
  rw [flatten_offered hShort, hStream] at hParsed hLive
  rw [hSplit.1] at hParsed
  rw [hSplit.2] at hLive
  refine ⟨hParsed, hLive, ?_⟩
  rw [hParser, hParsed, List.foldl_map]
  simp only [parseFrame_burst]

/- A burst of a receiver that has nothing to report. -/
def blankBurst : Burst :=
  { reports := []
    talker := gp
    vtg := ⟨none, none, none, none, none⟩
    hShort := by simp
    hShortVtg := by unfold Minmea.Short; decide +kernel
    hNoVtg := by simp
    hFits := by decide +kernel }

/- A burst with the position of `southFix`. -/
def southBurst : Burst :=
  { blankBurst with
    reports := [(gp, .rmc southFix)]
    hShort := by
      simp only [List.forall_mem_singleton]
      unfold Minmea.Short
      decide +kernel
    hNoVtg := by
      simp only [List.forall_mem_singleton]
      rw [← find_eq_none_iff]
      decide +kernel
    hFits := by decide +kernel }

/-
  The burst cut in its record and in the letters "VTG", and
  the beginning of another line.
-/
def southChunks : List (List UInt8) :=
  [ southBurst.bytes.take 20,
    (southBurst.bytes.drop 20).take 41,
    southBurst.bytes.drop 61 ++ ascii "$GPRM" ]

theorem bursts_received_southBurst :
    ∃ results last,
      Delivers boot southChunks results last ∧
        parsedBy results = [southBurst.bytes] ∧
        last.live = ascii "$GPRM" ∧
        last.parser = southBurst.apply Parser.init := by
  have hRest : frameSegmenter.cut (ascii "$GPRM") = none := by
    decide
  have hStream : boot.live ++ southChunks.flatten =
      ([southBurst].map Burst.bytes).flatten ++
        ascii "$GPRM" := by
    rw [live_boot]
    decide +kernel
  have hChunks : Deliverable boot.live southChunks := by
    rw [live_boot]
    refine ⟨by decide +kernel, ?_, ?_⟩
    · rw [vtgTerminated_iff_rest,
        Segmenter.rest_of_cut_none (by decide +kernel),
        ← find_eq_none_iff]
      decide +kernel
    rw [Segmenter.rest_of_cut_none (by decide +kernel)]
    refine ⟨by decide +kernel, ?_, ?_⟩
    · rw [vtgTerminated_iff_rest,
        Segmenter.rest_of_cut_none (by decide +kernel),
        ← find_eq_none_iff]
      decide +kernel
    rw [Segmenter.rest_of_cut_none (by decide +kernel)]
    refine ⟨by decide +kernel, ?_, trivial⟩
    -- the whole stream, of which the line is left
    have hBehind := (segments_bursts [southBurst] hRest).2
    rw [← hStream, live_boot, southChunks, List.flatten_cons,
      List.flatten_cons, List.flatten_cons, List.flatten_nil,
      List.append_nil, ← List.append_assoc,
      ← List.append_assoc] at hBehind
    rw [vtgTerminated_iff_rest, hBehind, ← find_eq_none_iff]
    decide
  rcases bursts_received rfl (by decide) hChunks hRest
    hStream with ⟨⟨results, last, hRun⟩, hAll⟩
  exact ⟨results, last, hRun, hAll results last hRun⟩

end Gps
