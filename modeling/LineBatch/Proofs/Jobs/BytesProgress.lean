import LineBatch.Proofs.Jobs.ResultFile
import LineBatch.Proofs.Progress.Percentage
import LineBatch.Proofs.Crew.Deal

/-
  Progress by bytes over a whole extract run.

  Under the bytes policy the run counts its progress against the size
  of the input object, and every processed line adds its encoded
  length and one terminator. A run whose workers are all done, one of
  them stopped normally, and which recorded no error has processed
  every accepted line of the input exactly once: the lines are dealt
  once from the shared reader, and without an error none was left
  out, abandoned or refused. Its percentage is therefore one hundred
  exactly when those units cover the size of the input.

  They need not: a line closed by a carriage return and a line feed
  loses its carriage return, and a skipped blank line is not counted
  at all, so such an input ends short of one hundred percent. For
  UTF-8 input the units and the octets they leave out add up to the
  size of the input, which says by how much.

  Main declarations:
    * `BlobSource.serves`, `ExtractJob.launch_bytes`
    * `bytes_percentage_hundred_iff_units_cover_size`
    * `bytes_percentage_short_of_hundred_crlf`
    * `Parser.KeepsText`, `Reader.utf8_units_balance`, `Reader.utf8_units_cover_size_iff`
-/

namespace LineBatch

open List

------------------------------------------------------------
-- Measuring the Input
------------------------------------------------------------

namespace BlobSource

/- A blob source whose object holds `C` serves `C`. -/
def serves (C : Bytes) : Serves BlobSource C where
  inv s := ∃ b, s.bucket.get? s.key = some b ∧ b.data = C
  openAt_inv s n := by
    rintro ⟨b, hGet, hData⟩
    refine ⟨b, ?_, hData⟩
    show (s.openAt n).2.bucket.get? (s.openAt n).2.key = some b
    rw [(s.openAt_bucket n).1, (s.openAt_bucket n).2, hGet]
  openAt_rest s n st := by
    rintro ⟨b, hGet, rfl⟩ hOk
    exact openAt_rest hGet hOk
  close_inv _ h := h

/- A source serving `C` measures it. -/
theorem size_of_serves
    {C : Bytes}
    {s : BlobSource}
    (h : (serves C).inv s) :
    s.size = .ok C.length := by
  obtain ⟨b, hGet, rfl⟩ := h
  simp [size, hGet]

end BlobSource

namespace ExtractJob

variable {job : ExtractJob} {d : Disk} {cwd : String} {sink : Except Failure Sink}

/- The run reads its input through a cooling reader set up on it. -/
theorem parts_reader
    {src src' : BlobSource}
    {r : Reader BlobSource}
    (hInput : openInput d cwd job.settings.input = .ok src)
    (hOpen : Reader.open src job.settings.readerOptions = (.ok r, src')) :
    (job.parts d cwd sink).reader =
      .ok (CoolingReader.make r job.settings.cooldown.afterLines true [0]) := by
  simp [parts, hInput, hOpen, bind, Except.bind, pure, Except.pure]

/- Under the bytes policy the run measures its input by the size of its object, and
keeps the reader as it was. -/
theorem parts_state_bytes
    (hBytes : job.policy = .bytes)
    (cr : CoolingReader BlobSource)
    {n : Nat}
    (hSize : cr.reader.source.size = .ok n) :
    ∃ log, (job.parts d cwd sink).state cr =
      (.ok ({ total := if n = 0 then 1 else n, policy := .bytes, charset := cr.reader.charset },
        log), cr) := by
  by_cases hn : n = 0 <;> simp [parts, hBytes, hSize, Progress.make, hn, Except.map]

/-
  A launched extract run under the bytes policy starts fresh workers on
  the reader set up on its input, with a progress towards the size of
  the input as the reader measures the object it was opened on; its
  processors filter nothing.
-/
theorem launch_bytes
    {b : Batch}
    {l : Launch BlobSource Extraction}
    {src src' : BlobSource}
    {r : Reader BlobSource}
    {C : Bytes}
    (hBytes : job.policy = .bytes)
    (hInput : openInput d cwd job.settings.input = .ok src)
    (hServes : (BlobSource.serves C).inv src)
    (hOpen : Reader.open src job.settings.readerOptions = (.ok r, src'))
    (hLaunch : b.launch (job.parts d cwd sink) = .ok l) :
    l.crew.shared.reader.reader = r ∧
      l.crew.shared.progress =
        { total := if C.length = 0 then 1 else C.length, policy := .bytes, charset := r.charset } ∧
      (∀ w ∈ l.crew.workers, w.phase = .claim ∧ w.status = .running ∧ w.lines = 0) ∧
      (∀ p ∈ l.crew.processors, p.filter = none) ∧
      l.crew.workers.size = b.workers := by
  obtain ⟨hSize, hFresh⟩ := Batch.launch_fresh hLaunch
  obtain ⟨r₀, rr, p, stateLog, uses, hReader, hState, -, hCrew⟩ := Batch.launch_ok hLaunch
  rw [parts_reader hInput hOpen, Except.ok.injEq] at hReader
  subst hReader
  have hMeasure := BlobSource.size_of_serves (Reader.open_spec hServes hOpen).1.source_inv
  obtain ⟨log, hMeasured⟩ := parts_state_bytes hBytes
    (CoolingReader.make r job.settings.cooldown.afterLines true [0]) hMeasure
  rw [hMeasured, Prod.mk.injEq, Except.ok.injEq, Prod.mk.injEq] at hState
  obtain ⟨⟨rfl, -⟩, rfl⟩ := hState
  refine ⟨by rw [hCrew]; rfl, by rw [hCrew]; rfl, hFresh, ?_, hSize⟩
  intro p hp
  simp only [hCrew, parts, List.mem_toArray, List.mem_map] at hp
  obtain ⟨k, -, rfl⟩ := hp
  rfl

end ExtractJob

------------------------------------------------------------
-- Complete Runs
------------------------------------------------------------

namespace Crew

variable {σ π : Type} [ByteSource σ] {C : Bytes}
variable {S : Serves σ C} {r₀ : Reader σ} {c : Crew (CoolingReader σ) π} {L : Ledger}

/-
  A crew that dealt the lines of `C` and is all done, with a worker
  stopped normally and no error recorded, took every accepted line of
  `C` exactly once: the reader reached the end, no worker holds a line,
  no filter added one, and without an error no line was refused, left
  out or abandoned.
-/
theorem Dealt.took_accepted
    (h : Dealt S r₀ c L)
    (hAdded : L.added = [])
    (hClean : Faultless c L)
    (hDone : c.allDone = true)
    (hStopped : ∃ w ∈ c.workers, w.status = .stopped)
    (hErr : c.shared.progress.errors.size = 0) :
    (rawLines C).filterMap r₀.accepted ~ L.taken := by
  obtain ⟨w, hw, hStop⟩ := hStopped
  obtain ⟨hFed, hAbandoned, hFiltered⟩ := hClean.clean hErr
  have hBalance := h.balance
  rw [holding_of_allDone hDone, h.handed, h.ended w hw (.inl hStop),
    Reader.acceptedBefore_length, hAdded, hFed, hFiltered, hAbandoned] at hBalance
  simpa using hBalance

end Crew

/-
  A complete extract run under the bytes policy shows one hundred
  percent exactly when the accepted lines of the input, each counted
  with its encoded length and one terminator, cover the size of the
  input. Take an input object holding `C`, any interleaving of the
  workers' steps with cancellations after which every worker is done,
  and sizes below 2^46. If every worker stopped normally and no error
  was recorded, the percentage is one hundred if and only if the size
  of `C` is at most the sum of the units of its accepted lines. The
  lines are dealt once and counted, and with no error recorded none is
  lost, so every accepted line was taken by a processor.
-/
theorem bytes_percentage_hundred_iff_units_cover_size
    {cfg : Settings}
    {job : ExtractJob}
    {d : Disk}
    {cwd runId : String}
    {sink : Sink}
    {b : Batch}
    {l : Launch BlobSource Extraction}
    {src src' : BlobSource}
    {r : Reader BlobSource}
    {C : Bytes}
    (hJob : ExtractJob.make cfg = .ok job)
    (hBytes : job.policy = .bytes)
    (hSink : Sink.open d cwd cfg.output = .ok sink)
    (hBatch : Batch.make ⟨cfg.workers, cfg.skipLimit, runId⟩ true runId = .ok b)
    (hLaunch : b.launch (job.parts d cwd (.ok sink)) = .ok l)
    (hInput : ExtractJob.openInput d cwd cfg.input = .ok src)
    (hObject : (src.bucket.get? src.key).map Blob.data = some C)
    (hOpen : Reader.open src cfg.readerOptions = (.ok r, src'))
    (hContent : C ≠ [])
    (hSize : C.length < 2 ^ 46)
    (evs : List Event)
    (hDone : (l.crew.runEvents evs).allDone = true) :
    let units := ((rawLines C).filterMap r.accepted).map fun l =>
      r.charset.encodedLength l.text + r.charset.eolLength
    ∃ s, (job.runBy d cwd runId (·.runEvents evs)).summary = some s ∧
      ((∀ w ∈ s.workers, w.status = .stopped) → s.errors = #[] → units.sum < 2 ^ 46 →
        (s.percentage = Binary64.ofInt 100 ↔ C.length ≤ units.sum)) := by
  intro units
  obtain ⟨rfl, hPositive⟩ := ExtractJob.make_ok hJob
  have hWorkers := ExtractJob.batch_workers hPositive hBatch
  have hServes : (BlobSource.serves C).inv src := by
    obtain ⟨blob, hGet, hData⟩ := Option.map_eq_some_iff.1 hObject
    exact ⟨blob, hGet, hData⟩
  obtain ⟨hReader, hProgress, hFresh, hUnfiltered, hCount⟩ :=
    ExtractJob.launch_bytes hBytes hInput hServes hOpen hLaunch
  obtain ⟨hT, hOff, -⟩ := Reader.open_spec hServes hOpen
  rw [← hReader] at hT hOff
  have hDealt := (Crew.dealt_start hT hOff
    (fun w hw => ⟨(hFresh w hw).1, (hFresh w hw).2.1⟩)).run evs
  have hAdded := Crew.added_of_keeps (c := l.crew) (L := {})
    (fun p hp f hf => by simp [hUnfiltered p hp] at hf) evs
  have hTally := (Crew.tallies_start fun w hw => (hFresh w hw).2.2).run evs
  have hClean := (show Crew.Faultless l.crew {} from
    ⟨hUnfiltered, fun w hw hB => by simp [(hFresh w hw).1, Phase.busy] at hB,
      fun _ => ⟨rfl, rfl, rfl⟩⟩).run evs
  obtain ⟨-, sh, hSteady, hSummary⟩ :=
    Batch.land_summary b (job.parts d cwd (.ok sink)) l (l.crew.runEvents evs)
  have hRes := ExtractJob.runBy_launched hSink hBatch hLaunch (·.runEvents evs)
  refine ⟨_, by simp only [hRes]; exact hSummary, fun hStopped hNoErrors hUnits => ?_⟩
  have hSome := Batch.stopped_of_summarize b _
    (by rw [Crew.runEvents_size, hCount, hWorkers]; omega) hStopped
  have hErr : (l.crew.runEvents evs).shared.progress.errors.size = 0 := by
    have hNone : sh.progress.errors = #[] := hNoErrors
    have hLe := hSteady.errors
    rw [hNone] at hLe
    simpa using hLe
  have hAll := hDealt.took_accepted hAdded hClean hDone hSome hErr
  rw [hReader] at hAll
  have hProcessed : sh.progress.processed = units.sum := by
    calc sh.progress.processed
        = 0 + ((l.crew.ledger {} evs).taken.map l.crew.shared.progress.units).sum := by
          rw [hSteady.processed, hTally.processed, hProgress]
      _ = (((rawLines C).filterMap r.accepted).map l.crew.shared.progress.units).sum := by
          rw [Nat.zero_add, (hAll.map _).sum_eq]
      _ = units.sum := by
          have hBytesUnits : l.crew.shared.progress.units =
              fun l => r.charset.encodedLength l.text + r.charset.eolLength := by
            funext x
            simp [Progress.units, hProgress]
          rw [hBytesUnits]
  have hTotal : sh.progress.total = C.length := by
    rw [hSteady.total, hTally.gauge.total, hProgress]
    simp [hContent]
  show sh.progress.percentage = Binary64.ofInt 100 ↔ C.length ≤ units.sum
  rw [← hTotal, ← hProcessed]
  exact Progress.percentage_eq_hundred_iff _ (by rw [hTotal]; exact List.length_pos_iff.2 hContent)
    (by rw [hTotal]; exact hSize) (by rw [hProcessed]; exact hUnits)

/- The input "a\r\n" read by one worker in eight steps. -/
theorem bytes_percentage_hundred_iff_units_cover_size_crlf :
    let cfg : Settings := { Settings.default with
      input := "in.txt", output := "out.txt", workers := 1, progressPolicy := "bytes" }
    let C : Bytes := [97, 13, 10]
    let d : Disk := { files := [("/data/in.txt", ⟨C, 1⟩)], dirs := ["/data"], writes := 1 }
    let evs : List Event := List.replicate 8 (.step 0)
    ∃ (job : ExtractJob) (sink : Sink) (b : Batch) (l : Launch BlobSource Extraction)
      (src src' : BlobSource) (r : Reader BlobSource),
      ExtractJob.make cfg = .ok job ∧ job.policy = .bytes ∧
      Sink.open d "/data" cfg.output = .ok sink ∧
      Batch.make ⟨cfg.workers, cfg.skipLimit, "run"⟩ true "run" = .ok b ∧
      b.launch (job.parts d "/data" (.ok sink)) = .ok l ∧
      ExtractJob.openInput d "/data" cfg.input = .ok src ∧
      (src.bucket.get? src.key).map Blob.data = some C ∧
      Reader.open src cfg.readerOptions = (.ok r, src') ∧
      C ≠ [] ∧ C.length < 2 ^ 46 ∧ (l.crew.runEvents evs).allDone = true ∧
      let units := ((rawLines C).filterMap r.accepted).map fun l =>
        r.charset.encodedLength l.text + r.charset.eolLength
      ∃ s, (job.runBy d "/data" "run" (·.runEvents evs)).summary = some s ∧
        ((∀ w ∈ s.workers, w.status = .stopped) → s.errors = #[] → units.sum < 2 ^ 46 →
          (s.percentage = Binary64.ofInt 100 ↔ C.length ≤ units.sum)) := by
  intro cfg C d evs
  have hParts : ((ExtractJob.make cfg).toOption.any fun job =>
      decide (job.policy = .bytes) &&
      (Sink.open d "/data" cfg.output).toOption.any fun sink =>
      (Batch.make ⟨cfg.workers, cfg.skipLimit, "run"⟩ true "run").toOption.any fun b =>
      (b.launch (job.parts d "/data" (.ok sink))).toOption.any fun l =>
      (l.crew.runEvents evs).allDone &&
      (ExtractJob.openInput d "/data" cfg.input).toOption.any fun src =>
      decide ((src.bucket.get? src.key).map Blob.data = some C) &&
      (Reader.open src cfg.readerOptions).1.toOption.isSome) = true := by
    decide +kernel
  obtain ⟨job, hJob, hParts⟩ := Except.exists_ok_of_any hParts
  simp only [Bool.and_eq_true, decide_eq_true_eq] at hParts
  obtain ⟨hBytes, hParts⟩ := hParts
  obtain ⟨sink, hSink, hParts⟩ := Except.exists_ok_of_any hParts
  obtain ⟨b, hBatch, hParts⟩ := Except.exists_ok_of_any hParts
  obtain ⟨l, hLaunch, hParts⟩ := Except.exists_ok_of_any hParts
  simp only [Bool.and_eq_true] at hParts
  obtain ⟨hDone, hParts⟩ := hParts
  obtain ⟨src, hInput, hParts⟩ := Except.exists_ok_of_any hParts
  simp only [Bool.and_eq_true, decide_eq_true_eq] at hParts
  obtain ⟨hObject, hOpened⟩ := hParts
  obtain ⟨r, hReader, -⟩ := Except.exists_ok_of_any
    (show (Reader.open src cfg.readerOptions).1.toOption.any (fun _ => true) = true by
      simpa using hOpened)
  have hOpen : Reader.open src cfg.readerOptions = (.ok r, (Reader.open src cfg.readerOptions).2) := by
    rw [← hReader]
  exact ⟨job, sink, b, l, src, _, r, hJob, hBytes, hSink, hBatch, hLaunch, hInput, hObject, hOpen,
    by simp [C], by simp [C], hDone,
    bytes_percentage_hundred_iff_units_cover_size hJob hBytes hSink hBatch hLaunch hInput hObject
      hOpen (by simp [C]) (by simp [C]) evs hDone⟩

/-
  One line closed by a carriage return and a line feed: the run ends with
  its only worker stopped normally and no error, but the line is worth
  two units against the three octets of the input, and the percentage
  stays below one hundred.
-/
theorem bytes_percentage_short_of_hundred_crlf :
    let cfg : Settings := { Settings.default with
      input := "in.txt", output := "out.txt", workers := 1, progressPolicy := "bytes" }
    let d : Disk :=
      { files := [("/data/in.txt", ⟨[97, 13, 10], 1⟩)], dirs := ["/data"], writes := 1 }
    ∃ job s, ExtractJob.make cfg = .ok job ∧ job.policy = .bytes ∧
      (job.run d "/data" "run" false).summary = some s ∧
      s.lines = 1 ∧ (∀ w ∈ s.workers, w.status = .stopped) ∧ s.errors = #[] ∧
      s.percentage ≠ Binary64.ofInt 100 := by
  intro cfg d
  have hRun : ((ExtractJob.make cfg).toOption.any fun job =>
      decide (job.policy = .bytes) && (job.run d "/data" "run" false).summary.any fun s =>
        s.lines == 1 && s.workers.all (·.status == .stopped) && s.errors.isEmpty &&
          s.percentage != Binary64.ofInt 100) = true := by
    decide +kernel
  obtain ⟨job, hJob, hFacts⟩ := Except.exists_ok_of_any hRun
  simp only [Bool.and_eq_true, decide_eq_true_eq, Option.any_eq_true] at hFacts
  obtain ⟨hPolicy, s, hSummary, ⟨⟨hLines, hStopped⟩, hErrors⟩, hShort⟩ := hFacts
  refine ⟨job, s, hJob, hPolicy, hSummary, by simpa using hLines, ?_, ?_, ?_⟩
  · simpa using hStopped
  · simpa using hErrors
  · simpa using hShort

------------------------------------------------------------
-- Where the Units Fall Short
------------------------------------------------------------

namespace Parser

/- A parser keeps the text when every raw line parses, to a line with that text. -/
def KeepsText (p : Parser) : Prop :=
  ∀ t, ∃ l, p.parse t = .ok l ∧ l.text = t

/- A splitting parser keeps the text it splits. -/
theorem splitting_keepsText
    {s : String}
    {p : Parser}
    (h : splitting s = .ok p) :
    p.KeepsText := by
  unfold splitting at h
  split at h
  · cases h
    exact fun t => ⟨_, rfl, rfl⟩
  · cases h

/- The default parser keeps the text, whether or not its pattern compiles. -/
theorem whitespace_keepsText : whitespace.KeepsText := by
  unfold whitespace
  split
  · rename_i p hp
    exact splitting_keepsText hp
  · exact fun t => ⟨_, rfl, rfl⟩

end Parser

/- The reader the settings ask for parses with a parser that keeps the text. -/
theorem Settings.readerOptions_keepsText (c : Settings) :
    c.readerOptions.parser.KeepsText := by
  unfold Settings.readerOptions
  split
  · rename_i p hp
    exact Parser.splitting_keepsText hp
  · exact Parser.whitespace_keepsText

namespace Charset

variable {c : Charset}

/- A UTF-8 line is kept as it is read. -/
theorem decode_of_utf8
    (h : c.encoding = .utf8)
    (raw : Bytes) :
    c.decode raw = raw := by
  simp [decode, h]

/- A UTF-8 text takes one octet a byte. -/
theorem encodedLength_of_utf8
    (h : c.encoding = .utf8)
    (text : Bytes) :
    c.encodedLength text = text.length := by
  unfold encodedLength
  split
  · rfl
  · simp [h]

end Charset

/- Stripping the terminator only drops octets. -/
theorem trimEol_length_le (b : Bytes) : (trimEol b).length ≤ b.length := by
  simp only [trimEol]
  split_ifs <;> simp
  omega

namespace Reader

variable {σ : Type} [ByteSource σ]

omit [ByteSource σ] in
/-
  Under UTF-8 and a parser that keeps the text, a raw line that is not
  skipped is accepted with its text stripped of the terminator.
-/
theorem accepted_text_of_utf8
    (r : Reader σ)
    (hUtf8 : r.charset.encoding = .utf8)
    (hKeeps : r.parser.KeepsText)
    (raw : Bytes) :
    (r.accepted raw).map Line.text =
      if r.skips (trimEol raw) then none else some (trimEol raw) := by
  obtain ⟨l, hParse, hText⟩ := hKeeps (trimEol raw)
  rw [accepted_eq, Charset.decode_of_utf8 hUtf8]
  split <;> simp [hParse, Except.toOption, hText]

omit [ByteSource σ] in
/-
  Under UTF-8 and a parser that keeps the text, the units of the accepted
  lines and the octets they leave out add up to the content: every octet
  of the content is in the text of an accepted line, in a terminator
  stripped from one, or in a skipped line, and each accepted line counts
  one terminator octet on top of its text. The induction runs over the
  raw lines: each adds its octets to the content, and its text and
  terminator to the units unless it is skipped.
-/
theorem utf8_units_balance
    (r : Reader σ)
    (hUtf8 : r.charset.encoding = .utf8)
    (hKeeps : r.parser.KeepsText)
    (C : Bytes) :
    let kept := (rawLines C).filter fun raw => !r.skips (trimEol raw)
    let skipped := (rawLines C).filter fun raw => r.skips (trimEol raw)
    let units := ((rawLines C).filterMap r.accepted).map fun l =>
      r.charset.encodedLength l.text + r.charset.eolLength
    C.length + kept.length =
      units.sum + (skipped.map length).sum +
        (kept.map fun raw => raw.length - (trimEol raw).length).sum := by
  intro kept skipped units
  have hUnits : (fun raw => (r.accepted raw).map fun l =>
      r.charset.encodedLength l.text + r.charset.eolLength) =
      fun raw => if r.skips (trimEol raw) then none else some ((trimEol raw).length + 1) := by
    funext raw
    have hMap : (r.accepted raw).map (fun l =>
        r.charset.encodedLength l.text + r.charset.eolLength) =
        ((r.accepted raw).map Line.text).map fun t => t.length + 1 := by
      simp [Option.map_map, Function.comp_def, Charset.encodedLength_of_utf8 hUtf8,
        Charset.eolLength]
    rw [hMap, r.accepted_text_of_utf8 hUtf8 hKeeps raw]
    split <;> rfl
  have hC : C.length = ((rawLines C).map length).sum := by
    conv_lhs => rw [← flatten_rawLines C]
    exact List.length_flatten
  simp only [kept, skipped, units, List.map_filterMap, hUnits]
  rw [hC]
  generalize rawLines C = L
  induction L with
  | nil => simp
  | cons raw L ih =>
    have hLe := trimEol_length_le raw
    by_cases hSkip : r.skips (trimEol raw) = true
    · simp [hSkip]
      omega
    · simp [hSkip]
      omega

omit [ByteSource σ] in
/-
  So under UTF-8 the units cover the content exactly when the skipped
  lines and the stripped terminators take at most one octet for every
  accepted line. A line feed alone is that octet; a carriage return
  before it, or a skipped line, is one too many, which only a last line
  without a terminator can make up for.
-/
theorem utf8_units_cover_size_iff
    (r : Reader σ)
    (hUtf8 : r.charset.encoding = .utf8)
    (hKeeps : r.parser.KeepsText)
    (C : Bytes) :
    let kept := (rawLines C).filter fun raw => !r.skips (trimEol raw)
    let skipped := (rawLines C).filter fun raw => r.skips (trimEol raw)
    let units := ((rawLines C).filterMap r.accepted).map fun l =>
      r.charset.encodedLength l.text + r.charset.eolLength
    (C.length ≤ units.sum ↔
      (skipped.map length).sum + (kept.map fun raw => raw.length - (trimEol raw).length).sum ≤
        kept.length) := by
  have hBalance := r.utf8_units_balance hUtf8 hKeeps C
  dsimp only at hBalance ⊢
  omega

end Reader

end LineBatch
