import LineBatch.Batch.Run
import LineBatch.Settings.Basic
import LineBatch.Store.Disk
import LineBatch.Pattern.Regex

/-
  The extract job: selected fields of every line, into a result file.

  The job is checked before it runs: the settings must be valid, an
  output must be named, the separator must compile and the progress
  policy must be known.

  A run opens the result file first, then the input, then measures the
  input (its size in bytes or its number of lines, as the policy
  says; an empty input counts as one unit), and gives every worker an
  extractor with a buffer of its own. An extractor joins the chosen
  fields of each line with the output separator, or keeps the whole
  line when no fields are chosen; a line without a chosen field is
  malformed. After every section the extractor writes what its buffer
  gathered, one line each, to the result file in one piece: the file
  holds the sections in the order their writes happened.

  The result file is kept only if something was written to it. A
  failure to open it is a result-file failure, which callers can tell
  from the others.

  The job logs where it writes, the size of the input (warning when it
  is empty) and, at the end, whether the result file was written or
  removed.

  Key definitions:
    * `ExtractJob`, `ExtractJob.make`, `ExtractJob.readerOptions`
    * `Extraction`, `ExtractJob.processor`, `ExtractJob.runBy`, `ExtractJob.run`, `ExtractRun`
    * `Sink`, `Sink.open`, `count`, `countLogged`
-/

namespace LineBatch

/-- A checked extract job. -/
structure ExtractJob where
  settings : Settings
  policy : Policy

namespace ExtractJob

/-- Checks the settings of an extract job. -/
def make (c : Settings) : Except String ExtractJob := do
  c.validate
  if c.output.isEmpty then throw "jobs: extract needs an output location"
  match Regex.compile c.extract.separator with
  | .error e => throw ("jobs: separator " ++ Quoted.quote c.extract.separator ++ ": " ++ e.message)
  | .ok _ => pure ()
  let policy ← Policy.parse c.progressPolicy
  return ⟨c, policy⟩

end ExtractJob

/-- The reader options the settings ask for. The separator is assumed to compile. -/
def Settings.readerOptions (c : Settings) : ReaderOptions :=
  { sectionSize := c.sectionSize, ignoreEmpty := c.ignoreEmptyLines, encoding := c.encoding,
    parser := match Parser.splitting c.extract.separator with
      | .ok p => p
      | .error _ => Parser.whitespace,
    retries := if c.read.retries < 0 then 0 else c.read.retries, delay := c.read.delay }

------------------------------------------------------------
-- The result file
------------------------------------------------------------

/-- A result file being written: its path on the disk and the bytes written so far. -/
structure Sink where
  path : String
  written : Bytes

/-- A failure of the result file. -/
def resultFileFailure (f : Failure) : Failure :=
  .cause (.wrap "" (.condition .resultFile) (": " ++ Utf8.lossy f.message))

namespace Sink

/-- Opens the result file a location names, taken against `cwd`; its directory must
exist. -/
def «open» (d : Disk) (cwd location : String) : Except Failure Sink :=
  match Location.parse cwd location with
  | .error f => .error (resultFileFailure f)
  | .ok (url, key) =>
    match d.openBucket url with
    | .error e =>
      .error (resultFileFailure (.plain ("resultfile: open bucket " ++ Utf8.lossy url ++ ": " ++ e)))
    | .ok dir => .ok ⟨Disk.joinPath dir (Utf8.lossy key), []⟩

/-- The disk after the result file is committed: kept if anything was written, else
removed. -/
def commit (s : Sink) (d : Disk) : Disk :=
  if s.written.isEmpty then d.remove s.path else d.write s.path s.written

end Sink

------------------------------------------------------------
-- Extractors
------------------------------------------------------------

/-- What the extractors keep: the lines each worker gathered in its current section, by
worker, and the content of the result file so far. -/
structure Extraction where
  pending : Nat → List Bytes := fun _ => []
  written : Bytes := []

namespace Extraction

/-- Worker `k` gathers a line. -/
def gather (x : Extraction) (k : Nat) (t : Bytes) : Extraction :=
  { x with pending := fun j => if j = k then x.pending j ++ [t] else x.pending j }

/-- Worker `k` writes the lines it gathered, each with a line feed, and empties its
buffer. -/
def flush (x : Extraction) (k : Nat) : Extraction :=
  { pending := fun j => if j = k then [] else x.pending j,
    written := x.written ++ (x.pending k).flatMap fun l => l ++ [10] }

end Extraction

/-- The fields of a line at the chosen positions, or the first position it lacks. -/
def Line.pick (l : Line) : List Int → Except Int (List Bytes)
  | [] => .ok []
  | f :: fs =>
    match l.field? f with
    | some v => (Line.pick l fs).map (v :: ·)
    | none => .error f

/-- The processor of worker `k`: it gathers the chosen fields of each line joined by
`sep`, or whole lines when none are chosen, and writes them after every section. -/
def ExtractJob.processor (fields : List Int) (sep : Bytes) (k : Nat) : Processor Extraction where
  processLine l x :=
    if fields.isEmpty then (.ok, x.gather k l.text)
    else
      match l.pick fields with
      | .ok vs => (.ok, x.gather k (sep.intercalate vs))
      | .error f =>
        (.failed (.coded (Error.format l.text (some (Cause.plain ("field " ++ toString f
          ++ " requested, line has " ++ toString l.numFields))))), x)
  sectionComplete x := (.ok, x.flush k)
  jobComplete x := (.ok, x.flush k)
  filter := none

------------------------------------------------------------
-- Runs
------------------------------------------------------------

/-- What an extract run gives: the summary when the run got that far, its failure if any,
the disk afterwards and the log the run wrote. -/
structure ExtractRun where
  summary : Option Summary
  failure : Option Failure
  disk : Disk
  log : Array Record

namespace ExtractJob

/-- The source of the input, or why there is none. -/
def openInput (d : Disk) (cwd location : String) : Except Failure BlobSource :=
  if location.isEmpty then .error (.plain "jobs: no input location")
  else d.openSource cwd location

/-- The parts of a run over a disk. -/
def parts (job : ExtractJob) (d : Disk) (cwd : String) (sink : Except Failure Sink) :
    Parts BlobSource Extraction :=
  let c := job.settings
  let opts := c.readerOptions
  { init := match sink with
      | .error f => .error f
      | .ok _ => .ok [⟨.info, "writing results", [("output", c.output),
          ("fields", "[" ++ " ".intercalate (c.extract.fields.map toString) ++ "]")]⟩]
    reader := do
      let src ← openInput d cwd c.input
      match Reader.open src opts with
      | (.ok r, _) => pure (CoolingReader.make r c.cooldown.afterLines true [0])
      | (.error f, _) => throw f
    state := fun cr =>
      let src := cr.reader.source
      let measured : Except Failure Nat × BlobSource := match job.policy with
        | .bytes => (src.size, src)
        | _ =>
          let (n, err, src) := Reader.countLines src opts
          (match err with
            | some f => .error f
            | none => .ok n, src)
      let cr := { cr with reader := { cr.reader with source := measured.2 } }
      match measured.1 with
      | .error f => (.error (f.under "jobs: size input"), cr)
      | .ok total =>
        let shown := match job.policy with
          | .bytes => Size.format total
          | _ => toString total
        let log : List Record := ⟨.info, "input size", [("policy", job.policy.name), ("total", shown)]⟩ ::
          (if total = 0 then [⟨.warn, "input is empty", []⟩] else [])
        ((Progress.make (if total = 0 then 1 else total) job.policy cr.reader.charset).map (·, log),
          cr)
    worker := fun i => .ok i
    processors := ((List.range c.workers.toNat).map
      (processor c.extract.fields (Bytes.ofString c.extract.outputSeparator))).toArray
    procState := {}
    complete := fun s x =>
      let written := x.written
      if written.isEmpty then .ok [⟨.info, "removed empty result file", [("output", c.output)]⟩]
      else .ok [⟨.info, "result file written", [("output", c.output),
        ("size", Size.format written.length), ("lines", toString s.lines)]⟩] }

/-- Runs the job on a disk, with `cwd` as the working directory, under the identifier
`runId`, its workers driven by `drive`. -/
def runBy (job : ExtractJob) (d : Disk) (cwd runId : String)
    (drive : Crew (CoolingReader BlobSource) Extraction →
      Crew (CoolingReader BlobSource) Extraction) : ExtractRun :=
  let c := job.settings
  let sink := Sink.open d cwd c.output
  match Batch.make ⟨c.workers, c.skipLimit, runId⟩ true runId with
  | .error f => ⟨none, some f, d, #[]⟩
  | .ok b =>
    let res := b.runBy (job.parts d cwd sink) drive
    let d := match sink with
      | .ok s => { s with written := res.procState.written }.commit d
      | .error _ => d
    ⟨res.summary, res.failure, d, res.log⟩

/-- Runs the job, its workers taking turns; `cancelled` says whether the run was
cancelled before it started. -/
def run (job : ExtractJob) (d : Disk) (cwd runId : String) (cancelled : Bool) : ExtractRun :=
  job.runBy d cwd runId (Crew.turns cancelled)

end ExtractJob

/-- The size in bytes and the number of lines of the input at a location, as a reader
with the given options counts them, with the records the counting reader wrote. -/
def countLogged (d : Disk) (cwd location : String) (opts : ReaderOptions) :
    Except Failure (Nat × Nat) × Array Record :=
  match ExtractJob.openInput d cwd location with
  | .error f => (.error f, #[])
  | .ok src =>
    match src.size with
    | .error f => (.error f, #[])
    | .ok bytes =>
      let ((lines, err, _), log) := Reader.countLogged src opts
      match err with
      | some f => (.error f, log)
      | none => (.ok (lines, bytes), log)

/-- The size in bytes and the number of lines of the input at a location, as a reader
with the given options counts them. -/
def count (d : Disk) (cwd location : String) (opts : ReaderOptions) : Except Failure (Nat × Nat) :=
  (countLogged d cwd location opts).1

end LineBatch
