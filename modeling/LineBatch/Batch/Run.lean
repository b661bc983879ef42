import LineBatch.Batch.Crew

/-
  Batches: one input, a pool of workers, one run.

  A run builds its parts in order: a first hook, the reader, the
  progress (which may read the input, e.g. to count its lines), and
  one processor for every worker. The first part that fails ends the
  run with that failure, named after the part, and no summary; the
  reader, once built, is closed on the way out.

  Then the workers run until every one of them has stopped, taking
  steps in any order, and the run may be cancelled at any point. The
  reader is closed, and a failure to close it is kept as an error of
  the run. The summary adds up the lines of the workers and takes the
  percentage and the errors from the progress. A last hook sees the
  summary; its failure is the run's failure, but the summary stands.

  A run keeps a log: what the hooks write, the reader's records, the
  start of the workers and a first status, what the workers write, a
  failure to close the reader, the final status, and, when the last
  hook passes, that the batch finished. Every record carries the
  run's identifier.

  Key definitions:
    * `BatchConfig`, `Batch`, `Batch.make`
    * `WorkerReport`, `Summary`, `Summary.failed`
    * `Parts`, `RunResult`, `Launch`
    * `Batch.launch`, `Batch.land`, `Batch.runBy`, `Batch.run`
-/

namespace LineBatch

/-- How a batch is set up. -/
structure BatchConfig where
  /-- The number of workers; zero or less means one. -/
  workers : Int := 1
  /-- Recoverable errors tolerated by every worker; zero tolerates any number. -/
  skipLimit : Int := 0
  /-- The identifier of the run; empty asks for a fresh one. -/
  runId : String := ""

/-- A checked batch configuration. -/
structure Batch where
  workers : Nat
  skipLimit : Int
  runId : String

namespace Batch

/-- Checks a configuration. `complete` says whether the reader, progress and worker
parts can be built at all; `fresh` is the identifier drawn for a run that has none. -/
def make (cfg : BatchConfig) (complete : Bool) (fresh : String) : Except Failure Batch :=
  if !complete then .error (.plain "batch: reader, state and worker factories are required")
  else if cfg.skipLimit < 0 then .error (.plain "batch: skip limit must not be negative")
  else .ok ⟨if cfg.workers ≤ 0 then 1 else cfg.workers.toNat, cfg.skipLimit,
    if cfg.runId = "" then fresh else cfg.runId⟩

end Batch

/-- A worker's account after it stopped. -/
structure WorkerReport where
  name : String
  status : Status
  sections : Nat
  lines : Nat

/-- The account of a finished run. -/
structure Summary where
  runId : String
  lines : Nat
  percentage : Binary64
  errors : Array Error
  recoverable : Nat
  fatal : Nat
  workers : List WorkerReport

/-- Whether some worker stopped on a fatal error. -/
def Summary.failed (s : Summary) : Bool := s.workers.any fun w => w.status == .failed

/-- The parts of a run, each of which may fail. -/
structure Parts (σ π : Type) where
  /-- The first hook: its failure, or the records it writes. -/
  init : Except Failure (List Record)
  reader : Except Failure (CoolingReader σ)
  /-- Builds the progress, with the records written meanwhile; it may read the input
  through the reader. -/
  state : CoolingReader σ → Except Failure (Progress × List Record) × CoolingReader σ
  /-- The processor of each worker, by number: its position among the processors. -/
  worker : Nat → Except Failure Nat
  processors : Array (Processor π)
  /-- The state the processors share, before the run. -/
  procState : π
  /-- The last hook, which sees the summary and the processors' state: its failure, or
  the records it writes. -/
  complete : Summary → π → Except Failure (List Record)

/-- What a run gives: the summary when the parts were built, the failure of the run if
any, the processors' state, the cooldown notices heard, the log written, and the reader
the run built, as the run left it. -/
structure RunResult (σ π : Type) where
  summary : Option Summary
  failure : Option Failure
  procState : π
  heard : Array Notice
  log : Array Record
  reader : Option (CoolingReader σ)

/-- A run whose parts were built: the crew about to start, the log written so far, and
the number of records the reader had written when it was built. -/
structure Launch (σ π : Type) where
  crew : Crew (CoolingReader σ) π
  log : Array Record
  opened : Nat

namespace Batch

variable {σ π : Type} [ByteSource σ]

/-- The first worker, counting from `i`, whose processor cannot be built, with the
failure; or the processors of them all. -/
def buildWorkers (parts : Parts σ π) : Nat → Nat → Except (Nat × Failure) (List Nat)
  | 0, _ => .ok []
  | n + 1, i =>
    match parts.worker i with
    | .error f => .error (i, f)
    | .ok k => (buildWorkers parts n (i + 1)).map fun ks => k :: ks

/-- The summary of a crew that finished. -/
def summarize (b : Batch) (c : Crew (CoolingReader σ) π) : Summary :=
  let p := c.shared.progress
  { runId := b.runId,
    lines := c.workers.foldl (fun n w => n + w.lines) 0,
    percentage := p.percentage, errors := p.errors, recoverable := p.recoverable,
    fatal := p.fatal,
    workers := c.workers.toList.map fun w => ⟨w.name, w.status, w.sections, w.lines⟩ }

/-- A run that ended while its parts were built, with the log written so far. The reader,
if it was built, is closed, and a failure to close it is dropped. -/
def stopped (parts : Parts σ π) (part : String) (f : Failure) (log : Array Record)
    (reader : Option (CoolingReader σ)) : RunResult σ π :=
  ⟨none, some (f.under ("batch: " ++ part)), parts.procState, #[], log, reader.map (·.close.2)⟩

/-- The records the batch writes about its workers as they start. -/
def startRecords (b : Batch) (p : Progress) : List Record :=
  (List.range b.workers).map (fun i => ⟨.debug, "worker started", [("worker", "worker-" ++ toString i)]⟩)
    ++ [⟨.info, "started workers", [("count", toString b.workers)]⟩,
        ⟨.debug, "status reporter started", []⟩]
    ++ p.status?.toList

/-- Records as the run writes them, carrying its identifier. -/
def tag (b : Batch) (rs : Array Record) : Array Record := rs.map (·.under [("run_id", b.runId)])

/-- Builds the parts of a run, and from them the crew; the first part that fails ends the
run. -/
def launch (b : Batch) (parts : Parts σ π) : Except (RunResult σ π) (Launch σ π) :=
  match parts.init with
  | .error f => .error (stopped parts "init" f #[] none)
  | .ok initLog =>
    let log := b.tag initLog.toArray
    match parts.reader with
    | .error f => .error (stopped parts "create reader" f log none)
    | .ok r =>
      let opened := r.reader.records.size
      let log := log ++ b.tag r.reader.records
      match parts.state r with
      | (.error f, r) => .error (stopped parts "create state" f log (some r))
      | (.ok (p, stateLog), r) =>
        let log := log ++ b.tag stateLog.toArray
        match buildWorkers parts b.workers 0 with
        | .error (i, f) =>
          .error (stopped parts ("create worker " ++ toString i) f log (some r))
        | .ok uses =>
          let crew : Crew (CoolingReader σ) π :=
            { shared := { reader := r, progress := p },
              workers := ((List.range b.workers).map fun i =>
                Worker.make ("worker-" ++ toString i) b.skipLimit).toArray,
              uses := uses.toArray, processors := parts.processors,
              procState := parts.procState }
          .ok ⟨crew, log ++ b.tag (b.startRecords p).toArray, opened⟩

/-- Ends a run whose workers have finished: closes the reader, sums up, and runs the last
hook. -/
def land (b : Batch) (parts : Parts σ π) (l : Launch σ π) (crew : Crew (CoolingReader σ) π) :
    RunResult σ π :=
  let (closing, r) := crew.shared.reader.close
  let sh := { crew.shared with reader := r }
  let log := l.log ++ b.tag sh.log ++ b.tag (r.reader.records.extract l.opened)
  let (sh, log) := match closing with
    | some e => (sh.report e, log ++ b.tag #[⟨.error, "failed to close reader",
        [("error", Utf8.lossy e.message)]⟩])
    | none => (sh, log)
  let crew := { crew with shared := sh }
  let s := b.summarize crew
  let log := log ++ b.tag #[crew.shared.progress.finalStatus]
  match parts.complete s crew.procState with
  | .error f =>
    ⟨some s, some (f.under "batch: complete"), crew.procState, crew.shared.heard, log,
      some crew.shared.reader⟩
  | .ok doneLog =>
    let log := log ++ b.tag doneLog.toArray
      ++ b.tag #[⟨.info, "batch finished", [("failed", toString s.failed)]⟩]
    ⟨some s, none, crew.procState, crew.shared.heard, log, some crew.shared.reader⟩

/-- Runs a batch whose workers are driven by `drive`, from the crew as it starts to the
crew as it ends. Every record the batch, its hooks, reader and workers write carries the
run's identifier. -/
def runBy (b : Batch) (parts : Parts σ π)
    (drive : Crew (CoolingReader σ) π → Crew (CoolingReader σ) π) : RunResult σ π :=
  match b.launch parts with
  | .error res => res
  | .ok l => b.land parts l (drive l.crew)

/-- Runs a batch, its workers taking turns; `cancelled` says whether the run was cancelled
before it started. -/
def run (b : Batch) (parts : Parts σ π) (cancelled : Bool) : RunResult σ π :=
  b.runBy parts (Crew.turns cancelled)

/-- A run whose first hook fails has no summary. -/
theorem run_init_fails (b : Batch) (parts : Parts σ π) (c : Bool) (f : Failure)
    (h : parts.init = .error f) : (b.run parts c).summary = none := by
  simp [run, runBy, launch, h, stopped]

end Batch

end LineBatch
