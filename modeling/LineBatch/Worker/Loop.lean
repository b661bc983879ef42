import LineBatch.Reader.Cooldown
import LineBatch.Progress.State
import LineBatch.Worker.Status
import LineBatch.Worker.Processor

/-
  Workers.

  A worker claims sections from a reader shared with other workers
  and feeds their lines to its own processor, until the input is used
  up or a fatal error stops it. Every error it meets is reported to
  the shared progress. A recoverable error lets it go on, unless it
  takes the number of recoverable errors of the whole batch over the
  skip limit; then an extra fatal error is reported and the worker
  stops. A cancelled run stops every worker at its next claim.

  The loop of one section: claim it; report the lines the reader
  refused; run the processor's filter, if it has one; process the
  lines, a fatal error dropping the rest of the section; complete the
  section. A worker that claimed the last section and is still
  running stops normally, and its processor's job hook runs; a
  failure there is reported but changes nothing.

  Workers log what they report, when they stop on a fatal error and
  when their loop is over; the log is shared like the rest.

  The worker is a machine whose steps are single actions on what the
  workers share: one claim, one report, one filter call, one line or
  one completion. Several workers run by interleaving their steps in
  any order. Failing on a recoverable error under a skip limit takes
  three such actions, as the progress is locked for each of them
  apart: the report, the read of the batch's count of recoverable
  errors, and, when that count is over the limit, the report of the
  skip-limit error. Other workers may report errors in between.

  The worker asks of the reader it shares only claims of sections
  (`SectionReader`); a claim may hand out a section or fail with an
  error of any severity. The cooling reader is one such reader.

  Key definitions:
    * `SectionReader`, `Phase`, `Shared`, `Worker`
    * `Resume`, `Worker.resume`
    * `Worker.report`, `Worker.fail`, `Worker.step`, `Worker.run`
-/

namespace LineBatch

/-- What the workers ask of the reader they share: a claim of the next section, which
hands it out or fails, with the cooldown notices the claim gives; and a bound on the lines
the reader may still hand out, by which a run of workers is given its steps. -/
class SectionReader (ρ : Type) where
  readSection : ρ → Except Error Section × List Notice × ρ
  lineBound : ρ → Nat

instance {σ : Type} [ByteSource σ] : SectionReader (CoolingReader σ) where
  readSection c := c.readSection
  lineBound c := c.reader.lineBound

/-- Where a worker goes on after it failed on an error, by the step that failed. -/
inductive Resume where
  /-- A claim failed: back to the claim, where a stopped worker leaves its loop. -/
  | claim
  /-- The run was cancelled: out of the loop. -/
  | finish
  /-- A refused line was reported: on to the rest of them, unless the worker stopped. -/
  | refusals (pending : List Error) (sec : Section)
  /-- The filter failed: on to no line, unless the worker stopped. -/
  | filter (last : Bool)
  /-- A line failed: on to the rest of them, or to the completion once the worker stopped. -/
  | lines (pending : List Line) (last : Bool)
  /-- The section hook ran: back to the claim, stopping normally after the last section. -/
  | complete (last : Bool)

/-- Where a worker is in its loop. -/
inductive Phase where
  /-- About to claim a section, or to stop when no longer running. -/
  | claim
  /-- Reporting the refused lines of a claimed section. -/
  | refusals (pending : List Error) (sec : Section)
  /-- About to filter the lines of a claimed section. -/
  | filter (sec : Section)
  /-- Processing the lines of a section still to go. -/
  | lines (pending : List Line) (last : Bool)
  /-- About to complete a section. -/
  | complete (last : Bool)
  /-- The loop is over; the job hook runs if the worker stopped normally. -/
  | finish
  /-- Nothing more to do. -/
  | done
  /-- Having reported a recoverable error under a skip limit, about to read the batch's
  count of recoverable errors, then to go on by `k`. -/
  | checking (k : Resume)
  /-- The batch's count was over the skip limit: about to report that and stop, then to go
  on by `k`. -/
  | exceeding (k : Resume)

/-- Whether a worker has nothing more to do. -/
def Phase.isDone : Phase → Bool
  | .done => true
  | _ => false

/-- What the workers of a batch share: the reader, the progress, whether the run was
cancelled, the cooldown notices heard so far, and the log the workers write. Listener 0 of
the reader's cooldown is the progress. -/
structure Shared (ρ : Type) where
  reader : ρ
  progress : Progress
  cancelled : Bool := false
  heard : Array Notice := #[]
  log : Array Record := #[]

namespace Shared

variable {ρ : Type}

/-- Takes in cooldown notices; those for listener 0 reach the progress, and the start of
a pause they announce is logged. -/
def hear (sh : Shared ρ) (ns : List Notice) : Shared ρ :=
  ns.foldl (fun sh n =>
    { sh with
      heard := sh.heard.push n
      progress := if n.listener = 0 then sh.progress.hearCooldown n.active else sh.progress
      log := if n.listener = 0 && n.active then sh.log.push ⟨.info, "input reader cooldown", []⟩
        else sh.log })
    sh

/-- Adds a record to the log. -/
def write (sh : Shared ρ) (r : Record) : Shared ρ := { sh with log := sh.log.push r }

/-- Reports an error to the progress. -/
def report (sh : Shared ρ) (e : Error) : Shared ρ :=
  { sh with progress := sh.progress.noteError e }

end Shared

/-- A worker; its processor and the processor's state are kept apart from it, since
workers may share a processor. -/
structure Worker where
  name : String
  /-- The number of recoverable errors of the batch tolerated; zero or less tolerates
  any number. -/
  skipLimit : Int
  status : Status := .running
  sections : Nat := 0
  lines : Nat := 0
  phase : Phase := .claim

namespace Worker

variable {π ρ : Type} [SectionReader ρ]

/-- A fresh worker. -/
def make (name : String) (skipLimit : Int) : Worker := { name, skipLimit }

/-- Stops a running worker as failed; a stopped worker stays as it is. -/
def stop (w : Worker) : Worker :=
  if w.status = .running then { w with status := .failed } else w

/-- Whether the batch has more recoverable errors than the worker tolerates. -/
def overLimit (w : Worker) (p : Progress) : Bool :=
  w.skipLimit > 0 && decide ((p.recoverable : Int) > w.skipLimit)

/-- A record the worker writes, carrying its name. -/
def record (w : Worker) (level : Level) (message : String) (attrs : List (String × String)) :
    Record :=
  ⟨level, message, ("worker", w.name) :: attrs⟩

/-- Reports an error: the worker logs it, as an error when it is fatal and as a warning
otherwise, and the progress keeps it. -/
def report (w : Worker) (e : Error) (sh : Shared ρ) : Shared ρ :=
  let attrs := [("code", e.code), ("error", Utf8.lossy e.message)]
  let r := if e.isFatal then w.record .error "fatal error" attrs
    else w.record .warn "recoverable error" attrs
  (sh.report e).write r

/-- Stops a running worker as failed on account of an error, logging that it stops. -/
def halt (w : Worker) (cause : Error) (sh : Shared ρ) : Worker × Shared ρ :=
  if w.status = .running then
    (w.stop, sh.write (w.record .info "worker stopping on fatal error" [("code", cause.code)]))
  else (w, sh)

/-- Goes on with a phase while running, else back to the claim, where the loop ends. -/
def goOn (w : Worker) (next : Phase) : Worker :=
  if w.status = .running then { w with phase := next } else { w with phase := .claim }

/-- Goes on after a failure, or after the section hook, by `k`. -/
def resume (w : Worker) : Resume → Worker
  | .claim => { w with phase := .claim }
  | .finish => { w with phase := .finish }
  | .refusals es sec => w.goOn (.refusals es sec)
  | .filter last => w.goOn (.lines [] last)
  | .lines ls last =>
    if w.status = .running then { w with phase := .lines ls last }
    else { w with phase := .complete last }
  | .complete last =>
    { (if last && w.status = .running then { w with status := .stopped } else w) with
      phase := .claim }

/-- Fails on an error: reports it, then goes on by `k`. A fatal error stops the worker
first; a recoverable one under a skip limit sends it to read the batch's count first. -/
def fail (e : Error) (k : Resume) (w : Worker) (sh : Shared ρ) : Worker × Shared ρ :=
  let sh := w.report e sh
  if e.isFatal then
    let (w, sh) := w.halt e sh
    (w.resume k, sh)
  else if w.skipLimit > 0 then ({ w with phase := .checking k }, sh)
  else (w.resume k, sh)

/-- Fails on the error of a hook's outcome, if any, and goes on by `k`. -/
def failOn (hook : String) (out : Outcome) (k : Resume) (w : Worker) (sh : Shared ρ) :
    Worker × Shared ρ :=
  match out.error? hook with
  | some e => fail e k w sh
  | none => (w.resume k, sh)

/-- One step of a worker whose processor has the state `proc`. -/
def step (p : Processor π) (w : Worker) (proc : π) (sh : Shared ρ) : Worker × π × Shared ρ :=
  match w.phase with
  | .claim =>
    if w.status ≠ .running then ({ w with phase := .finish }, proc, sh)
    else if sh.cancelled then
      let (w, sh) := fail (Error.cancelled (.condition .cancelled)) .finish w sh
      (w, proc, sh)
    else
      let (res, ns, r) := SectionReader.readSection sh.reader
      let sh := { sh with reader := r }.hear ns
      match res with
      | .error e =>
        let (w, sh) := fail e .claim w sh
        (w, proc, sh)
      | .ok sec =>
        ({ w with sections := w.sections + 1, phase := .refusals sec.rejected.toList sec },
          proc, sh)
  | .refusals [] sec => ({ w with phase := .filter sec }, proc, sh)
  | .refusals (e :: es) sec =>
    let (w, sh) := fail e (.refusals es sec) w sh
    (w, proc, sh)
  | .filter sec =>
    match p.filter with
    | none => ({ w with phase := .lines sec.lines.toList sec.last }, proc, sh)
    | some f =>
      let ((kept, out), proc) := f sec.lines.toList proc
      match out.error? "PreProcess" with
      | none => ({ w with phase := .lines kept sec.last }, proc, sh)
      | some e =>
        let (w, sh) := fail e (.filter sec.last) w sh
        (w, proc, sh)
  | .lines [] last => ({ w with phase := .complete last }, proc, sh)
  | .lines (l :: ls) last =>
    let (out, proc) := p.processLine l proc
    match out.error? "ProcessLine" with
    | none =>
      ({ w with lines := w.lines + 1, phase := .lines ls last }, proc,
        { sh with progress := sh.progress.noteLine l })
    | some e =>
      let (w, sh) := fail e (.lines ls last) w sh
      (w, proc, sh)
  | .complete last =>
    let (out, proc) := p.sectionComplete proc
    let (w, sh) := failOn "SectionComplete" out (.complete last) w sh
    (w, proc, sh)
  | .finish =>
    let (proc, sh) := if w.status = .stopped then
        let (out, proc) := p.jobComplete proc
        match out.error? "JobComplete" with
        | some e => (proc, w.report e sh)
        | none => (proc, sh)
      else (proc, sh)
    ({ w with phase := .done }, proc, sh.write (w.record .info "worker stopped"
      [("status", w.status.name), ("sections", toString w.sections), ("lines", toString w.lines)]))
  | .done => (w, proc, sh)
  | .checking k =>
    if w.overLimit sh.progress then ({ w with phase := .exceeding k }, proc, sh)
    else (w.resume k, proc, sh)
  | .exceeding k =>
    let excess := Error.skipLimit w.skipLimit.toNat
    let (w, sh) := w.halt excess (w.report excess sh)
    (w.resume k, proc, sh)

/-- Runs a worker for at most `fuel` steps, or until it has nothing more to do. -/
def runFor (p : Processor π) : Nat → Worker → π → Shared ρ → Worker × π × Shared ρ
  | 0, w, proc, sh => (w, proc, sh)
  | fuel + 1, w, proc, sh =>
    if w.phase.isDone then (w, proc, sh)
    else
      let (w, proc, sh) := step p w proc sh
      runFor p fuel w proc sh

/-- Enough steps for a worker to finish on what is left of the input: every section costs
a few steps besides two for each line, and every section but the last holds a line. -/
def stepBound (sh : Shared ρ) : Nat := 12 * (SectionReader.lineBound sh.reader + 4)

/-- Runs a worker to its end. -/
def run (p : Processor π) (w : Worker) (proc : π) (sh : Shared ρ) : Worker × π × Shared ρ :=
  runFor p (stepBound sh) w proc sh

/-- A worker that is done stays done. -/
theorem step_done (p : Processor π) (w : Worker) (proc : π) (sh : Shared ρ)
    (h : w.phase = .done) : step p w proc sh = (w, proc, sh) := by
  simp [step, h]

/-- Stopping never makes a worker run again. -/
theorem stop_status (w : Worker) : w.stop.status ≠ .running := by
  unfold stop
  split <;> simp_all

end Worker

end LineBatch
