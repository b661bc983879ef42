import LineBatch.Worker.Loop

/-
  Workers running together.

  A crew is the workers of one batch with what they share: the
  reader and the progress, and the processors, each of which may
  serve several workers, with the state the processors share. Workers
  run by interleaving their steps, and the run may be cancelled
  between any two of them. Every step is one action on the shared
  reader, progress or processor state, so any order of steps is a
  possible run of workers on threads.

  Key definitions:
    * `Crew`, `Crew.act`, `Crew.cancel`, `Event`, `Crew.runEvents`
    * `Crew.runWith`, `Crew.roundRobin`, `Crew.runAll`, `Crew.turns`
-/

namespace LineBatch

/-- The workers of a batch, the processors they use and what they share. -/
structure Crew (ρ π : Type) where
  shared : Shared ρ
  workers : Array Worker
  /-- The processor each worker uses, by position in `processors`. -/
  uses : Array Nat
  processors : Array (Processor π)
  /-- The state the processors share. -/
  procState : π

/-- What can happen next in a run: a worker takes a step, or the run is cancelled. -/
inductive Event where
  | step (i : Nat)
  | cancel

namespace Crew

variable {ρ π : Type} [SectionReader ρ]

/-- Worker `i` takes one step; a worker or processor that does not exist does nothing. -/
def act (c : Crew ρ π) (i : Nat) : Crew ρ π :=
  match c.workers[i]?, c.uses[i]? with
  | some w, some k =>
    match c.processors[k]? with
    | some p =>
      let (w, s, sh) := w.step p c.procState c.shared
      { c with shared := sh, workers := c.workers.set! i w, procState := s }
    | none => c
  | _, _ => c

/-- Cancels the run: every worker stops at its next claim. -/
def cancel (c : Crew ρ π) : Crew ρ π := { c with shared := { c.shared with cancelled := true } }

/-- What an event does to a crew. -/
def apply (c : Crew ρ π) : Event → Crew ρ π
  | .step i => c.act i
  | .cancel => c.cancel

/-- The crew after the events, in order. -/
def runEvents (c : Crew ρ π) : List Event → Crew ρ π
  | [] => c
  | e :: es => (c.apply e).runEvents es

/-- Takes `n` steps, the `k`-th by the worker the schedule names for it. -/
def runWith (schedule : Nat → Nat) : Nat → Crew ρ π → Crew ρ π
  | 0, c => c
  | n + 1, c => (runWith schedule n c).act (schedule n)

/-- Whether every worker has nothing more to do. -/
def allDone (c : Crew ρ π) : Bool := c.workers.all fun w => w.phase.isDone

/-- Worker after worker, one step each, round and round. -/
def roundRobin (c : Crew ρ π) (k : Nat) : Nat := k % c.workers.size

/-- Enough steps for every worker to finish, taking turns. -/
def stepBound (c : Crew ρ π) : Nat := c.workers.size * Worker.stepBound c.shared

/-- Runs the workers, taking turns, until all of them have finished. -/
def runAll (c : Crew ρ π) : Crew ρ π := runWith c.roundRobin c.stepBound c

/-- The workers taking turns until all of them have finished, in a run cancelled before
it started when `cancelled`. -/
def turns (cancelled : Bool) (c : Crew ρ π) : Crew ρ π :=
  (if cancelled then c.cancel else c).runAll

/-- The number of workers never changes. -/
theorem act_size (c : Crew ρ π) (i : Nat) : (c.act i).workers.size = c.workers.size := by
  unfold act
  split
  · split
    · simp
    · rfl
  · rfl

end Crew

end LineBatch
