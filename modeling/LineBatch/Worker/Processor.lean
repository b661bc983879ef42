import LineBatch.Error
import LineBatch.Line

/-
  Processors: what a worker does with the lines it claims.

  A processor has three hooks: one for every line, one after every
  section (to flush what it gathered), and one when its worker stops
  normally. It may have a fourth, a filter that sees the lines of a
  section before they are processed and may drop or merge them.

  Each hook succeeds, fails with a failure, or stops abnormally with
  a value. An abnormal stop is caught: it becomes a fatal error that
  names the hook and the value, and it stops only the worker whose
  processor it was.

  The processors of a batch share one state, threaded through their
  hooks: each works on its own part of it, and they may write to a
  part they share, such as a result file. A processor whose state is
  its own keeps it in one slot of an array of states.

  Key definitions:
    * `Outcome`, `Outcome.error?`, `Processor`, `Processor.atSlot`
-/

namespace LineBatch

/-- What a processor hook gave back. -/
inductive Outcome where
  /-- The hook succeeded. -/
  | ok
  /-- The hook failed. -/
  | failed (f : Failure)
  /-- The hook stopped abnormally with a value. -/
  | aborted (value : Bytes)

namespace Outcome

/-- The error a hook's outcome reports, if any: a failure as it is classified, and an
abnormal stop as a fatal error naming the hook. -/
def error? (hook : String) : Outcome → Option Error
  | .ok => none
  | .failed f => some f.toError
  | .aborted v => some (Error.abnormal hook v)

/-- An abnormal stop is always fatal. -/
theorem aborted_fatal (hook : String) (v : Bytes) :
    ∃ e, (aborted v).error? hook = some e ∧ e.isFatal = true :=
  ⟨_, rfl, rfl⟩

end Outcome

/-- A processor whose own state has type `π`. -/
structure Processor (π : Type) where
  /-- Handles one line. -/
  processLine : Line → π → Outcome × π
  /-- Runs after every section whose processing started. -/
  sectionComplete : π → Outcome × π
  /-- Runs once when the worker stops normally. -/
  jobComplete : π → Outcome × π
  /-- The optional filter of a section's lines; the lines it gives are used only when it
  succeeds. -/
  filter : Option (List Line → π → (List Line × Outcome) × π)

namespace Processor

variable {ρ α : Type}

/-- Runs a hook on slot `k` of an array of states; without that slot the hook gives
`absent` and nothing changes. -/
def onSlot (k : Nat) (absent : α) (f : ρ → α × ρ) (s : Array ρ) : α × Array ρ :=
  match s[k]? with
  | some t =>
    let (a, t) := f t
    (a, s.set! k t)
  | none => (absent, s)

/-- A processor keeping its state in slot `k` of an array of states. -/
def atSlot (p : Processor ρ) (k : Nat) : Processor (Array ρ) where
  processLine l := onSlot k .ok (p.processLine l)
  sectionComplete := onSlot k .ok p.sectionComplete
  jobComplete := onSlot k .ok p.jobComplete
  filter := p.filter.map fun f ls => onSlot k (ls, .ok) (f ls)

end Processor

end LineBatch
