/-
  The states of a worker.

  A worker is running until it stops: normally, when its input is
  used up, or because it failed. States are numbered from zero in
  that order; other numbers name no state and are shown by number.

  Key definitions:
    * `Status`, `Status.ofInt`, `Status.name`
-/

namespace LineBatch

/-- Where a worker is in its life. -/
inductive Status where
  | running
  | stopped
  | failed
  /-- A number that names no state. -/
  | other (n : Int)
  deriving DecidableEq, Repr

namespace Status

/-- The state of a number: 0 running, 1 stopped, 2 failed. -/
def ofInt (n : Int) : Status :=
  if n = 0 then .running else if n = 1 then .stopped else if n = 2 then .failed else .other n

/-- The name of a state; numbers that name none are shown as Status(n). -/
def name : Status → String
  | .running => "running"
  | .stopped => "stopped"
  | .failed => "failed"
  | .other n => "Status(" ++ toString n ++ ")"

end Status

end LineBatch
