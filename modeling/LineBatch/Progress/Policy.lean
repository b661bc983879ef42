import LineBatch.Text.Keyword
import LineBatch.Text.Quoted

/-
  Progress policies.

  A policy says what one processed line adds to progress: one unit
  per line, or the size of the line in its input's encoding together
  with its terminator. Policies are numbered from zero in that order;
  other numbers name no policy and are shown by number.

  Key definitions:
    * `Policy`, `Policy.ofInt`, `Policy.name`, `Policy.parse`
-/

namespace LineBatch

/-- What a processed line adds to progress. -/
inductive Policy where
  /-- One unit per line. -/
  | lines
  /-- The encoded size of the line and its terminator. -/
  | bytes
  /-- A number that names no policy. -/
  | other (n : Int)
  deriving DecidableEq, Repr

namespace Policy

/-- The policy of a number: 0 counts lines, 1 counts bytes. -/
def ofInt (n : Int) : Policy :=
  if n = 0 then .lines else if n = 1 then .bytes else .other n

/-- The number of a policy. -/
def toInt : Policy → Int
  | .lines => 0
  | .bytes => 1
  | .other n => n

/-- The name of a policy; numbers that name none are shown as Policy(n). -/
def name : Policy → String
  | .lines => "lines"
  | .bytes => "bytes"
  | .other n => "Policy(" ++ toString n ++ ")"

/-- Reads a policy name, ignoring surrounding blanks and case; an empty name counts lines. -/
def parse (s : String) : Except String Policy :=
  match Keyword.normalize s with
  | "" => .ok .lines
  | "lines" => .ok .lines
  | "bytes" => .ok .bytes
  | _ => .error ("batch: unknown progress policy " ++ Quoted.quote s)

end Policy

end LineBatch
