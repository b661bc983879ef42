import LineBatch.Error
import LineBatch.Line
import LineBatch.Log
import LineBatch.Progress.Policy
import LineBatch.Charset.Measure
import LineBatch.Units.Size
import LineBatch.Decimal.Fixed

/-
  The progress of a batch.

  Progress counts units of work against a positive total: one unit
  per processed line, or, under the bytes policy, the encoded size of
  the line and its terminator. It also counts processed lines and
  skipped items, and keeps every reported error in order with the
  number of recoverable and fatal ones.

  The completion percentage is computed in double precision as
  100 · processed / total and never shown above 100: under the bytes
  policy a last line without terminator is still counted with one.

  Progress listens to cooldowns and writes no periodic status while
  one is active; the final status is written in any case.

  Key definitions:
    * `Progress`, `Progress.make`
    * `Progress.noteLine`, `Progress.noteError`, `Progress.noteSkipped`
    * `Progress.percentage`, `Progress.status?`, `Progress.finalStatus`
-/

namespace LineBatch

/-- The progress of one batch. -/
structure Progress where
  /-- The units to process; positive. -/
  total : Nat
  policy : Policy
  /-- The encoding that sizes lines under the bytes policy. -/
  charset : Charset
  processed : Nat := 0
  lines : Nat := 0
  skipped : Nat := 0
  errors : Array Error := #[]
  recoverable : Nat := 0
  fatal : Nat := 0
  /-- Whether a cooldown is going on. -/
  cooling : Bool := false

namespace Progress

/-- Fresh progress towards a total, which must be positive. -/
def make (total : Int) (policy : Policy) (charset : Charset) : Except Failure Progress :=
  if total ≤ 0 then .error (.plain "batch: total units to process must be positive")
  else .ok { total := total.toNat, policy, charset }

/-- The units a processed line is worth. -/
def units (p : Progress) (l : Line) : Nat :=
  if p.policy = .bytes then p.charset.encodedLength l.text + p.charset.eolLength else 1

/-- Counts a processed line. -/
def noteLine (p : Progress) (l : Line) : Progress :=
  { p with processed := p.processed + p.units l, lines := p.lines + 1 }

/-- Counts an item that was deliberately left out. -/
def noteSkipped (p : Progress) : Progress := { p with skipped := p.skipped + 1 }

/-- Keeps an error and counts it by severity. -/
def noteError (p : Progress) (e : Error) : Progress :=
  if e.isFatal then { p with errors := p.errors.push e, fatal := p.fatal + 1 }
  else { p with errors := p.errors.push e, recoverable := p.recoverable + 1 }

/-- Keeps an error when there is one. -/
def noteError? (p : Progress) : Option Error → Progress
  | some e => p.noteError e
  | none => p

/-- Records the start or end of a cooldown. -/
def hearCooldown (p : Progress) (active : Bool) : Progress := { p with cooling := active }

/-- The share of the total processed, in percent, rounded as doubles are and capped at
100. -/
def percentage (p : Progress) : Binary64 :=
  let hundred := Binary64.ofInt 100
  let pct := Binary64.div (Binary64.mul hundred (Binary64.ofInt p.processed))
    (Binary64.ofInt p.total)
  if Binary64.lt hundred pct then hundred else pct

/-- A number of units as status records show it: a size under the bytes policy, else
the plain count. -/
def showUnits (p : Progress) (n : Nat) : String :=
  if p.policy = .bytes then Size.format n else toString n

/-- A status record with the given message. -/
def statusRecord (p : Progress) (message : String) : Record :=
  let base := [("lines", toString p.lines),
    ("processed", p.showUnits p.processed ++ "/" ++ p.showUnits p.total),
    ("percent", p.percentage.fixed 2)]
  let skipped := if p.skipped > 0 then [("skipped", toString p.skipped)] else []
  let failed := if p.errors.size > 0 then [("failed", toString p.errors.size)] else []
  ⟨.info, message, base ++ skipped ++ failed⟩

/-- The periodic status, which is not written during a cooldown. -/
def status? (p : Progress) : Option Record :=
  if p.cooling then none else some (p.statusRecord "status")

/-- The final status, written whether or not a cooldown is going on. -/
def finalStatus (p : Progress) : Record := p.statusRecord "final status"

/-- Every kept error is counted once, as recoverable or as fatal. -/
theorem noteError_counts (p : Progress) (e : Error) :
    (p.noteError e).recoverable + (p.noteError e).fatal = p.recoverable + p.fatal + 1 := by
  unfold noteError
  split <;> simp <;> omega

/-- Noting a line adds one line and its units. -/
theorem noteLine_processed (p : Progress) (l : Line) :
    (p.noteLine l).processed = p.processed + p.units l ∧ (p.noteLine l).lines = p.lines + 1 :=
  ⟨rfl, rfl⟩

end Progress

end LineBatch
