import LineBatch.Reader.Basic

/-
  Readers that cool down.

  A cooling reader pauses after every so many lines, telling its
  listeners when a pause starts and when it ends: every listener hears
  the start, in the order they were added, and then every listener
  hears the end. A threshold of zero or less turns pausing off.

  Lines are counted one by one as they are read when the reader below
  reports every raw line; then blank and rejected lines count too, and
  so do lines read before a failure. Otherwise a section counts its
  lines and its rejected lines once it is handed out, and a single line
  counts when it is handed out or refused as malformed.

  Callers may claim side by side. When lines are counted one by one the
  count runs inside the claim, under the lock of the reader below, so a
  claim and its pauses are one step. Otherwise the count follows the
  claim with the reader free: the lines are added under the cooldown's
  own lock, the notices of a pause go out with no lock held, and the
  count starts again under the lock once they are all out, so other
  callers' steps can come in between.

  Key definitions:
    * `Cooldown`, `Cooldown.tick`, `Notice`
    * `CoolingReader`, `CoolingReader.readSection`, `CoolingReader.readLine`
    * `Caller`, `Cooldown.tickStep`, `CoolingReader.claimStep`, `CoolingReader.sideBySide`
-/

namespace LineBatch

/-- A listener hearing that a pause starts (true) or ends (false). -/
structure Notice where
  listener : Nat
  active : Bool
  deriving DecidableEq, Repr

/-- The pausing state: the threshold, whether lines are counted one by one, the count since
the last pause, and the listeners in order. -/
structure Cooldown where
  afterLines : Int
  perLine : Bool
  count : Nat
  listeners : List Nat
  deriving Repr

namespace Cooldown

/-- Whether the reader ever pauses. -/
def enabled (c : Cooldown) : Bool := c.afterLines > 0

/-- The notices of one pause. -/
def pause (c : Cooldown) : List Notice :=
  c.listeners.map (⟨·, true⟩) ++ c.listeners.map (⟨·, false⟩)

/-- Counts `n` lines; reaching the threshold pauses and starts the count again. -/
def tick (c : Cooldown) (n : Nat) : List Notice × Cooldown :=
  if !c.enabled || n = 0 then ([], c)
  else if ((c.count + n : Nat) : Int) < c.afterLines then ([], { c with count := c.count + n })
  else (c.pause, { c with count := 0 })

/-- Counts `k` lines one at a time. -/
def tickEach (c : Cooldown) : Nat → List Notice × Cooldown
  | 0 => ([], c)
  | k + 1 =>
    let (a, c) := c.tick 1
    let (b, c) := tickEach c k
    (a ++ b, c)

theorem tick_disabled (c : Cooldown) (n : Nat) (h : c.afterLines ≤ 0) : c.tick n = ([], c) := by
  have : c.enabled = false := by simp [enabled]; omega
  simp [tick, this]

end Cooldown

/-- Where a caller claiming sections stands: ready to claim, or in the count that follows
its claim when lines are counted at once, with the lines to add, the notices still to give,
or the count still to start again. -/
inductive Caller where
  | ready
  | counting (n : Nat)
  | notifying (rest : List Notice)
  | resetting
  deriving DecidableEq, Repr

namespace Cooldown

/-- One step of a count made after a claim: the lines are added under the cooldown's lock
and, when that reaches the threshold, the notices of the pause are given one at a time with
no lock held; the count starts again at zero under the lock once they are all given. -/
def tickStep (c : Cooldown) : Caller → List Notice × Caller × Cooldown
  | .ready => ([], .ready, c)
  | .counting n =>
    if !c.enabled || n = 0 then ([], .ready, c)
    else if ((c.count + n : Nat) : Int) < c.afterLines then
      ([], .ready, { c with count := c.count + n })
    else ([], .notifying c.pause, { c with count := c.count + n })
  | .notifying [] => ([], .resetting, c)
  | .notifying (x :: rest) => ([x], .notifying rest, c)
  | .resetting => ([], .ready, { c with count := 0 })

end Cooldown

/-- A reader with a cooldown. -/
structure CoolingReader (σ : Type) where
  reader : Reader σ
  cooldown : Cooldown

namespace CoolingReader

variable {σ : Type} [ByteSource σ]

/-- A cooling reader pausing after `afterLines` lines; `observes` says whether the reader
below reports every raw line. -/
def make (r : Reader σ) (afterLines : Int) (observes : Bool) (listeners : List Nat) :
    CoolingReader σ :=
  ⟨r, ⟨afterLines, observes && afterLines > 0, 0, listeners⟩⟩

/-- Counts the raw lines read since `before`, when lines are counted one by one. -/
def countRead (c : CoolingReader σ) (before : Nat) : List Notice × CoolingReader σ :=
  if c.cooldown.perLine then
    let (ns, cd) := c.cooldown.tickEach (c.reader.linesRead - before)
    (ns, { c with cooldown := cd })
  else ([], c)

/-- Hands out the next section, with the notices it caused. -/
def readSection (c : CoolingReader σ) : Except Error Section × List Notice × CoolingReader σ :=
  let before := c.reader.linesRead
  let (res, r) := c.reader.readSection
  let c := { c with reader := r }
  let (ns, c) := c.countRead before
  match res with
  | .ok sec =>
    if c.cooldown.perLine then (res, ns, c)
    else
      let (ns', cd) := c.cooldown.tick (sec.lines.size + sec.rejected.size)
      (.ok sec, ns ++ ns', { c with cooldown := cd })
  | .error _ => (res, ns, c)

/-- Hands out the next line, with the notices it caused. -/
def readLine (c : CoolingReader σ) : Except Error (Option Line) × List Notice × CoolingReader σ :=
  let before := c.reader.linesRead
  let (res, r) := c.reader.readLine
  let c := { c with reader := r }
  let (ns, c) := c.countRead before
  if c.cooldown.perLine then (res, ns, c)
  else
    let counts := match res with
      | .ok (some _) => true
      | .error e => e.code == Error.codeFormat
      | .ok none => false
    if counts then
      let (ns', cd) := c.cooldown.tick 1
      (res, ns ++ ns', { c with cooldown := cd })
    else (res, ns, c)

/-- One step of a caller. A ready caller claims a section under the reader's lock; when
lines are counted one by one they are counted there, and otherwise the caller goes on to
count what it was handed, one step of the count at a time. -/
def claimStep (c : CoolingReader σ) : Caller → List Notice × Caller × CoolingReader σ
  | .ready =>
    if c.cooldown.perLine then (c.readSection.2.1, .ready, c.readSection.2.2)
    else
      let (res, r) := c.reader.readSection
      match res with
      | .ok sec => ([], .counting (sec.lines.size + sec.rejected.size), { c with reader := r })
      | .error _ => ([], .ready, { c with reader := r })
  | k =>
    let (ns, k, cd) := c.cooldown.tickStep k
    (ns, k, { c with cooldown := cd })

/-- Callers claiming side by side: at each turn the caller `order` names makes one step, and
a turn naming no caller passes. -/
def sideBySide (c : CoolingReader σ) (callers : List Caller) :
    List Nat → List Notice × List Caller × CoolingReader σ
  | [] => ([], callers, c)
  | i :: order =>
    match callers[i]? with
    | none => c.sideBySide callers order
    | some k =>
      let (ns, k, c) := c.claimStep k
      let (ms, callers, c) := c.sideBySide (callers.set i k) order
      (ns ++ ms, callers, c)

/-- Closes the reader below. -/
def close (c : CoolingReader σ) : Option Error × CoolingReader σ :=
  let (e, r) := c.reader.close
  (e, { c with reader := r })

end CoolingReader

end LineBatch
