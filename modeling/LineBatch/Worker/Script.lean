import LineBatch.Worker.Processor
import LineBatch.Pattern.Regex

/-
  Scripted processors.

  A script says, by rules, what a processor does with each line, and
  on which calls its section hook and its filter fail. It makes a
  processor for every kind of outcome: success, a recoverable or
  fatal processing error, a malformed line, a failure without a code,
  or an abnormal stop. The processor keeps the texts of the lines it
  processed and counts the calls of its hooks.

  Key definitions:
    * `Action`, `Action.outcome`, `Rule`, `Screen`, `Script`, `Tally`
    * `Script.processor`
-/

namespace LineBatch

/-- What a scripted hook does. -/
inductive Action where
  /-- Succeeds. -/
  | ok
  /-- Fails with a recoverable processing error. -/
  | recoverable
  /-- Fails with a fatal processing error. -/
  | fatal
  /-- Reports a malformed line. -/
  | format
  /-- Fails without a code. -/
  | plain
  /-- Stops abnormally. -/
  | abort
  deriving DecidableEq, Repr

namespace Action

/-- An action by name; unknown names do nothing. -/
def ofName : String → Action
  | "recoverable" => .recoverable
  | "fatal" => .fatal
  | "format" => .format
  | "plain" => .plain
  | "panic" => .abort
  | _ => .ok

/-- The outcome of an action on a text: the line, or the name of the call. -/
def outcome (a : Action) (t : Bytes) : Outcome :=
  match a with
  | .ok => .ok
  | .recoverable =>
    .failed (.coded (Error.processing .recoverable none (Bytes.ofString "rejected " ++ t)))
  | .fatal =>
    .failed (.coded (Error.processing .fatal (some (Cause.plain "processor failure"))
      (Bytes.ofString "failed " ++ t)))
  | .format => .failed (.coded (Error.format t (some (Cause.plain "bad format"))))
  | .plain => .failed (.cause (.text (Bytes.ofString "plain failure: " ++ t)))
  | .abort => .aborted (Bytes.ofString "boom: " ++ t)

end Action

/-- A rule: lines in which the pattern finds a match get the action. -/
structure Rule where
  pattern : Regex
  action : Action

/-- A scripted filter: it drops the lines its pattern finds a match in, and on the calls
listed fails with its action, giving back the lines unfiltered. -/
structure Screen where
  drop : Option Regex
  failOn : List Nat
  action : Action

/-- A script for a processor. -/
structure Script where
  rules : List Rule
  /-- The calls of the section hook, counted from 1, that take the section action. -/
  sectionFailOn : List Nat
  sectionAction : Action
  jobAction : Action
  screen : Option Screen

/-- What a scripted processor keeps: the texts it processed and the calls of its hooks. -/
structure Tally where
  processed : Array Bytes := #[]
  sectionCalls : Nat := 0
  jobCalls : Nat := 0
  filterCalls : Nat := 0

namespace Script

/-- The action of the first rule that matches a text; none matching means success. -/
def actionFor (s : Script) (t : Bytes) : Action :=
  match s.rules.find? fun r => r.pattern.findsIn t with
  | some r => r.action
  | none => .ok

/-- The text naming a numbered call of a hook. -/
def callText (hook : String) (n : Nat) : Bytes := Bytes.ofString (hook ++ " " ++ toString n)

/-- The filter of a screen, on the given call. -/
def screenLines (sc : Screen) (n : Nat) (ls : List Line) : List Line × Outcome :=
  if n ∈ sc.failOn then (ls, sc.action.outcome (callText "filter" n))
  else
    match sc.drop with
    | some re => (ls.filter fun l => !re.findsIn l.text, .ok)
    | none => (ls, .ok)

/-- The processor a script describes. -/
def processor (s : Script) : Processor Tally where
  processLine l t :=
    let out := (s.actionFor l.text).outcome l.text
    match out with
    | .ok => (out, { t with processed := t.processed.push l.text })
    | _ => (out, t)
  sectionComplete t :=
    let n := t.sectionCalls + 1
    let out := if n ∈ s.sectionFailOn then s.sectionAction.outcome (callText "section" n)
      else .ok
    (out, { t with sectionCalls := n })
  jobComplete t := (s.jobAction.outcome (Bytes.ofString "job"), { t with jobCalls := t.jobCalls + 1 })
  filter := s.screen.map fun sc ls t =>
    let n := t.filterCalls + 1
    (screenLines sc n ls, { t with filterCalls := n })

/-- A line that no rule matches is processed successfully. -/
theorem actionFor_nil (t : Bytes) (s : Script) (h : s.rules = []) : s.actionFor t = .ok := by
  simp [actionFor, h]

end Script

end LineBatch
