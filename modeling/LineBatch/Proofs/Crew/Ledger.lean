import LineBatch.Proofs.Worker.Moves
import LineBatch.Batch.Crew
import Mathlib.Data.List.Perm.Subperm
import Mathlib.Data.List.Count
import Mathlib.Logic.Function.Basic

/-
  The ledger of a run: what the workers did with the lines of the
  input.

  The ledger is read off the workers: a step of worker `i` is seen
  through its state before and after the step. A claim that succeeds
  hands out the lines of a section; a step on a line gives it to the
  processor, which takes it or fails on it; a filter leaves lines
  out, by its choice or because it failed; a worker that stops on a
  fatal error abandons the lines of its section it has not processed.
  The lines a worker took in a section form a block, closed when the
  section is completed.

  The lines of a section stay with the worker that claimed it until
  they are given to the processor, filtered out or abandoned
  (`Worker.holding`). A filter may also hand on lines it was not given
  (`Worker.addedBy`). `Worker.balance` is the bookkeeping of one step:
  what the step hands out, what the worker held before and what its
  filter added are what it spent and what it holds after.

  Main declarations:
    * `Worker.holding`, `Ledger`, `Ledger.note`
    * `Crew.note`, `Crew.ledger`
    * `Worker.balance`, `Worker.addedBy_of_keeps`
-/

------------------------------------------------------------
-- What a Step Does With Lines
------------------------------------------------------------

namespace LineBatch

open List

/- The lines of its section a worker that goes on by `k` still holds. -/
def Resume.holding : Resume → List Line
  | .refusals _ sec => sec.lines.toList
  | .lines pending _ => pending
  | _ => []

namespace Worker

/- The lines of its section a worker still holds. -/
def holding (w : Worker) : List Line :=
  match w.phase with
  | .refusals _ sec => sec.lines.toList
  | .filter sec => sec.lines.toList
  | .lines pending _ => pending
  | .checking k => k.holding
  | .exceeding k => k.holding
  | _ => []

/- The lines of the section a step claimed, if it claimed one. -/
def claimedBy (w w' : Worker) : List (List Line) :=
  match w.phase, w'.phase with
  | .claim, .refusals _ sec => [sec.lines.toList]
  | _, _ => []

/- The line a step gave to the processor. -/
def fedBy (w : Worker) : List Line :=
  match w.phase with
  | .lines (l :: _) _ => [l]
  | _ => []

/- The line the processor took without an error. -/
def tookBy (w w' : Worker) : List Line :=
  match w.phase with
  | .lines (l :: _) _ => if w'.lines = w.lines + 1 then [l] else []
  | _ => []

/- The lines a filter left out, by its choice or because it failed. -/
def filteredBy (w w' : Worker) : List Line :=
  match w.phase, w'.phase with
  | .filter sec, .lines kept _ => sec.lines.toList.diff kept
  | .filter sec, .claim => sec.lines.toList
  | .filter sec, .checking _ => sec.lines.toList
  | _, _ => []

/- The lines a filter handed on beyond those it was given. -/
def addedBy (w w' : Worker) : List Line :=
  match w.phase, w'.phase with
  | .filter sec, .lines kept _ => kept.diff sec.lines.toList
  | _, _ => []

/- The lines a worker that stopped on a fatal error left unprocessed. -/
def abandonedBy (w w' : Worker) : List Line :=
  match w.phase, w'.phase with
  | .refusals (_ :: _) sec, .claim => sec.lines.toList
  | .lines (_ :: ls) _, .complete _ => ls
  | .checking k, .claim => k.holding
  | .checking k, .complete _ => k.holding
  | .exceeding k, _ => k.holding
  | _, _ => []

/- Whether a step completes a section. -/
def completes (w : Worker) : Bool :=
  match w.phase with
  | .complete _ => true
  | _ => false

end Worker

------------------------------------------------------------
-- Ledgers
------------------------------------------------------------

/- An account of what a run did with the lines of its input. -/
structure Ledger where
  /-- The lines of each section handed out, in the order of the claims. -/
  handed : List (List Line) := []
  /-- The lines given to the processors, in order. -/
  fed : List Line := []
  /-- The lines the processors took without an error, in order. -/
  taken : List Line := []
  /-- The lines the filters left out. -/
  filtered : List Line := []
  /-- The lines the filters handed on beyond those they were given. -/
  added : List Line := []
  /-- The lines abandoned by a worker that stopped on a fatal error, with the worker. -/
  abandoned : List (Nat × Line) := []
  /-- The lines each worker took in the section it is working on. -/
  block : Nat → List Line := fun _ => []
  /-- The lines taken in each completed section, in the order of completion. -/
  blocks : List (List Line) := []

namespace Ledger

/- What one step of worker `i`, from `w` to `w'`, adds to the ledger. -/
def note (i : Nat) (w w' : Worker) (L : Ledger) : Ledger :=
  let block := L.block i ++ w.tookBy w'
  { handed := L.handed ++ w.claimedBy w'
    fed := L.fed ++ w.fedBy
    taken := L.taken ++ w.tookBy w'
    filtered := L.filtered ++ w.filteredBy w'
    added := L.added ++ w.addedBy w'
    abandoned := L.abandoned ++ (w.abandonedBy w').map (i, ·)
    block := Function.update L.block i (if w.completes then [] else block)
    blocks := if w.completes then L.blocks ++ [block] else L.blocks }

end Ledger

namespace Crew

variable {ρ π : Type} [SectionReader ρ]

/- What an event adds to the ledger. -/
def note (c : Crew ρ π) (L : Ledger) : Event → Ledger
  | .step i =>
    match c.workers[i]?, c.uses[i]? with
    | some w, some k =>
      match c.processors[k]? with
      | some p => L.note i w (w.step p c.procState c.shared).1
      | none => L
    | _, _ => L
  | .cancel => L

/- The ledger of a run of events, added to `L`. -/
def ledger (c : Crew ρ π) (L : Ledger) : List Event → Ledger
  | [] => L
  | e :: es => (c.apply e).ledger (c.note L e) es

omit [SectionReader ρ] in
/- The workers after worker `i` moved: the one that moved, or one that did not. -/
theorem mem_set_cases
    {c : Crew ρ π}
    {i : Nat}
    {w' v : Worker}
    (hv : v ∈ c.workers.set! i w') :
    v = w' ∨ v ∈ c.workers := by
  rw [← Array.mem_toList_iff, Array.set!_eq_setIfInBounds, Array.toList_setIfInBounds] at hv
  rcases List.mem_or_eq_of_mem_set hv with h | h
  · exact .inr (Array.mem_toList_iff.1 h)
  · exact .inl h

/- A step of a worker with a processor. -/
theorem act_of_get
    {c : Crew ρ π}
    {i k : Nat}
    {w : Worker}
    {p : Processor π}
    (hw : c.workers[i]? = some w)
    (hk : c.uses[i]? = some k)
    (hp : c.processors[k]? = some p) :
    c.act i =
      { c with
        shared := (w.step p c.procState c.shared).2.2
        workers := c.workers.set! i (w.step p c.procState c.shared).1
        procState := (w.step p c.procState c.shared).2.1 } := by
  simp [act, hw, hk, hp]

theorem note_of_get
    {c : Crew ρ π}
    {L : Ledger}
    {i k : Nat}
    {w : Worker}
    {p : Processor π}
    (hw : c.workers[i]? = some w)
    (hk : c.uses[i]? = some k)
    (hp : c.processors[k]? = some p) :
    c.note L (.step i) = L.note i w (w.step p c.procState c.shared).1 := by
  simp [note, hw, hk, hp]

/- A worker without a processor takes no step, and the ledger does not move. -/
theorem act_of_stuck
    {c : Crew ρ π}
    {L : Ledger}
    {i : Nat}
    (h : ∀ w k p, c.workers[i]? = some w → c.uses[i]? = some k →
      c.processors[k]? = some p → False) :
    c.act i = c ∧ c.note L (.step i) = L := by
  rcases hw : c.workers[i]? with _ | w
  · simp [act, note, hw]
  · rcases hk : c.uses[i]? with _ | k
    · simp [act, note, hw, hk]
    · rcases hp : c.processors[k]? with _ | p
      · simp [act, note, hw, hk, hp]
      · exact (h w k p hw hk hp).elim

/-
  A property of a crew and its ledger holds after any event when a
  cancel keeps it and the step of every worker with a processor keeps
  it: a worker without one takes no step.
-/
theorem apply_of_steps
    (P : Crew ρ π → Ledger → Prop)
    {c : Crew ρ π}
    {L : Ledger}
    (h : P c L)
    (hCancel : P c.cancel L)
    (hStep : ∀ i k w p, c.workers[i]? = some w → c.uses[i]? = some k →
      c.processors[k]? = some p →
      P (c.act i) (L.note i w (w.step p c.procState c.shared).1))
    (e : Event) :
    P (c.apply e) (c.note L e) := by
  cases e with
  | cancel => exact hCancel
  | step i =>
    by_cases hGet : ∃ w k p,
        c.workers[i]? = some w ∧ c.uses[i]? = some k ∧ c.processors[k]? = some p
    · obtain ⟨w, k, p, hw, hk, hp⟩ := hGet
      rw [show c.apply (.step i) = c.act i from rfl, note_of_get hw hk hp]
      exact hStep i k w p hw hk hp
    · obtain ⟨hAct, hNote⟩ :=
        @act_of_stuck ρ π _ c L i fun w k p hw hk hp => hGet ⟨w, k, p, hw, hk, hp⟩
      rw [show c.apply (.step i) = c.act i from rfl, hAct, hNote]
      exact h

end Crew

------------------------------------------------------------
-- The Bookkeeping of One Step
------------------------------------------------------------

namespace Processor

variable {π : Type}

/- A processor whose filter, if it has one, keeps some of the lines it is given. -/
def KeepsLines (p : Processor π) : Prop :=
  ∀ f, p.filter = some f → ∀ ls s, (f ls s).1.1 <+~ ls

end Processor

namespace Worker

variable {ρ π : Type} [SectionReader ρ]

omit [SectionReader ρ] in
/- A filter that keeps some of its lines leaves out the rest. -/
theorem perm_diff_of_subperm
    {kept ls : List Line}
    (h : kept <+~ ls) :
    ls ~ ls.diff kept ++ kept :=
  (List.perm_append_comm.trans
    (List.subperm_append_diff_self_of_count_le (List.subperm_ext_iff.1 h))).symm

omit [SectionReader ρ] in
/- What a filter hands on and what it leaves out are what it was given and what it added. -/
theorem perm_diff_append_diff (kept ls : List Line) :
    ls ++ kept.diff ls ~ ls.diff kept ++ kept := by
  rw [List.perm_iff_count]
  intro x
  simp only [List.count_append, List.count_diff]
  omega

omit [SectionReader ρ] in
/- A filter keeping some of its lines adds none. -/
theorem diff_eq_nil_of_subperm {kept ls : List Line} (h : kept <+~ ls) : kept.diff ls = [] := by
  rw [← List.subperm_nil, List.subperm_iff_count]
  intro x
  have hLe := List.subperm_iff_count.1 h x
  rw [List.count_diff, List.count_nil]
  omega

/-
  One step moves lines without losing or repeating any: the section it
  hands out, what the worker held and what its filter added are what it
  gave to the processor, filtered out or abandoned, and what it holds
  after. A failing worker keeps the rest of its section, abandons it
  once stopped, or reads the count and then goes on by where it
  resumes; the skip-limit error stops it, and it abandons what it holds.
-/
theorem balance
    {p : Processor π}
    {w w' : Worker}
    {s s' : π}
    {sh sh' : Shared ρ}
    (hMoves : Moves p w s sh w' s' sh') :
    (w.claimedBy w').flatten ++ w.holding ++ w.addedBy w' ~
      w.fedBy ++ w.filteredBy w' ++ w.abandonedBy w' ++ w'.holding := by
  cases hMoves with
  | cancel hPhase _ _ hW | claimFails hPhase _ _ _ hW | refuse hPhase hW
  | filterFails hPhase _ _ _ hW | lineFails hPhase _ _ hW | completeFails hPhase _ _ hW =>
    rcases hW.phase with h | h | h <;>
      simp [claimedBy, fedBy, filteredBy, addedBy, abandonedBy, holding, hPhase, h,
        Resume.onward, Resume.halted, Resume.holding]
  | @unfiltered sec hPhase _ =>
    simpa [claimedBy, fedBy, filteredBy, addedBy, abandonedBy, holding, hPhase]
      using perm_diff_append_diff sec.lines.toList sec.lines.toList
  | @filtered f kept out s₁ sec hPhase hFilter hRun =>
    simpa [claimedBy, fedBy, filteredBy, addedBy, abandonedBy, holding, hPhase]
      using perm_diff_append_diff kept sec.lines.toList
  | @complete last _ _ hPhase =>
    rcases resume_phase w (.complete last) with h | h <;>
      simp [claimedBy, fedBy, filteredBy, addedBy, abandonedBy, holding, hPhase, h,
        Resume.onward, Resume.halted]
  | @checkUnder k hPhase =>
    rcases resume_phase w k with h | h <;> cases k <;>
      simp [claimedBy, fedBy, filteredBy, addedBy, abandonedBy, holding, hPhase, h,
        Resume.onward, Resume.halted, Resume.holding]
  | @exceed k _ hPhase =>
    cases k <;> simp [claimedBy, fedBy, filteredBy, addedBy, abandonedBy, holding, hPhase,
      stop_resume_phase, Resume.halted, Resume.holding]
  | _ => simp_all [claimedBy, fedBy, filteredBy, addedBy, abandonedBy, holding]

/- With a filter that keeps some of its lines, no step adds a line. -/
theorem addedBy_of_keeps
    {p : Processor π}
    {w w' : Worker}
    {s s' : π}
    {sh sh' : Shared ρ}
    (hMoves : Moves p w s sh w' s' sh')
    (hKeeps : p.KeepsLines) :
    w.addedBy w' = [] := by
  cases hMoves with
  | @unfiltered sec hPhase _ =>
    simp [addedBy, hPhase, diff_eq_nil_of_subperm (List.Subperm.refl _)]
  | @filtered f kept out s₁ sec hPhase hFilter hRun _ =>
    have hSub : kept <+~ sec.lines.toList := by
      simpa [hRun] using hKeeps f hFilter sec.lines.toList s
    simp [addedBy, hPhase, diff_eq_nil_of_subperm hSub]
  | filterFails hPhase _ _ _ hW =>
    rcases hW.phase with h | h | h <;> simp [addedBy, hPhase, h, Resume.onward, Resume.halted]
  | _ => simp_all [addedBy]

end Worker

end LineBatch
