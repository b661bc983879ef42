import LineBatch.Jobs.Extract
import LineBatch.Proofs.Crew.Tally
import LineBatch.Proofs.Batch.Launch
import Mathlib.Tactic.Common

/-
  The result file of an extract run.

  Every worker of an extract run has a buffer of its own: its processor
  puts the extract of every line it takes there, and writes the buffer
  to the result file when the section is completed. The file therefore
  holds one block of records for every completed section, in the order
  the sections were completed; a block is the extracts of the lines the
  worker took in that section, in input order, one record each, ended
  by a line feed. Blocks of two sections never interleave, no line taken
  is left in a buffer once the workers are done, and none is written
  twice.

  The file is kept when something was written, which is when a line was
  taken, that is when the summary counts one.

  Main declarations:
    * `Line.extract`, `extractRecords`
    * `Worker.extraction_step`, `Worker.Moves.consumes`
    * `Crew.Extracts`, `Crew.Extracts.run`
-/

namespace LineBatch

open List

------------------------------------------------------------
-- Records
------------------------------------------------------------

namespace Line

/- What a line gives the result file: its chosen fields joined by `sep`, or its text when
no field is chosen. -/
def extract (fields : List Int) (sep : Bytes) (l : Line) : Bytes :=
  if fields.isEmpty then l.text else sep.intercalate (fields.filterMap l.field?)

/- A line has every chosen field when picking them succeeds, and they are picked in order. -/
theorem pick_ok
    {l : Line}
    {fields : List Int}
    {vs : List Bytes}
    (h : l.pick fields = .ok vs) :
    vs = fields.filterMap l.field? := by
  induction fields generalizing vs with
  | nil =>
    simp only [pick, Except.ok.injEq] at h
    simp [← h]
  | cons f fs ih =>
    rcases hf : l.field? f with _ | v
    · simp [pick, hf] at h
    · rcases hfs : l.pick fs with _ | vs'
      · simp [pick, hf, hfs, Except.map] at h
      · simp only [pick, hf, hfs, Except.map, Except.ok.injEq] at h
        simp [← h, hf, ih hfs]

end Line

/- The records of a block of lines: the extract of every line, each ended by a line
feed. -/
def extractRecords (fields : List Int) (sep : Bytes) (ls : List Line) : Bytes :=
  ls.flatMap fun l => l.extract fields sep ++ [10]

@[simp]
theorem extractRecords_append
    (fields : List Int)
    (sep : Bytes)
    (ls ls' : List Line) :
    extractRecords fields sep (ls ++ ls') =
      extractRecords fields sep ls ++ extractRecords fields sep ls' := by
  simp [extractRecords]

/- A block writes nothing only when it holds no line: every record ends in a line feed. -/
theorem extractRecords_eq_nil
    {fields : List Int}
    {sep : Bytes}
    {ls : List Line} :
    extractRecords fields sep ls = [] ↔ ls = [] := by
  cases ls <;> simp [extractRecords]

/- The records of blocks written one after another. -/
theorem flatMap_extractRecords
    (fields : List Int)
    (sep : Bytes)
    (blocks : List (List Line)) :
    blocks.flatMap (extractRecords fields sep) = extractRecords fields sep blocks.flatten := by
  induction blocks with
  | nil => rfl
  | cons blk blocks ih => simp [ih]

------------------------------------------------------------
-- Extractors
------------------------------------------------------------

namespace ExtractJob

variable {fields : List Int} {sep : Bytes} {k : Nat}

/- An extractor that takes a line gathers its extract. -/
theorem processLine_ok
    {l : Line}
    {x x' : Extraction}
    {out : Outcome}
    (hRun : (processor fields sep k).processLine l x = (out, x'))
    (hOut : out.error? "ProcessLine" = none) :
    x' = x.gather k (l.extract fields sep) := by
  by_cases hNone : fields.isEmpty
  · simp only [processor, hNone, if_true, Prod.mk.injEq] at hRun
    simp [← hRun.2, Line.extract, hNone]
  · rcases hPick : l.pick fields with f | vs
    · simp only [processor, hNone, hPick, Bool.false_eq_true, if_false, Prod.mk.injEq] at hRun
      simp [← hRun.1, Outcome.error?] at hOut
    · simp only [processor, hNone, hPick, Bool.false_eq_true, if_false, Prod.mk.injEq] at hRun
      simp [← hRun.2, Line.extract, hNone, Line.pick_ok hPick]

/- An extractor that fails on a line gathers nothing. -/
theorem processLine_fails
    {l : Line}
    {x x' : Extraction}
    {out : Outcome}
    {e : Error}
    (hRun : (processor fields sep k).processLine l x = (out, x'))
    (hOut : out.error? "ProcessLine" = some e) :
    x' = x := by
  by_cases hNone : fields.isEmpty
  · simp only [processor, hNone, if_true, Prod.mk.injEq] at hRun
    simp [← hRun.1, Outcome.error?] at hOut
  · rcases hPick : l.pick fields with f | vs
    · simp only [processor, hNone, hPick, Bool.false_eq_true, if_false, Prod.mk.injEq] at hRun
      exact hRun.2.symm
    · simp only [processor, hNone, hPick, Bool.false_eq_true, if_false, Prod.mk.injEq] at hRun
      simp [← hRun.1, Outcome.error?] at hOut

end ExtractJob

------------------------------------------------------------
-- What a Step Does to a Section
------------------------------------------------------------

/- Whether a worker that goes on by `k` goes on giving the lines of its section. -/
def Resume.taking : Resume → Bool
  | .lines _ _ => true
  | _ => false

namespace Worker

/- Whether a worker is working on a section it claimed. -/
def inSection (w : Worker) : Bool :=
  match w.phase with
  | .refusals _ _ | .filter _ | .lines _ _ | .complete _ => true
  | .checking k | .exceeding k => k.busy
  | _ => false

/- Whether a worker is giving the lines of its section to the processor, or completing it. -/
def taking (w : Worker) : Bool :=
  match w.phase with
  | .lines _ _ | .complete _ => true
  | .checking k | .exceeding k => k.taking
  | _ => false

variable {ρ π : Type} [SectionReader ρ]

/- A step that completes a section takes no line. -/
theorem tookBy_of_completes
    {w w' : Worker}
    (h : w.completes = true) :
    w.tookBy w' = [] := by
  unfold completes at h
  unfold tookBy
  split <;> simp_all

/- A step that took a line was giving the lines of a section. -/
theorem taking_of_tookBy
    {w w' : Worker}
    (h : w.tookBy w' ≠ []) :
    w.taking = true := by
  unfold tookBy at h
  split at h
  · simp_all [taking]
  · simp at h

/- A worker that is not in a section holds no line. -/
theorem holding_of_not_inSection
    {w : Worker}
    (h : w.inSection = false) :
    w.holding = [] := by
  unfold inSection at h
  unfold holding
  rcases hPh : w.phase with _ | _ | _ | _ | _ | _ | _ | k | k <;> simp only [hPh] at h ⊢ <;>
    first
    | rfl
    | simp at h
    | cases k <;> simp_all [Resume.busy, Resume.holding]

/-
  A step hands out a section only from a claim, to a worker that holds
  nothing, took nothing, and is in no section yet; afterwards it holds
  the whole section.
-/
theorem claimedBy_cases
    (w w' : Worker) :
    w.claimedBy w' = [] ∨
      ∃ sec, w.claimedBy w' = [sec] ∧ w.inSection = false ∧ w.taking = false ∧
        w.completes = false ∧ w.tookBy w' = [] ∧ w'.inSection = true ∧ w'.holding = sec := by
  unfold claimedBy
  split
  · rename_i es sec hPhase hPhase'
    exact .inr ⟨_, rfl, by simp [inSection, hPhase], by simp [taking, hPhase],
      by simp [completes, hPhase], by simp [tookBy, hPhase], by simp [inSection, hPhase'],
      by simp [holding, hPhase']⟩
  · exact .inl rfl

/-
  A step that completes a section leaves it: the worker held no line,
  took none, claimed nothing, and is in no section afterwards.
-/
theorem Moves.completes_leaves
    {p : Processor π}
    {w w' : Worker}
    {s s' : π}
    {sh sh' : Shared ρ}
    (hMoves : Moves p w s sh w' s' sh')
    (hDone : w.completes = true) :
    w.inSection = true ∧ w.holding = [] ∧ w'.inSection = false ∧ w.claimedBy w' = [] ∧
      w.tookBy w' = [] := by
  cases hMoves with
  | @complete last _ _ hPhase =>
    rcases resume_phase w (.complete last) with h | h <;>
      simp [inSection, holding, claimedBy, tookBy, hPhase, h, Resume.onward, Resume.halted]
  | completeFails hPhase _ _ hW =>
    rcases hW.phase with h | h | h <;>
      simp [inSection, holding, claimedBy, tookBy, hPhase, h, Resume.onward, Resume.halted,
        Resume.busy]
  | leave hPhase | cancel hPhase | claimFails hPhase | claim hPhase | refused hPhase
  | refuse hPhase | unfiltered hPhase | filtered hPhase | filterFails hPhase | processed hPhase
  | process hPhase | lineFails hPhase | finish hPhase | done hPhase | checkUnder hPhase
  | checkOver hPhase | exceed hPhase =>
    simp [completes, hPhase] at hDone

/-
  A worker that goes on with the lines of its section, and does not
  complete it, still has lines to give or the section to complete.
-/
theorem Moves.still_taking
    {p : Processor π}
    {w w' : Worker}
    {s s' : π}
    {sh sh' : Shared ρ}
    (hMoves : Moves p w s sh w' s' sh')
    (hTaking : w.taking = true)
    (hGoing : w.completes = false) :
    w'.taking = true := by
  cases hMoves with
  | processed hPhase | process hPhase => simp [taking]
  | lineFails hPhase _ _ hW =>
    rcases hW.phase with h | h | h <;>
      simp [taking, h, Resume.onward, Resume.halted, Resume.taking]
  | @checkUnder k hPhase =>
    rcases resume_phase w k with h | h <;> cases k <;>
      simp_all [taking, Resume.onward, Resume.halted, Resume.taking]
  | checkOver hPhase => simpa [taking, hPhase] using hTaking
  | @exceed k _ hPhase =>
    rcases resume_phase w.stop k with h | h <;> cases k <;>
      simp_all [taking, Resume.onward, Resume.halted, Resume.taking]
  | complete hPhase | completeFails hPhase => simp [completes, hPhase] at hGoing
  | leave hPhase | cancel hPhase | claimFails hPhase | claim hPhase | refused hPhase
  | refuse hPhase | unfiltered hPhase | filtered hPhase | filterFails hPhase | finish hPhase
  | done hPhase =>
    simp [taking, hPhase] at hTaking

/-
  A step of a worker without a filter that neither claims nor completes
  a section only works through it: the line it took and the lines it
  still holds are among those it held, and it is still in a section
  only if it was. A worker that stops drops the section, and one that
  reads the count keeps it.
-/
theorem Moves.consumes
    {p : Processor π}
    {w w' : Worker}
    {s s' : π}
    {sh sh' : Shared ρ}
    (hMoves : Moves p w s sh w' s' sh')
    (hFilter : p.filter = none)
    (hClaim : w.claimedBy w' = [])
    (hGoing : w.completes = false) :
    w.tookBy w' ++ w'.holding <+ w.holding ∧ (w'.inSection = true → w.inSection = true) := by
  cases hMoves with
  | cancel hPhase _ _ hW | claimFails hPhase _ _ _ hW | refuse hPhase hW =>
    rcases hW.phase with h | h | h <;>
      simp [tookBy, holding, inSection, hPhase, h, Resume.onward, Resume.halted,
        Resume.holding, Resume.busy]
  | claim hPhase => simp [claimedBy, hPhase] at hClaim
  | filtered _ hSome | filterFails _ hSome => simp [hFilter] at hSome
  | process hPhase => simp [tookBy, holding, inSection, hPhase]
  | lineFails hPhase _ _ hW =>
    rcases hW.phase with h | h | h <;>
      simp [tookBy, holding, inSection, hPhase, h, hW.lines, Resume.onward, Resume.halted,
        Resume.holding, Resume.busy]
  | @checkUnder k hPhase =>
    rcases resume_phase w k with h | h <;> cases k <;>
      simp [tookBy, holding, inSection, hPhase, h, Resume.onward, Resume.halted,
        Resume.holding, Resume.busy]
  | checkOver hPhase => simp [tookBy, holding, inSection, hPhase]
  | @exceed k _ hPhase =>
    rcases resume_phase w.stop k with h | h <;> cases k <;>
      simp [tookBy, holding, inSection, hPhase, h, Resume.onward, Resume.halted,
        Resume.holding, Resume.busy]
  | complete hPhase | completeFails hPhase => simp [completes, hPhase] at hGoing
  | leave hPhase | refused hPhase | unfiltered hPhase | processed hPhase | finish hPhase
  | done hPhase =>
    simp [tookBy, holding, inSection, hPhase]

/-
  What a step of worker `k` does to the extractors, when the buffer of
  `k` holds the extracts of `blk`, a block that is empty unless the
  worker is taking lines: a line taken is gathered, a completed section
  writes the block, and no other buffer moves. A finishing worker holds
  no block, so its last write adds nothing, and the extracting
  processor never fails to complete a section.
-/
theorem extraction_step
    {fields : List Int}
    {sep : Bytes}
    {k : Nat}
    {w w' : Worker}
    {x x' : Extraction}
    {sh sh' : Shared ρ}
    {blk : List Line}
    (hMoves : Moves (ExtractJob.processor fields sep k) w x sh w' x' sh')
    (hPending : x.pending k = blk.map (Line.extract fields sep))
    (hIdle : blk ≠ [] → w.taking = true) :
    x'.pending k =
        (if w.completes then [] else blk ++ w.tookBy w').map (Line.extract fields sep) ∧
      (∀ j, j ≠ k → x'.pending j = x.pending j) ∧
      x'.written =
        x.written ++ if w.completes then extractRecords fields sep blk else [] := by
  cases hMoves with
  | process hPhase hRun hOut =>
    rw [ExtractJob.processLine_ok hRun hOut]
    refine ⟨?_, fun j hj => by simp [Extraction.gather, hj], by
      simp [Extraction.gather, completes, hPhase]⟩
    simp [Extraction.gather, completes, tookBy, hPhase, hPending]
  | lineFails hPhase hRun hOut hW =>
    rw [ExtractJob.processLine_fails hRun hOut]
    refine ⟨?_, fun _ _ => rfl, by simp [completes, hPhase]⟩
    simp [completes, tookBy, hPhase, hPending, hW.lines]
  | complete hPhase hRun =>
    simp only [ExtractJob.processor, Prod.mk.injEq] at hRun
    rw [← hRun.2]
    refine ⟨by simp [Extraction.flush, completes, hPhase], fun j hj => by
      simp [Extraction.flush, hj], ?_⟩
    simp [Extraction.flush, completes, hPhase, hPending, extractRecords, List.flatMap_map]
  | finish hPhase hJob =>
    have hEmpty : blk = [] := by
      by_contra hNe
      simp [taking, hPhase] at hIdle
      exact hNe hIdle
    subst hEmpty
    split at hJob <;> subst hJob
    · refine ⟨by simp [ExtractJob.processor, Extraction.flush, completes, tookBy, hPhase], fun j hj => by
        simp [ExtractJob.processor, Extraction.flush, hj], ?_⟩
      simp [ExtractJob.processor, Extraction.flush, completes, hPhase, hPending]
    · simp [completes, tookBy, hPhase, hPending]
  | completeFails _ hRun hOut =>
    simp only [ExtractJob.processor, Prod.mk.injEq] at hRun
    rw [← hRun.1] at hOut
    simp [Outcome.error?] at hOut
  | filtered _ hSome | filterFails _ hSome => simp [ExtractJob.processor] at hSome
  | leave hPhase | cancel hPhase | claimFails hPhase | claim hPhase | refused hPhase
  | refuse hPhase | unfiltered hPhase | processed hPhase | done hPhase | checkUnder hPhase
  | checkOver hPhase | exceed hPhase =>
    simp [completes, tookBy, hPhase, hPending]

end Worker

------------------------------------------------------------
-- Sections Open in a Crew
------------------------------------------------------------

/- Changing one value of a function on the first `n` numbers replaces its part of the
flattened map. -/
theorem flatMap_range_update_perm
    {α : Type}
    [DecidableEq α]
    {n i : Nat}
    (hi : i < n)
    (g : Nat → List α)
    (v : List α) :
    (List.range n).flatMap (Function.update g i v) ++ g i ~ (List.range n).flatMap g ++ v := by
  induction n with
  | zero => omega
  | succ n ih =>
    simp only [List.range_succ, List.flatMap_append, List.flatMap_singleton]
    rcases Nat.lt_succ_iff_lt_or_eq.1 hi with hLt | rfl
    · rw [Function.update_of_ne (show n ≠ i by omega) v g]
      refine List.perm_iff_count.2 fun a => ?_
      have hIh := (ih hLt).count_eq a
      simp only [List.count_append] at hIh ⊢
      omega
    · have hBelow : (List.range i).flatMap (Function.update g i v) =
          (List.range i).flatMap g :=
        List.flatMap_congr fun j hj => Function.update_of_ne (show j ≠ i by simp at hj; omega) v g
      rw [hBelow, Function.update_self]
      refine List.perm_iff_count.2 fun a => ?_
      simp only [List.count_append]
      omega

/- Taking the same lines from both sides of a permutation, less from the right. -/
theorem subperm_of_perm_append
    {α : Type}
    [DecidableEq α]
    {a a' g g' : List α}
    (h : a' ++ g ~ a ++ g')
    (hg : g' <+~ g) :
    a' <+~ a := by
  refine List.subperm_ext_iff.2 fun x _ => ?_
  have h₁ := h.count_eq x
  have h₂ := hg.count_le x
  simp only [List.count_append] at h₁
  omega

namespace Crew

variable {ρ π : Type} [SectionReader ρ]

/- The sections the workers are working on, when worker `i` works on `cur i`. -/
def opened (c : Crew ρ π) (cur : Nat → List Line) : List (List Line) :=
  (List.range c.workers.size).flatMap fun i =>
    if c.workers[i]?.any Worker.inSection then [cur i] else []

omit [SectionReader ρ] in
/-
  When worker `i` moves from `w` to `w'`, and only its section may
  change, the sections open in the crew change by its own.
-/
theorem opened_set
    {c : Crew ρ π}
    {i : Nat}
    {w : Worker}
    (hw : c.workers[i]? = some w)
    (w' : Worker)
    (s' : π)
    (sh' : Shared ρ)
    (cur cur' : Nat → List Line)
    (hCur : ∀ j, j ≠ i → cur' j = cur j) :
    ({ c with shared := sh', workers := c.workers.set! i w', procState := s' } : Crew ρ π).opened
        cur' ++ (if w.inSection then [cur i] else []) ~
      c.opened cur ++ (if w'.inSection then [cur' i] else []) := by
  have hSize : i < c.workers.size := (Array.getElem?_eq_some_iff.1 hw).1
  have hOpen : ({ c with shared := sh', workers := c.workers.set! i w', procState := s' } :
      Crew ρ π).opened cur' =
        (List.range c.workers.size).flatMap (Function.update
          (fun j => if c.workers[j]?.any Worker.inSection then [cur j] else []) i
          (if w'.inSection then [cur' i] else [])) := by
    simp only [opened, Array.size_set!]
    refine List.flatMap_congr fun j _ => ?_
    by_cases hj : j = i
    · subst hj
      simp [hSize]
    · simp [Function.update_of_ne hj, Ne.symm hj, hCur j hj]
  have hPerm := flatMap_range_update_perm hSize
    (fun j => if c.workers[j]?.any Worker.inSection then [cur j] else [])
    (if w'.inSection then [cur' i] else [])
  simp only [hw, Option.any_some] at hPerm
  rw [hOpen]
  exact hPerm

/-
  An extract crew against its ledger. Worker `i` uses extractor `i`; the
  result file holds the records of the completed blocks, in the order of
  completion; the buffer of every worker holds the extracts of its open
  block, which is empty unless the worker is taking lines; the lines
  taken are those of the completed and the open blocks. Every completed
  block is part of its own section, and the sections of the completed
  blocks and those the workers are in were handed out, each once: the
  open block and the lines a worker still holds are part of its section.
  With one worker, the blocks are taken in order, and with what the
  worker holds they are part of the lines handed out, in order.
-/
structure Extracts
    (fields : List Int)
    (sep : Bytes)
    (c : Crew ρ Extraction)
    (L : Ledger) : Prop where
  shape : ∀ i < c.workers.size,
    c.uses[i]? = some i ∧ c.processors[i]? = some (ExtractJob.processor fields sep i)
  written : c.procState.written = L.blocks.flatMap (extractRecords fields sep)
  pending : ∀ k, c.procState.pending k = (L.block k).map (Line.extract fields sep)
  idle : ∀ i, L.block i ≠ [] → ∃ w, c.workers[i]? = some w ∧ w.taking = true
  taken : L.taken ~ L.blocks.flatten ++ (List.range c.workers.size).flatMap L.block
  sections : ∃ secs cur, Forall₂ (· <+ ·) L.blocks secs ∧ secs ++ c.opened cur <+~ L.handed ∧
    ∀ i w, c.workers[i]? = some w → w.inSection = true → L.block i ++ w.holding <+ cur i
  solo : c.workers.size = 1 →
    L.taken = L.blocks.flatten ++ L.block 0 ∧
      ∀ w, c.workers[0]? = some w →
        L.blocks.flatten ++ L.block 0 ++ w.holding <+ L.handed.flatten

section Extracting

variable {fields : List Int} {sep : Bytes} {c : Crew ρ Extraction} {L : Ledger}

omit [SectionReader ρ] in
/- The open block of a worker is empty unless the worker is taking lines. -/
theorem Extracts.idle_at
    {i : Nat}
    {w : Worker}
    (h : Extracts fields sep c L)
    (hw : c.workers[i]? = some w)
    (hNe : L.block i ≠ []) :
    w.taking = true := by
  obtain ⟨v, hv, hTaking⟩ := h.idle i hNe
  rw [hw, Option.some.injEq] at hv
  rwa [hv]

/-
  Open blocks stay empty unless their worker is taking lines when
  worker `i` moves: a block grows only from an open block or from a
  line taken.
-/
theorem Extracts.idle_step
    {i : Nat}
    {w w' : Worker}
    {x' : Extraction}
    {sh' : Shared ρ}
    (h : Extracts fields sep c L)
    (hw : c.workers[i]? = some w)
    (hMoves : Worker.Moves (ExtractJob.processor fields sep i) w c.procState c.shared w' x' sh') :
    ∀ j, (L.note i w w').block j ≠ [] →
      ∃ v, (c.workers.set! i w')[j]? = some v ∧ v.taking = true := by
  have hSize : i < c.workers.size := (Array.getElem?_eq_some_iff.1 hw).1
  intro j hj
  by_cases hji : j = i
  · subst hji
    simp only [Ledger.note, Function.update_self] at hj
    cases hDone : w.completes
    · simp only [hDone, Bool.false_eq_true, if_false] at hj
      have hTaking : w.taking = true := by
        by_cases hNe : L.block j = []
        · exact Worker.taking_of_tookBy (by simpa [hNe] using hj)
        · exact h.idle_at hw hNe
      exact ⟨w', by simp [hSize], hMoves.still_taking hTaking hDone⟩
    · simp [hDone] at hj
  · simp only [Ledger.note, Function.update_of_ne hji] at hj
    obtain ⟨v, hv, hTaking⟩ := h.idle j hj
    exact ⟨v, by simp [Ne.symm hji, hv], hTaking⟩

omit [SectionReader ρ] in
/-
  The lines taken stay those of the completed and open blocks when
  worker `i` moves: counting every line, the open block of `i` moves
  into the completed ones, or grows by the line taken.
-/
theorem Extracts.taken_step
    {i : Nat}
    {w w' : Worker}
    (h : Extracts fields sep c L)
    (hw : c.workers[i]? = some w) :
    (L.note i w w').taken ~
      (L.note i w w').blocks.flatten ++
        (List.range (c.workers.set! i w').size).flatMap (L.note i w w').block := by
  have hSize : i < c.workers.size := (Array.getElem?_eq_some_iff.1 hw).1
  have hPerm := flatMap_range_update_perm hSize L.block
    (if w.completes then [] else L.block i ++ w.tookBy w')
  refine List.perm_iff_count.2 fun a => ?_
  have h₁ := h.taken.count_eq a
  have h₂ := hPerm.count_eq a
  cases hDone : w.completes
  · simp only [Ledger.note, hDone, Bool.false_eq_true, if_false, Array.size_set!,
      List.count_append] at h₁ h₂ ⊢
    omega
  · simp only [Ledger.note, hDone, if_true, Array.size_set!, Worker.tookBy_of_completes hDone,
      List.append_nil, List.flatten_append, List.flatten_singleton, List.count_append] at h₁ h₂ ⊢
    omega

omit [SectionReader ρ] in
/- When worker `i` moves, every other worker keeps its open block inside its section. -/
theorem openBlocks_set
    {i : Nat}
    {w : Worker}
    {cur : Nat → List Line}
    (hw : c.workers[i]? = some w)
    (hOpen : ∀ j v, c.workers[j]? = some v → v.inSection = true → L.block j ++ v.holding <+ cur j)
    (w' : Worker)
    (cur' : Nat → List Line)
    (hCur : ∀ j, j ≠ i → cur' j = cur j)
    (hMine : w'.inSection = true → (L.note i w w').block i ++ w'.holding <+ cur' i) :
    ∀ j v, (c.workers.set! i w')[j]? = some v → v.inSection = true →
      (L.note i w w').block j ++ v.holding <+ cur' j := by
  have hSize : i < c.workers.size := (Array.getElem?_eq_some_iff.1 hw).1
  intro j v hv hIn
  by_cases hji : j = i
  · subst hji
    simp only [Array.set!_eq_setIfInBounds, Array.getElem?_setIfInBounds_self_of_lt hSize,
      Option.some.injEq] at hv
    subst hv
    exact hMine hIn
  · simp only [Array.set!_eq_setIfInBounds, Array.getElem?_setIfInBounds_ne (Ne.symm hji)] at hv
    simp only [Ledger.note, Function.update_of_ne hji, hCur j hji]
    exact hOpen j v hv hIn

/-
  Every completed block stays part of its own section, and the sections
  of the blocks and of the workers stay handed out once, when worker
  `i` moves: completing moves its section to the blocks, claiming opens
  the section handed out, and any other step only works through it or
  drops it. The other workers keep their blocks and their sections.
-/
theorem Extracts.sections_step
    {i : Nat}
    {w w' : Worker}
    {x' : Extraction}
    {sh' : Shared ρ}
    (h : Extracts fields sep c L)
    (hw : c.workers[i]? = some w)
    (hMoves : Worker.Moves (ExtractJob.processor fields sep i) w c.procState c.shared w' x' sh') :
    ∃ secs cur, Forall₂ (· <+ ·) (L.note i w w').blocks secs ∧
      secs ++ ({ c with shared := sh', workers := c.workers.set! i w', procState := x' } :
        Crew ρ Extraction).opened cur <+~ (L.note i w w').handed ∧
      ∀ j v, (c.workers.set! i w')[j]? = some v → v.inSection = true →
        (L.note i w w').block j ++ v.holding <+ cur j := by
  obtain ⟨secs, cur, hBlocks, hHanded, hOpen⟩ := h.sections
  have hKeep := openBlocks_set hw hOpen w'
  by_cases hDone : w.completes = true
  · obtain ⟨hIn, hHold, hIn', hClaim, hTook⟩ := hMoves.completes_leaves hDone
    have hBlk : L.block i <+ cur i := by simpa [hHold] using hOpen i w hw hIn
    have hSet := opened_set hw w' x' sh' cur cur fun _ _ => rfl
    simp only [hIn, hIn', if_true, Bool.false_eq_true, if_false, List.append_nil] at hSet
    refine ⟨secs ++ [cur i], cur, ?_, ?_, hKeep cur (fun _ _ => rfl) (by simp [hIn'])⟩
    · simp only [Ledger.note, hDone, if_true, hTook, List.append_nil]
      exact List.rel_append hBlocks (List.Forall₂.cons hBlk List.Forall₂.nil)
    · simp only [Ledger.note, hClaim, List.append_nil]
      have hPerm := (List.perm_append_comm.trans hSet).append_left secs
      rw [← List.append_assoc] at hPerm
      exact hPerm.subperm.trans hHanded
  · have hGoing : w.completes = false := by simpa using hDone
    rcases Worker.claimedBy_cases w w' with
      hClaim | ⟨sec, hClaim, hIn, hTaking, -, hTook, hIn', hHold'⟩
    · obtain ⟨hSub, hStill⟩ := hMoves.consumes rfl hClaim hGoing
      have hSet := opened_set hw w' x' sh' cur cur fun _ _ => rfl
      have hLess : (if w'.inSection then [cur i] else []) <+~
          (if w.inSection then [cur i] else []) := by
        cases hW' : w'.inSection
        · simp
        · simp [hStill hW']
      refine ⟨secs, cur, by simpa [Ledger.note, hGoing] using hBlocks, ?_,
        hKeep cur (fun _ _ => rfl) fun hW' => ?_⟩
      · simp only [Ledger.note, hClaim, List.append_nil]
        exact ((List.subperm_append_left secs).2 (subperm_of_perm_append hSet hLess)).trans hHanded
      · simp only [Ledger.note, Function.update_self, hGoing, Bool.false_eq_true, if_false,
          List.append_assoc]
        exact (hSub.append_left _).trans (hOpen i w hw (hStill hW'))
    · have hEmpty : L.block i = [] := by
        by_contra hNe
        simp [h.idle_at hw hNe] at hTaking
      have hSet := opened_set hw w' x' sh' cur (Function.update cur i sec)
        fun j hj => Function.update_of_ne hj sec cur
      simp only [hIn, hIn', Bool.false_eq_true, if_false, if_true, List.append_nil,
        Function.update_self] at hSet
      refine ⟨secs, Function.update cur i sec, by simpa [Ledger.note, hGoing] using hBlocks, ?_,
        hKeep _ (fun j hj => Function.update_of_ne hj sec cur) fun _ => ?_⟩
      · simp only [Ledger.note, hClaim]
        have hPerm := hSet.append_left secs
        rw [← List.append_assoc] at hPerm
        exact hPerm.subperm.trans ((List.subperm_append_right [sec]).2 hHanded)
      · simp [Ledger.note, hGoing, hTook, hEmpty, hHold']

/-
  With one worker, the blocks and what it holds stay in the order
  handed out: a claim hands out the next section after everything
  before it.
-/
theorem Extracts.solo_step
    {i : Nat}
    {w w' : Worker}
    {x' : Extraction}
    {sh' : Shared ρ}
    (h : Extracts fields sep c L)
    (hw : c.workers[i]? = some w)
    (hMoves : Worker.Moves (ExtractJob.processor fields sep i) w c.procState c.shared w' x' sh') :
    (c.workers.set! i w').size = 1 →
      (L.note i w w').taken = (L.note i w w').blocks.flatten ++ (L.note i w w').block 0 ∧
        ∀ v, (c.workers.set! i w')[0]? = some v →
          (L.note i w w').blocks.flatten ++ (L.note i w w').block 0 ++ v.holding <+
            (L.note i w w').handed.flatten := by
  intro hOne
  have hSize : i < c.workers.size := (Array.getElem?_eq_some_iff.1 hw).1
  have hOne' : c.workers.size = 1 := by simpa using hOne
  obtain rfl : i = 0 := by omega
  obtain ⟨hTaken, hOrder⟩ := h.solo hOne'
  have hOld := hOrder w hw
  refine ⟨?_, fun v hv => ?_⟩
  · cases hDone : w.completes
    · simp [Ledger.note, hDone, hTaken]
    · simp [Ledger.note, hDone, hTaken, Worker.tookBy_of_completes hDone]
  · simp only [Array.set!_eq_setIfInBounds, Array.getElem?_setIfInBounds_self_of_lt hSize,
      Option.some.injEq] at hv
    subst hv
    by_cases hDone : w.completes = true
    · obtain ⟨-, hHold, hIn', hClaim, hTook⟩ := hMoves.completes_leaves hDone
      simpa [Ledger.note, hDone, hTook, hClaim, hHold, Worker.holding_of_not_inSection hIn']
        using hOld
    · have hGoing : w.completes = false := by simpa using hDone
      rcases Worker.claimedBy_cases w w' with
        hClaim | ⟨sec, hClaim, hIn, hTaking, -, hTook, -, hHold'⟩
      · obtain ⟨hSub, -⟩ := hMoves.consumes rfl hClaim hGoing
        have hChain := (hSub.append_left (L.blocks.flatten ++ L.block 0)).trans hOld
        simpa [Ledger.note, hGoing, hClaim, List.append_assoc] using hChain
      · have hEmpty : L.block 0 = [] := by
          by_contra hNe
          simp [h.idle_at hw hNe] at hTaking
        have hHold : w.holding = [] := Worker.holding_of_not_inSection hIn
        simpa [Ledger.note, hGoing, hTook, hEmpty, hHold, hHold', hClaim]
          using hOld.append_right sec

/-
  A step of worker `i` keeps the crew extracting; the result file gains
  the block of a section when it is completed.
-/
theorem Extracts.step
    {i : Nat}
    {w w' : Worker}
    {x' : Extraction}
    {sh' : Shared ρ}
    (h : Extracts fields sep c L)
    (hw : c.workers[i]? = some w)
    (hMoves : Worker.Moves (ExtractJob.processor fields sep i) w c.procState c.shared w' x' sh') :
    Extracts fields sep { c with shared := sh', workers := c.workers.set! i w', procState := x' }
      (L.note i w w') := by
  obtain ⟨hMine, hOthers, hWritten⟩ := Worker.extraction_step hMoves (h.pending i) (h.idle_at hw)
  refine ⟨?_, ?_, ?_, h.idle_step hw hMoves, h.taken_step hw, h.sections_step hw hMoves,
    h.solo_step hw hMoves⟩
  · intro j hj
    exact h.shape j (by simpa using hj)
  · rw [hWritten, h.written]
    cases hDone : w.completes
    · simp [Ledger.note, hDone]
    · simp [Ledger.note, hDone, Worker.tookBy_of_completes hDone]
  · intro k
    by_cases hk : k = i
    · subst hk
      simp [hMine, Ledger.note]
    · simp [hOthers k hk, h.pending k, Ledger.note, Function.update_of_ne hk]

/- Every event keeps the crew extracting, worker `i` using the extraction of slot `i`. -/
theorem Extracts.apply
    (h : Extracts fields sep c L)
    (e : Event) :
    Extracts fields sep (c.apply e) (c.note L e) := by
  refine apply_of_steps (Extracts fields sep) h
    ⟨h.shape, h.written, h.pending, h.idle, h.taken, h.sections, h.solo⟩ ?_ e
  intro i k w p hw hk hp
  obtain ⟨hk', hp'⟩ := h.shape i (Array.getElem?_eq_some_iff.1 hw).1
  obtain rfl : k = i := Option.some.inj (hk.symm.trans hk')
  obtain rfl : p = ExtractJob.processor fields sep k := Option.some.inj (hp.symm.trans hp')
  rw [act_of_get hw hk hp]
  exact h.step hw (Worker.step_moves _ w c.procState c.shared)

/- Every run of events keeps the crew extracting. -/
theorem Extracts.run
    (h : Extracts fields sep c L)
    (evs : List Event) :
    Extracts fields sep (c.runEvents evs) (c.ledger L evs) := by
  induction evs generalizing c L with
  | nil => exact h
  | cons e es ih => exact ih (h.apply e)

omit [SectionReader ρ] in
/- Fresh workers with their own extractors and empty buffers start extracting. -/
theorem extracts_start
    (hShape : ∀ i < c.workers.size,
      c.uses[i]? = some i ∧ c.processors[i]? = some (ExtractJob.processor fields sep i))
    (hState : c.procState = {})
    (hFresh : ∀ w ∈ c.workers, w.phase = .claim) :
    Extracts fields sep c {} := by
  have hOut : ∀ i : Nat, c.workers[i]?.any Worker.inSection = false := by
    intro i
    rcases hw : c.workers[i]? with _ | w
    · rfl
    · simp [Worker.inSection, hFresh w (Array.mem_of_getElem? hw)]
  refine ⟨hShape, by simp [hState], by simp [hState], by simp, by simp,
    ⟨[], fun _ => [], .nil, by simp [opened, hOut], ?_⟩, fun _ => ⟨by simp, fun w hw => ?_⟩⟩
  · intro i w hw hIn
    simp [Worker.inSection, hFresh w (Array.mem_of_getElem? hw)] at hIn
  · simp [Worker.holding, hFresh w (Array.mem_of_getElem? hw)]

omit [SectionReader ρ] in
/-
  Once every worker is done, no line is left in a buffer or an open
  block: the lines taken are those of the completed blocks, which are
  parts of distinct sections handed out, and with one worker they are,
  in order, part of the lines handed out.
-/
theorem Extracts.finished
    (h : Extracts fields sep c L)
    (hDone : c.allDone = true) :
    L.taken ~ L.blocks.flatten ∧
      (∃ secs, secs <+~ L.handed ∧ Forall₂ (· <+ ·) L.blocks secs) ∧
      (c.workers.size = 1 → L.taken = L.blocks.flatten ∧ L.blocks.flatten <+ L.handed.flatten) := by
  have hQuiet : ∀ w ∈ c.workers, w.inSection = false ∧ w.taking = false ∧ w.holding = [] := by
    intro w hw
    have hIsDone := Array.all_eq_true_iff_forall_mem.1 hDone w hw
    cases hPhase : w.phase <;>
      simp_all [Phase.isDone, Worker.inSection, Worker.taking, Worker.holding]
  have hBlock : ∀ i, L.block i = [] := by
    intro i
    by_contra hNe
    obtain ⟨w, hw, hTaking⟩ := h.idle i hNe
    simp [(hQuiet w (Array.mem_of_getElem? hw)).2.1] at hTaking
  have hNoBlock : (List.range c.workers.size).flatMap L.block = [] :=
    List.flatMap_eq_nil_iff.2 fun i _ => hBlock i
  have hOpened : ∀ cur, c.opened cur = [] := by
    intro cur
    refine List.flatMap_eq_nil_iff.2 fun i _ => ?_
    rcases hw : c.workers[i]? with _ | w
    · rfl
    · simp [(hQuiet w (Array.mem_of_getElem? hw)).1]
  obtain ⟨secs, cur, hBlocks, hHanded, -⟩ := h.sections
  refine ⟨by simpa [hNoBlock] using h.taken, ⟨secs, by simpa [hOpened] using hHanded, hBlocks⟩,
    fun hOne => ?_⟩
  obtain ⟨hTaken, hOrder⟩ := h.solo hOne
  obtain ⟨w, hw⟩ : ∃ w, c.workers[0]? = some w := by
    simp [Array.getElem?_eq_getElem (show 0 < c.workers.size by omega)]
  have hIn := hOrder w hw
  simp only [hBlock, (hQuiet w (Array.mem_of_getElem? hw)).2.2, List.append_nil] at hTaken hIn
  exact ⟨hTaken, hIn⟩

end Extracting

/- No event adds or removes a worker. -/
theorem runEvents_size
    (c : Crew ρ π)
    (evs : List Event) :
    (c.runEvents evs).workers.size = c.workers.size := by
  induction evs generalizing c with
  | nil => rfl
  | cons e es ih =>
    rw [runEvents, ih]
    cases e with
    | step i => exact act_size c i
    | cancel => rfl

end Crew

------------------------------------------------------------
-- Extract Runs
------------------------------------------------------------

namespace ExtractJob

/-
  A checked job keeps its settings, which ask for at least one worker:
  validation refuses a job without workers.
-/
theorem make_ok
    {c : Settings}
    {job : ExtractJob}
    (h : make c = .ok job) :
    job.settings = c ∧ 0 < c.workers := by
  unfold make at h
  rcases hValid : c.validate with m | u
  · simp [hValid, bind, Except.bind] at h
  refine ⟨?_, ?_⟩
  · simp only [hValid, bind, Except.bind, throw, throwThe, MonadExceptOf.throw] at h
    split_ifs at h
    split at h
    · simp at h
    · rcases hPolicy : Policy.parse c.progressPolicy with m | policy
      · simp [hPolicy] at h
      · simp only [hPolicy, pure, Except.pure, Except.ok.injEq] at h
        rw [← h]
  · by_contra hNone
    unfold Settings.validate at hValid
    by_cases hInput : c.input.isEmpty <;> by_cases hSize : c.sectionSize ≤ 0 <;>
      simp [hInput, hSize, show c.workers ≤ 0 by omega, bind, Except.bind, throw, throwThe,
        MonadExceptOf.throw] at hValid

/- A batch checked from valid settings has the workers the settings ask for. -/
theorem batch_workers
    {c : Settings}
    {runId : String}
    {b : Batch}
    (hWorkers : 0 < c.workers)
    (hBatch : Batch.make ⟨c.workers, c.skipLimit, runId⟩ true runId = .ok b) :
    b.workers = c.workers.toNat := by
  have hNone : ¬c.workers ≤ 0 := by omega
  by_cases hSkip : c.skipLimit < 0
  · simp [Batch.make, hSkip] at hBatch
  · simp only [Batch.make, Bool.not_true, Bool.false_eq_true, if_false, hSkip, hNone,
      Except.ok.injEq] at hBatch
    rw [← hBatch]

/-
  A launched extract run starts fresh workers, as many as the batch
  asks for, worker `i` with extractor `i`, and empty buffers.
-/
theorem launch_extracts
    {job : ExtractJob}
    {d : Disk}
    {cwd : String}
    {sink : Except Failure Sink}
    {b : Batch}
    {l : Launch BlobSource Extraction}
    (hWorkers : b.workers = job.settings.workers.toNat)
    (hLaunch : b.launch (job.parts d cwd sink) = .ok l) :
    Crew.Extracts job.settings.extract.fields (Bytes.ofString job.settings.extract.outputSeparator)
        l.crew {} ∧
      l.crew.workers.size = b.workers ∧ ∀ w ∈ l.crew.workers, w.lines = 0 := by
  obtain ⟨hSize, hFresh⟩ := Batch.launch_fresh hLaunch
  obtain ⟨_, _, _, _, uses, -, -, hBuild, hCrew⟩ := Batch.launch_ok hLaunch
  rw [Batch.buildWorkers_self (fun _ => rfl), Except.ok.injEq] at hBuild
  subst hBuild
  refine ⟨Crew.extracts_start ?_ (by rw [hCrew]; rfl) fun w hw => (hFresh w hw).1, hSize,
    fun w hw => (hFresh w hw).2.2⟩
  intro i hi
  rw [hSize] at hi
  simp [hCrew, parts, hi, ← hWorkers]

/- A run whose parts were built writes what its extractors wrote, once it has landed. -/
theorem runBy_launched
    {job : ExtractJob}
    {d : Disk}
    {cwd runId : String}
    {sink : Sink}
    {b : Batch}
    {l : Launch BlobSource Extraction}
    (hSink : Sink.open d cwd job.settings.output = .ok sink)
    (hBatch : Batch.make ⟨job.settings.workers, job.settings.skipLimit, runId⟩ true runId = .ok b)
    (hLaunch : b.launch (job.parts d cwd (.ok sink)) = .ok l)
    (drive : Crew (CoolingReader BlobSource) Extraction →
      Crew (CoolingReader BlobSource) Extraction) :
    job.runBy d cwd runId drive =
      ⟨(b.land (job.parts d cwd (.ok sink)) l (drive l.crew)).summary,
        (b.land (job.parts d cwd (.ok sink)) l (drive l.crew)).failure,
        { sink with written := (b.land (job.parts d cwd (.ok sink)) l (drive l.crew)).procState.written
          }.commit d,
        (b.land (job.parts d cwd (.ok sink)) l (drive l.crew)).log⟩ := by
  simp only [runBy, hSink, hBatch, Batch.runBy_of_launch hLaunch]

end ExtractJob

/- A committed result file holds what was written, and is gone when nothing was. -/
theorem Sink.file?_commit
    (s : Sink)
    (d : Disk) :
    ((s.commit d).file? s.path).map (·.data) =
      if s.written = [] then none else some s.written := by
  by_cases hEmpty : s.written = []
  · have hGone : (d.files.filter fun f => f.1 != s.path).find? (fun f => f.1 == s.path) = none :=
      List.find?_eq_none.2 fun f hf => by simp_all
    simp [Sink.commit, hEmpty, Disk.file?, Disk.remove, hGone]
  · simp [Sink.commit, hEmpty, Disk.file?, Disk.write]

------------------------------------------------------------
-- The Result File
------------------------------------------------------------

/-
  The result file of an extract run holds what the run processed.
  Take any valid settings, a result file that opens, and any run of the
  workers, interleaved in any order and cancelled at any point, that
  started and in which every worker is done. The result file then holds
  the records of the completed blocks, in the order the sections were
  completed, and is gone when they hold no line. Every block is part of
  its own section, so blocks of two sections never interleave and keep
  the input order. The blocks hold exactly the lines the processors
  took, each once, and the summary counts as many lines as the file has
  records, so the file is kept exactly when the summary counts a line.
  With one worker, which completes its blocks in the order it took
  their lines, the file holds the records of the lines taken, in the
  order they were handed out.
-/
theorem extract_result_file_holds_taken_blocks
    {cfg : Settings}
    {job : ExtractJob}
    {d : Disk}
    {cwd runId : String}
    {sink : Sink}
    {b : Batch}
    {l : Launch BlobSource Extraction}
    (hJob : ExtractJob.make cfg = .ok job)
    (hSink : Sink.open d cwd cfg.output = .ok sink)
    (hBatch : Batch.make ⟨cfg.workers, cfg.skipLimit, runId⟩ true runId = .ok b)
    (hLaunch : b.launch (job.parts d cwd (.ok sink)) = .ok l)
    (evs : List Event)
    (hDone : (l.crew.runEvents evs).allDone = true) :
    let fields := cfg.extract.fields
    let sep := Bytes.ofString cfg.extract.outputSeparator
    let L := l.crew.ledger {} evs
    let out := L.blocks.flatMap (extractRecords fields sep)
    let res := job.runBy d cwd runId (·.runEvents evs)
    (res.disk.file? sink.path).map (·.data) = (if out = [] then none else some out) ∧
      (∃ secs, secs <+~ L.handed ∧ Forall₂ (· <+ ·) L.blocks secs) ∧
      L.blocks.flatten ~ L.taken ∧
      (∃ s, res.summary = some s ∧ s.lines = L.blocks.flatten.length ∧ (out ≠ [] ↔ 0 < s.lines)) ∧
      (cfg.workers = 1 → out = extractRecords fields sep L.taken ∧ L.taken <+ L.handed.flatten) := by
  intro fields sep L out res
  obtain ⟨rfl, hPositive⟩ := ExtractJob.make_ok hJob
  have hWorkers := ExtractJob.batch_workers hPositive hBatch
  obtain ⟨hStart, hSize, hFresh⟩ := ExtractJob.launch_extracts hWorkers hLaunch
  have hRun := hStart.run evs
  obtain ⟨hTaken, hSecs, hSolo⟩ := hRun.finished hDone
  have hTally := (Crew.tallies_start hFresh).run evs
  obtain ⟨hProc, sh, -, hSummary⟩ :=
    Batch.land_summary b (job.parts d cwd (.ok sink)) l (l.crew.runEvents evs)
  have hRes := ExtractJob.runBy_launched hSink hBatch hLaunch (·.runEvents evs)
  have hLines : (b.summarize { l.crew.runEvents evs with shared := sh }).lines =
      L.blocks.flatten.length := by
    rw [Batch.summarize_lines, hTally.lines, hTaken.length_eq]
  have hOut : out = extractRecords fields sep L.blocks.flatten := flatMap_extractRecords _ _ _
  refine ⟨?_, hSecs, hTaken.symm, ⟨_, by simp only [res, hRes]; exact hSummary, hLines, ?_⟩,
    fun hOne => ?_⟩
  · simp only [res, hRes, hProc, hRun.written]
    exact Sink.file?_commit _ d
  · rw [hLines, hOut, Ne, extractRecords_eq_nil, ← List.length_eq_zero_iff]
    omega
  · have hOne' : (l.crew.runEvents evs).workers.size = 1 := by
      rw [Crew.runEvents_size, hSize, hWorkers, hOne]
      rfl
    obtain ⟨hEq, hSub⟩ := hSolo hOne'
    exact ⟨by rw [hOut, hEq], hEq ▸ hSub⟩

/-
  One worker extracts the line "a b" of an input file into a result
  file in the same directory, in eight steps.
-/
theorem extract_result_file_holds_taken_blocks_one_line :
    ∃ (job : ExtractJob) (sink : Sink) (b : Batch) (l : Launch BlobSource Extraction),
      let cfg : Settings :=
        { Settings.default with input := "in.txt", output := "out.txt", workers := 1 }
      let d : Disk :=
        { files := [("/data/in.txt", ⟨[97, 32, 98, 10], 1⟩)], dirs := ["/data"], writes := 1 }
      let evs : List Event := List.replicate 8 (.step 0)
      ExtractJob.make cfg = .ok job ∧ Sink.open d "/data" cfg.output = .ok sink ∧
        Batch.make ⟨cfg.workers, cfg.skipLimit, "run"⟩ true "run" = .ok b ∧
        b.launch (job.parts d "/data" (.ok sink)) = .ok l ∧
        (l.crew.runEvents evs).allDone = true ∧
        let fields := cfg.extract.fields
        let sep := Bytes.ofString cfg.extract.outputSeparator
        let L := l.crew.ledger {} evs
        let out := L.blocks.flatMap (extractRecords fields sep)
        let res := job.runBy d "/data" "run" (·.runEvents evs)
        (res.disk.file? sink.path).map (·.data) = (if out = [] then none else some out) ∧
          (∃ secs, secs <+~ L.handed ∧ Forall₂ (· <+ ·) L.blocks secs) ∧
          L.blocks.flatten ~ L.taken ∧
          (∃ s, res.summary = some s ∧ s.lines = L.blocks.flatten.length ∧
            (out ≠ [] ↔ 0 < s.lines)) ∧
          (cfg.workers = 1 →
            out = extractRecords fields sep L.taken ∧ L.taken <+ L.handed.flatten) := by
  let cfg : Settings :=
    { Settings.default with input := "in.txt", output := "out.txt", workers := 1 }
  let d : Disk :=
    { files := [("/data/in.txt", ⟨[97, 32, 98, 10], 1⟩)], dirs := ["/data"], writes := 1 }
  have hParts : ((ExtractJob.make cfg).toOption.any fun job =>
      (Sink.open d "/data" cfg.output).toOption.any fun sink =>
      (Batch.make ⟨cfg.workers, cfg.skipLimit, "run"⟩ true "run").toOption.any fun b =>
      (b.launch (job.parts d "/data" (.ok sink))).toOption.any fun l =>
      (l.crew.runEvents (List.replicate 8 (.step 0))).allDone) = true := by
    decide +kernel
  obtain ⟨job, hJob, hParts⟩ := Except.exists_ok_of_any hParts
  obtain ⟨sink, hSink, hParts⟩ := Except.exists_ok_of_any hParts
  obtain ⟨b, hBatch, hParts⟩ := Except.exists_ok_of_any hParts
  obtain ⟨l, hLaunch, hDone⟩ := Except.exists_ok_of_any hParts
  exact ⟨job, sink, b, l, hJob, hSink, hBatch, hLaunch, hDone,
    extract_result_file_holds_taken_blocks hJob hSink hBatch hLaunch _ hDone⟩

end LineBatch
