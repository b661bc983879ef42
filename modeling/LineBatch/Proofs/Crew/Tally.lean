import LineBatch.Proofs.Crew.Deal
import Mathlib.Algebra.GroupWithZero.Nat

/-
  The counters of a run agree with its ledger.

  A worker counts the lines its processor took, and the progress adds
  up their units: one a line, or the encoded size of the line and its
  terminator under the bytes policy. Both counters move only on a line
  the processor took, so at every point of a run the workers' counts
  add up to the number of lines taken, and the progress has processed
  the units of exactly those lines, towards a total that never moves.

  Main declarations:
    * `Worker.lines_step`, `Worker.progress_step`
    * `Crew.Tallies`, `Crew.Tallies.run`
    * `Worker.Moves.faultless`, `Crew.Faultless`, `Crew.Faultless.run`

  Errors are counted too: they are only ever added, and a step of a
  worker without a filter that adds none loses no line. So as long as a
  run has kept no error, every line given to a processor was taken, and
  no line was left out or abandoned.
-/

namespace LineBatch

------------------------------------------------------------
-- One Step
------------------------------------------------------------

/- Replacing one element of a list of numbers replaces its part of the sum. -/
theorem sum_set_add
    {l : List Nat}
    {i a : Nat}
    (hGet : l[i]? = some a)
    (b : Nat) :
    (l.set i b).sum + a = l.sum + b := by
  induction l generalizing i with
  | nil => simp at hGet
  | cons x xs ih =>
    cases i with
    | zero =>
      simp only [List.getElem?_cons_zero, Option.some.injEq] at hGet
      subst hGet
      simp only [List.set_cons_zero, List.sum_cons]
      omega
    | succ i =>
      simp only [List.getElem?_cons_succ] at hGet
      have := ih hGet
      simp only [List.set_cons_succ, List.sum_cons]
      omega

namespace Progress

/- What the progress of a run is measured against: its total and how it sizes a line. -/
structure Gauge (p q : Progress) : Prop where
  total : q.total = p.total
  policy : q.policy = p.policy
  charset : q.charset = p.charset

theorem Gauge.rfl' (p : Progress) : Gauge p p := ⟨rfl, rfl, rfl⟩

theorem Gauge.trans
    {p q r : Progress}
    (h₁ : Gauge p q)
    (h₂ : Gauge q r) :
    Gauge p r :=
  ⟨h₂.total.trans h₁.total, h₂.policy.trans h₁.policy, h₂.charset.trans h₁.charset⟩

/- Progress measured alike sizes every line alike. -/
theorem Gauge.units
    {p q : Progress}
    (h : Gauge p q) :
    q.units = p.units := by
  funext l
  simp only [Progress.units, h.policy, h.charset]

end Progress

namespace Shared

variable {ρ : Type}

/- A shared state that moved only as reports move it is measured alike. -/
theorem Steady.gauge
    {sh sh' : Shared ρ}
    (h : Steady sh sh') :
    Progress.Gauge sh.progress sh'.progress :=
  ⟨h.total, h.policy, h.charset⟩

end Shared

namespace Worker

variable {ρ π : Type} [SectionReader ρ]

/- A step counts the line its processor took, and no other: a line the processor failed on is not taken. -/
theorem lines_step
    {p : Processor π}
    {w w' : Worker}
    {s s' : π}
    {sh sh' : Shared ρ}
    (hMoves : Moves p w s sh w' s' sh') :
    w'.lines = w.lines + (w.tookBy w').length := by
  cases hMoves with
  | cancel hPhase _ _ hW | claimFails hPhase _ _ _ hW | refuse hPhase hW
  | filterFails hPhase _ _ _ hW | completeFails hPhase _ _ hW =>
    simp [tookBy, hPhase, hW.lines]
  | lineFails hPhase _ _ hW =>
    simp [tookBy, hPhase, hW.lines]
  | process hPhase => simp [tookBy, hPhase]
  | leave hPhase | claim hPhase | refused hPhase | unfiltered hPhase | filtered hPhase
  | processed hPhase | complete hPhase | finish hPhase | done hPhase | checkUnder hPhase
  | checkOver hPhase | exceed hPhase =>
    simp [tookBy, hPhase]

/-
  A step adds the units of the line its processor took to the progress,
  and leaves what the progress is measured against alone.
-/
theorem progress_step
    {p : Processor π}
    {w w' : Worker}
    {s s' : π}
    {sh sh' : Shared ρ}
    (hMoves : Moves p w s sh w' s' sh') :
    Progress.Gauge sh.progress sh'.progress ∧
      sh'.progress.processed =
        sh.progress.processed + ((w.tookBy w').map sh.progress.units).sum := by
  cases hMoves with
  | process hPhase =>
    simp only [tookBy, hPhase]
    exact ⟨⟨rfl, rfl, rfl⟩, by simp [Progress.noteLine]⟩
  | lineFails hPhase _ _ hW _ hSteady =>
    simpa [tookBy, hPhase, hW.lines, hSteady.processed] using hSteady.gauge
  | cancel hPhase _ _ _ _ hSteady | claimFails hPhase _ _ _ _ _ hSteady
  | claim hPhase _ _ _ _ hSteady | refuse hPhase _ _ hSteady | filterFails hPhase _ _ _ _ _ hSteady
  | completeFails hPhase _ _ _ _ hSteady | finish hPhase _ _ hSteady | exceed hPhase _ hSteady =>
    simpa [tookBy, hPhase, hSteady.processed] using hSteady.gauge
  | leave hPhase | refused hPhase | unfiltered hPhase | filtered hPhase | processed hPhase
  | complete hPhase | done hPhase | checkUnder hPhase | checkOver hPhase =>
    simpa [tookBy, hPhase] using Progress.Gauge.rfl' sh.progress

/- A step never drops an error the progress kept. -/
theorem errors_step
    {p : Processor π}
    {w w' : Worker}
    {s s' : π}
    {sh sh' : Shared ρ}
    (hMoves : Moves p w s sh w' s' sh') :
    sh.progress.errors.size ≤ sh'.progress.errors.size := by
  cases hMoves with
  | process => exact Nat.le_refl _
  | cancel _ _ _ _ _ hSteady | claimFails _ _ _ _ _ _ hSteady | claim _ _ _ _ _ hSteady
  | refuse _ _ _ hSteady | filterFails _ _ _ _ _ _ hSteady | lineFails _ _ _ _ _ hSteady
  | completeFails _ _ _ _ _ hSteady | finish _ _ _ hSteady | exceed _ _ hSteady =>
    exact hSteady.errors
  | leave | refused | unfiltered | filtered | processed | complete | done | checkUnder
  | checkOver =>
    exact Nat.le_refl _

/-
  A step of a worker without a filter that keeps no new error loses no
  line: the line it gave the processor was taken, and it left nothing
  out and abandoned nothing. Failing a line, refusing one, failing a
  filter or a completion, and the skip-limit error all keep an error;
  without a filter the whole section goes on to be processed, and a
  worker reading the count runs on with the lines it holds.
-/
theorem Moves.faultless
    {p : Processor π}
    {w w' : Worker}
    {s s' : π}
    {sh sh' : Shared ρ}
    (hMoves : Moves p w s sh w' s' sh')
    (hBusy : w.BusyRuns)
    (hFilter : p.filter = none)
    (hQuiet : sh'.progress.errors.size ≤ sh.progress.errors.size) :
    w.fedBy = w.tookBy w' ∧ w.abandonedBy w' = [] ∧ w.filteredBy w' = [] := by
  cases hMoves with
  | refuse _ _ _ _ hGrow | filterFails _ _ _ _ _ _ _ hGrow | lineFails _ _ _ _ _ _ hGrow
  | completeFails _ _ _ _ _ _ hGrow | exceed _ _ _ hGrow =>
    omega
  | filtered _ hSome => simp [hFilter] at hSome
  | @unfiltered sec hPhase =>
    have hNone : sec.lines.toList.diff sec.lines.toList = [] := by
      have hLength := (perm_diff_of_subperm (List.Subperm.refl sec.lines.toList)).length_eq
      simpa using hLength
    simp [fedBy, tookBy, abandonedBy, filteredBy, hPhase, hNone]
  | cancel hPhase _ _ hW | claimFails hPhase _ _ _ hW =>
    rcases hW.phase with h | h | h <;>
      simp [fedBy, tookBy, abandonedBy, filteredBy, hPhase, h, Resume.onward, Resume.halted]
  | @checkUnder k hPhase =>
    rcases resume_cases w k with ⟨-, hGo⟩ | ⟨hStop, hGo⟩ <;> rw [hGo]
    · cases k <;> simp [fedBy, tookBy, abandonedBy, filteredBy, hPhase, Resume.onward,
        Resume.holding]
    · cases k <;> simp [fedBy, tookBy, abandonedBy, filteredBy, hPhase, Resume.halted,
        Resume.holding] <;>
        exact absurd (hBusy (by simp [hPhase, Phase.busy, Resume.busy])) hStop
  | @complete last _ _ hPhase =>
    rcases resume_phase w (.complete last) with h | h <;>
      simp [fedBy, tookBy, abandonedBy, filteredBy, hPhase, h, Resume.onward, Resume.halted]
  | process hPhase => simp [fedBy, tookBy, abandonedBy, filteredBy, hPhase]
  | leave hPhase | claim hPhase | refused hPhase | processed hPhase | finish hPhase
  | done hPhase | checkOver hPhase =>
    simp [fedBy, tookBy, abandonedBy, filteredBy, hPhase]

end Worker

------------------------------------------------------------
-- Whole Runs
------------------------------------------------------------

namespace Crew

variable {ρ π : Type} [SectionReader ρ]

/-
  The counters of a crew against its ledger, for progress that started
  as `p₀`: the workers' counts add up to the lines taken, and the
  progress has processed their units, measured as `p₀` measures them.
-/
structure Tallies (p₀ : Progress) (c : Crew ρ π) (L : Ledger) : Prop where
  lines : (c.workers.toList.map Worker.lines).sum = L.taken.length
  gauge : Progress.Gauge p₀ c.shared.progress
  processed : c.shared.progress.processed = p₀.processed + (L.taken.map p₀.units).sum

section Tallying

variable {p₀ : Progress} {c : Crew ρ π} {L : Ledger}

/- A step of worker `i` keeps the counters right. -/
theorem Tallies.step
    {i : Nat}
    {w w' : Worker}
    {p : Processor π}
    {s' : π}
    {sh' : Shared ρ}
    (h : Tallies p₀ c L)
    (hw : c.workers[i]? = some w)
    (hMoves : Worker.Moves p w c.procState c.shared w' s' sh') :
    Tallies p₀ { c with shared := sh', workers := c.workers.set! i w', procState := s' }
      (L.note i w w') := by
  have hLines := Worker.lines_step hMoves
  obtain ⟨hGauge, hProcessed⟩ := Worker.progress_step hMoves
  have hGet : (c.workers.toList.map Worker.lines)[i]? = some w.lines := by simp [hw]
  have hSum := sum_set_add hGet w'.lines
  refine ⟨?_, h.gauge.trans hGauge, ?_⟩
  · simp only [Array.set!_eq_setIfInBounds, Array.toList_setIfInBounds, List.map_set,
      Ledger.note, List.length_append]
    have := h.lines
    omega
  · simp only [hProcessed, Ledger.note, List.map_append, List.sum_append, h.processed,
      h.gauge.units]
    omega

/- Every event keeps the counters right. -/
theorem Tallies.apply
    (h : Tallies p₀ c L)
    (e : Event) :
    Tallies p₀ (c.apply e) (c.note L e) := by
  refine apply_of_steps (Tallies p₀) h ⟨h.lines, h.gauge, h.processed⟩ ?_ e
  intro i k w p hw hk hp
  rw [act_of_get hw hk hp]
  exact h.step hw (Worker.step_moves p w c.procState c.shared)

/- Every run of events keeps the counters right. -/
theorem Tallies.run
    (h : Tallies p₀ c L)
    (evs : List Event) :
    Tallies p₀ (c.runEvents evs) (c.ledger L evs) := by
  induction evs generalizing c L with
  | nil => exact h
  | cons e es ih => exact ih (h.apply e)

omit [SectionReader ρ] in
/- Workers that have counted nothing start the counters of an empty ledger. -/
theorem tallies_start
    (hFresh : ∀ w ∈ c.workers, w.lines = 0) :
    Tallies c.shared.progress c {} := by
  refine ⟨?_, Progress.Gauge.rfl' _, by simp⟩
  refine List.sum_eq_zero_iff_forall_eq_nat.2 fun n hn => ?_
  obtain ⟨w, hw, rfl⟩ := List.mem_map.1 hn
  exact hFresh w (Array.mem_toList_iff.1 hw)

end Tallying

/-
  A crew whose processors have no filter, against its ledger: as long as
  no error is kept, every line given to a processor was taken, and no
  line was left out or abandoned.
-/
structure Faultless (c : Crew ρ π) (L : Ledger) : Prop where
  unfiltered : ∀ p ∈ c.processors, p.filter = none
  busy : ∀ w ∈ c.workers, w.BusyRuns
  clean : c.shared.progress.errors.size = 0 →
    L.fed = L.taken ∧ L.abandoned = [] ∧ L.filtered = []

section Keeping

variable {c : Crew ρ π} {L : Ledger}

/-
  A step of worker `i` keeps the crew faultless: with no error after
  the step there was none before it and it added none.
-/
theorem Faultless.step
    {i : Nat}
    {w w' : Worker}
    {p : Processor π}
    {s' : π}
    {sh' : Shared ρ}
    (h : Faultless c L)
    (hw : c.workers[i]? = some w)
    (hFilter : p.filter = none)
    (hMoves : Worker.Moves p w c.procState c.shared w' s' sh') :
    Faultless { c with shared := sh', workers := c.workers.set! i w', procState := s' }
      (L.note i w w') := by
  have hBusy := h.busy w (Array.mem_of_getElem? hw)
  refine ⟨h.unfiltered, fun v hv => ?_, fun hNone => ?_⟩
  · rcases mem_set_cases hv with rfl | hOld
    · exact hMoves.busyRuns hBusy
    · exact h.busy v hOld
  have hGrow := Worker.errors_step hMoves
  have hBefore : c.shared.progress.errors.size = 0 := by
    simp only at hNone
    omega
  obtain ⟨hFed, hAbandoned, hFiltered⟩ := h.clean hBefore
  obtain ⟨hFed', hAbandoned', hFiltered'⟩ :=
    hMoves.faultless hBusy hFilter (by simp only at hNone; omega)
  simp [Ledger.note, hFed, hAbandoned, hFiltered, hFed', hAbandoned', hFiltered']

/- Every event keeps the crew faultless. -/
theorem Faultless.apply
    (h : Faultless c L)
    (e : Event) :
    Faultless (c.apply e) (c.note L e) := by
  refine apply_of_steps Faultless h ⟨h.unfiltered, h.busy, h.clean⟩ ?_ e
  intro i k w p hw hk hp
  rw [act_of_get hw hk hp]
  exact h.step hw (h.unfiltered p (Array.mem_of_getElem? hp))
    (Worker.step_moves p w c.procState c.shared)

/- Every run of events keeps the crew faultless. -/
theorem Faultless.run
    (h : Faultless c L)
    (evs : List Event) :
    Faultless (c.runEvents evs) (c.ledger L evs) := by
  induction evs generalizing c L with
  | nil => exact h
  | cons e es ih => exact ih (h.apply e)

end Keeping

end Crew

end LineBatch
