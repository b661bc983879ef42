import LineBatch.Proofs.Worker.Lifecycle

/-
  The skip limit.

  A worker tolerates recoverable errors, counted over the whole batch,
  up to its skip limit `L`. Failing on a recoverable error under a
  positive limit takes three turns of the worker: the report of the
  error, the read of the batch's count, and, when the count is over
  `L`, the report of the fatal skip-limit error, which stops the worker
  as failed (`Worker.Turn.checks_over`, `Worker.Trace.from_check`).
  Other workers may report errors in between; since they only add
  errors, the count the worker reads is over `L` whenever its own
  report took it over (`Worker.Rising`, `Crew.recoverable_rising`).
  After the skip-limit error the worker calls no hook, except the
  completion of the section whose line failed (`Worker.Trace.failed_hooks`).

  The progress counts each error it keeps by its severity, so a step
  adds to the recoverable count the recoverable errors it reports
  (`Progress.Tallied`, `Worker.step_recoverable`). A worker alone in
  its batch therefore runs with at most `L` recoverable errors, and
  with `L + 1` only between its report and its read of the count
  (`Crew.Within`). Without a limit the worker never reads the count,
  and only a fatal error stops it (`Worker.Verdict.unlimited`).

  Main declarations:
    * `Progress.Tallied`, `Worker.step_tallied`, `Worker.step_recoverable`
    * `Worker.WithinLimit`, `Crew.Within`, `Crew.recoverable_rising`
    * `Worker.Turn.checks_over`, `Worker.Trace.from_check`, `Worker.Trace.failed_hooks`
    * `Worker.skip_limit_stops_the_worker`
-/

------------------------------------------------------------
-- Counting Recoverable Errors
------------------------------------------------------------

namespace LineBatch

namespace Progress

/-
  The counts of `pr'` moved from those of `pr` with the errors kept:
  they gained one recoverable error for every recoverable error kept
  meanwhile, and one fatal error for every fatal one.
-/
def Tallied (pr pr' : Progress) : Prop :=
  pr'.recoverable + pr.errors.toList.countP (fun e => !e.isFatal) =
      pr.recoverable + pr'.errors.toList.countP (fun e => !e.isFatal) ∧
    pr'.fatal + pr.errors.toList.countP (·.isFatal) =
      pr.fatal + pr'.errors.toList.countP (·.isFatal)

theorem Tallied.rfl' (pr : Progress) : Tallied pr pr := ⟨rfl, rfl⟩

theorem Tallied.trans
    {pr pr' pr'' : Progress}
    (h : Tallied pr pr')
    (h' : Tallied pr' pr'') :
    Tallied pr pr'' := by
  unfold Tallied at *
  omega

theorem Tallied.of_eq
    {pr pr' : Progress}
    (hRec : pr'.recoverable = pr.recoverable)
    (hFatal : pr'.fatal = pr.fatal)
    (hErrors : pr'.errors = pr.errors) :
    Tallied pr pr' := by
  unfold Tallied
  rw [hRec, hFatal, hErrors]
  exact ⟨rfl, rfl⟩

/- Keeping an error counts it by its severity. -/
theorem tallied_noteError (pr : Progress) (e : Error) : Tallied pr (pr.noteError e) := by
  unfold Tallied noteError
  split
  · simp_all
    omega
  · simp_all
    omega

end Progress

namespace Worker

variable {π ρ : Type}

theorem report_tallied (w : Worker) (e : Error) (sh : Shared ρ) :
    sh.progress.Tallied (w.report e sh).progress :=
  Progress.tallied_noteError sh.progress e

/- Failing on an error keeps the count of what it reports. -/
theorem fail_tallied (e : Error) (k : Resume) (w : Worker) (sh : Shared ρ) :
    sh.progress.Tallied (fail e k w sh).2.progress := by
  rw [fail_progress]
  exact Progress.tallied_noteError sh.progress e

theorem failOn_tallied (hook : String) (out : Outcome) (k : Resume) (w : Worker) (sh : Shared ρ) :
    sh.progress.Tallied (failOn hook out k w sh).2.progress := by
  unfold failOn
  split
  · exact fail_tallied _ k w sh
  · exact Progress.Tallied.rfl' _

variable [SectionReader ρ]

omit [SectionReader ρ] in
/- Hearing cooldown notices keeps the count of fatal errors. -/
theorem hear_fatal (sh : Shared ρ) (ns : List Notice) :
    (sh.hear ns).progress.fatal = sh.progress.fatal := by
  induction ns generalizing sh with
  | nil => rfl
  | cons n ns ih =>
    rw [Shared.hear, List.foldl_cons, ← Shared.hear, ih]
    split <;> rfl

/-
  Every step keeps the count of the errors it reports: a processed line
  counts none, and after the loop only the job hook's error may be
  reported.
-/
theorem step_tallied (p : Processor π) (w : Worker) (s : π) (sh : Shared ρ) :
    sh.progress.Tallied (w.step p s sh).2.2.progress := by
  rcases hPhase : w.phase with _ | ⟨_ | ⟨e, es⟩, sec⟩ | sec | ⟨_ | ⟨l, ls⟩, last⟩ | last | _ | _ |
    k | k
  · by_cases hStatus : w.status = .running
    · cases hCancelled : sh.cancelled
      · rcases hRead : SectionReader.readSection sh.reader with ⟨res, ns, cr⟩
        have hHeard : sh.progress.Tallied ({ sh with reader := cr }.hear ns).progress :=
          Progress.Tallied.of_eq (hear_recoverable _ ns) (hear_fatal _ ns) (Shared.hear_spec _ ns).2.2
        have hGo : ¬ (w.status ≠ .running) := fun h => h hStatus
        simp only [step, hPhase]
        rw [if_neg hGo, if_neg (by simp [hCancelled]), hRead]
        cases res with
        | error e => exact hHeard.trans (fail_tallied e .claim w _)
        | ok sec => exact hHeard
      · simp only [step, hPhase, hStatus, hCancelled, ne_eq, not_true_eq_false, if_false, if_true]
        exact fail_tallied _ .finish w sh
    · simp only [step, hPhase, hStatus, ne_eq, not_false_eq_true, if_true]
      exact Progress.Tallied.rfl' _
  · simp only [step, hPhase]
    exact Progress.Tallied.rfl' _
  · simp only [step, hPhase]
    exact fail_tallied e _ w sh
  · rcases hFilter : p.filter with _ | f
    · simp only [step, hPhase, hFilter]
      exact Progress.Tallied.rfl' _
    · rcases hRun : f sec.lines.toList s with ⟨⟨kept, out⟩, s'⟩
      rcases hOut : out.error? "PreProcess" with _ | e
      · simp only [step, hPhase, hFilter, hRun, hOut]
        exact Progress.Tallied.rfl' _
      · simp only [step, hPhase, hFilter, hRun, hOut]
        exact fail_tallied e _ w sh
  · simp only [step, hPhase]
    exact Progress.Tallied.rfl' _
  · rcases hRun : p.processLine l s with ⟨out, s'⟩
    rcases hOut : out.error? "ProcessLine" with _ | e
    · simp only [step, hPhase, hRun, hOut]
      exact Progress.Tallied.of_eq rfl rfl rfl
    · simp only [step, hPhase, hRun, hOut]
      exact fail_tallied e _ w sh
  · rcases hRun : p.sectionComplete s with ⟨out, s'⟩
    simp only [step, hPhase, hRun]
    exact failOn_tallied _ out _ w sh
  · simp only [step, hPhase]
    by_cases hStopped : w.status = .stopped
    · rcases hJob : p.jobComplete s with ⟨out, s'⟩
      rcases hOut : out.error? "JobComplete" with _ | e
      · simpa [Shared.write, hStopped, hJob, hOut] using Progress.Tallied.rfl' sh.progress
      · simpa [Shared.write, hStopped, hJob, hOut] using report_tallied w e sh
    · simpa [Shared.write, hStopped] using Progress.Tallied.rfl' sh.progress
  · simp only [step, hPhase]
    exact Progress.Tallied.rfl' _
  · simp only [step, hPhase]
    split <;> exact Progress.Tallied.rfl' _
  · simp only [step, hPhase]
    rw [halt_progress]
    exact report_tallied w _ sh

/- A step adds to the recoverable count the recoverable errors it reports. -/
theorem step_recoverable (p : Processor π) (w : Worker) (s : π) (sh : Shared ρ) :
    (w.step p s sh).2.2.progress.recoverable =
      sh.progress.recoverable + (news p w s sh).countP (fun e => !e.isFatal) := by
  have hTallied := step_tallied p w s sh
  rw [Progress.Tallied, (step_news p w s sh).1] at hTallied
  simp only [List.countP_append] at hTallied
  omega

------------------------------------------------------------
-- Within the Limit
------------------------------------------------------------

omit [SectionReader ρ] in
/- A worker still running after settling was running before. -/
theorem settle_running_was {w : Worker} {stops : Bool} (h : w.settle stops = .running) :
    w.status = .running := by
  rcases settle_moves w stops with hSame | ⟨hRun, -⟩
  · rw [← hSame, h]
  · exact hRun

/-
  The batch's count of recoverable errors that a running worker keeps
  to: at most one over its limit, and within it but between reporting
  an error and the end of the check.
-/
def WithinLimit (w : Worker) (n : Nat) : Prop :=
  w.status = .running →
    (n : Int) ≤ w.skipLimit + 1 ∧ (w.phase.failing = false → (n : Int) ≤ w.skipLimit)

omit [SectionReader ρ] in
/-
  A step after which a worker with a positive limit still runs keeps
  the batch's count where it may run with: the report of a recoverable
  error sends the worker to read the count, and the read stops it
  before it goes on over the limit.
-/
theorem Verdict.within
    {p : Processor π}
    {w : Worker}
    {proc : π}
    {sh : Shared ρ}
    {ns : List Error}
    {st : Status}
    {b : Bool}
    (h : Verdict p w proc sh ns st b)
    (hPos : 0 < w.skipLimit)
    (hWithin : w.WithinLimit sh.progress.recoverable)
    (hRun : st = .running) :
    ((sh.progress.recoverable + ns.countP (fun e => !e.isFatal) : Nat) : Int) ≤ w.skipLimit + 1 ∧
      (b = false →
        ((sh.progress.recoverable + ns.countP (fun e => !e.isFatal) : Nat) : Int) ≤ w.skipLimit) := by
  cases h with
  | quiet hPhase =>
    have hBelow := (hWithin (settle_running_was hRun)).2 hPhase
    simp only [List.countP_nil, Nat.add_zero]
    omega
  | under _ hOver =>
    have hBelow : (sh.progress.recoverable : Int) ≤ w.skipLimit := by
      simp only [overLimit, Bool.and_eq_false_iff, decide_eq_false_iff_not] at hOver
      omega
    simp only [List.countP_nil, Nat.add_zero]
    omega
  | holds => exact ⟨by simpa using (hWithin hRun).1, by simp⟩
  | fails e _ hLimit =>
    have hWas := settle_running_was hRun
    have hRec : e.isFatal = false := by
      cases hFatal : e.isFatal
      · rfl
      · rw [hFatal, settle_true hWas] at hRun
        cases hRun
    have := hLimit hRec
    omega
  | checks e hPhase hRec =>
    have hBelow := (hWithin hRun).2 hPhase
    refine ⟨?_, by simp⟩
    simp only [List.countP_singleton, hRec, Bool.not_false, if_true]
    omega
  | exceeds =>
    rw [settle_true (settle_running_was hRun)] at hRun
    cases hRun
  | finish hPhase =>
    have hNotStopped : ¬ (w.status = .stopped) := by simp [hRun]
    have hBelow := (hWithin hRun).2 (by simp [hPhase, Phase.failing])
    simp only [hNotStopped, if_false, List.countP_nil, Nat.add_zero]
    omega

omit [SectionReader ρ] in
theorem Reported.skipLimit {w w' : Worker} (h : Reported w w') : w'.skipLimit = w.skipLimit := by
  rcases h with rfl | ⟨-, rfl⟩ <;> rfl

/- A step keeps the worker's limit. -/
theorem Moves.skipLimit
    {p : Processor π}
    {w w' : Worker}
    {s s' : π}
    {sh sh' : Shared ρ}
    (hMoves : Moves p w s sh w' s' sh') :
    w'.skipLimit = w.skipLimit := by
  cases hMoves with
  | cancel _ _ _ hW | claimFails _ _ _ _ hW | refuse _ hW | filterFails _ _ _ _ hW
  | lineFails _ _ _ hW | completeFails _ _ _ hW => exact hW.skipLimit
  | complete | checkUnder => exact resume_skipLimit _ _
  | exceed => rw [resume_skipLimit, stop_skipLimit]
  | _ => rfl

theorem step_skipLimit (p : Processor π) (w : Worker) (s : π) (sh : Shared ρ) :
    (w.step p s sh).1.skipLimit = w.skipLimit :=
  (step_moves p w s sh).skipLimit

/-
  A worker with a positive limit that kept to the count, with nothing
  else reporting meanwhile, keeps to it after its step.
-/
theorem step_withinLimit
    (p : Processor π)
    (w : Worker)
    (s : π)
    (sh : Shared ρ)
    (hPos : 0 < w.skipLimit)
    (hWithin : w.WithinLimit sh.progress.recoverable) :
    (w.step p s sh).1.WithinLimit (w.step p s sh).2.2.progress.recoverable := by
  intro hRun
  rw [step_recoverable, step_skipLimit]
  exact (step_news p w s sh).2.within hPos hWithin hRun

end Worker

namespace Crew

variable {ρ π : Type} [SectionReader ρ]

/- A crew of one worker, with limit `L`, that keeps to the batch's count of recoverable errors. -/
def Within (L : Int) (c : Crew ρ π) : Prop :=
  ∃ w, c.workers = #[w] ∧ w.skipLimit = L ∧ w.WithinLimit c.shared.progress.recoverable

/-
  Every event keeps a lone worker with a positive limit to the count:
  the run being cancelled counts no error, and the worker's own steps
  keep to it.
-/
theorem Within.apply
    {L : Int}
    {c : Crew ρ π}
    (hPos : 0 < L)
    (h : c.Within L)
    (e : Event) :
    (c.apply e).Within L := by
  obtain ⟨w, hWorkers, hLimit, hWithin⟩ := h
  refine @apply_of_steps ρ π _ (fun c _ => c.Within L) c {} ⟨w, hWorkers, hLimit, hWithin⟩
    ⟨w, hWorkers, hLimit, hWithin⟩ ?_ e
  intro i k w₀ p hw₀ hk hp
  have hi : i = 0 := by
    have hLt := (Array.getElem?_eq_some_iff.1 hw₀).1
    simp only [hWorkers, List.size_toArray, List.length_singleton] at hLt
    omega
  subst hi
  obtain rfl : w₀ = w := by simpa [hWorkers] using hw₀.symm
  rw [act_of_get hw₀ hk hp]
  refine ⟨(w₀.step p c.procState c.shared).1, by simp [hWorkers], ?_, ?_⟩
  · rw [Worker.step_skipLimit, hLimit]
  · rw [← hLimit] at hPos
    exact Worker.step_withinLimit p w₀ c.procState c.shared hPos hWithin

theorem Within.runEvents
    {L : Int}
    {c : Crew ρ π}
    (hPos : 0 < L)
    (h : c.Within L)
    (evs : List Event) :
    (c.runEvents evs).Within L := by
  induction evs generalizing c with
  | nil => exact h
  | cons e evs ih => exact ih (h.apply hPos e)

/- No event lowers the batch's count of recoverable errors. -/
theorem apply_recoverable (c : Crew ρ π) (e : Event) :
    c.shared.progress.recoverable ≤ (c.apply e).shared.progress.recoverable := by
  cases e with
  | cancel => exact Nat.le_refl _
  | step i =>
    simp only [apply, act]
    split
    · split
      · rw [Worker.step_recoverable]
        exact Nat.le_add_right _ _
      · exact Nat.le_refl _
    · exact Nat.le_refl _

/-
  In any run of a crew, whatever the other workers do and wherever the
  run is cancelled, the turns of a worker form a trace of it over which
  the batch's count of recoverable errors never falls.
-/
theorem recoverable_rising
    (c : Crew ρ π)
    (evs : List Event)
    {i k : Nat}
    {w : Worker}
    {p : Processor π}
    (hw : c.workers[i]? = some w)
    (hk : c.uses[i]? = some k)
    (hp : c.processors[k]? = some p) :
    ∃ (turns : List (Worker.Turn π ρ)) (w' : Worker),
      (c.runEvents evs).workers[i]? = some w' ∧ Worker.Trace p w turns w' ∧
        Worker.Rising (·.progress.recoverable) p turns := by
  obtain ⟨turns, w', hEnd, hTrace, hRising, -⟩ :=
    c.trace_runEvents_rising evs (·.progress.recoverable) apply_recoverable hw hk hp
  exact ⟨turns, w', hEnd, hTrace, hRising⟩

end Crew

------------------------------------------------------------
-- Phases Around a Failure
------------------------------------------------------------

/- Whether a phase is outside any section: the claim, the end of the loop, or done. -/
def Phase.idle : Phase → Bool
  | .claim => true
  | .finish => true
  | .done => true
  | _ => false

namespace Phase

/- Out of a phase not failing, only the report of a recoverable error leads into the check. -/
theorem LeadsTo.checking_of_failing
    {ph ph' : Phase}
    (h : ph.LeadsTo ph')
    (hph : ph.failing = false)
    (hph' : ph'.failing = true) :
    ∃ k, ph' = .checking k := by
  rcases ph with _ | ⟨_ | ⟨_, _⟩, _⟩ | _ | ⟨_ | ⟨_, _⟩, _⟩ | _ | _ | _ | k | k <;>
    simp only [LeadsTo] at h <;> simp [failing] at hph
  · rcases h with rfl | rfl | ⟨_, _, rfl⟩ | rfl <;> simp_all [failing]
  · subst h
    simp [failing] at hph'
  · rcases h with rfl | rfl | rfl <;> simp_all [failing]
  · rcases h with ⟨_, rfl⟩ | rfl | rfl <;> simp_all [failing]
  · subst h
    simp [failing] at hph'
  · rcases h with rfl | rfl | rfl <;> simp_all [failing]
  · rcases h with rfl | rfl <;> simp_all [failing]
  · subst h
    simp [failing] at hph'
  · subst h
    simp [failing] at hph'

/- Only a line that failed leads to reading the count with the rest of its section's lines. -/
theorem LeadsTo.to_checking_lines
    {ph : Phase}
    {ls : List Line}
    {last : Bool}
    (h : ph.LeadsTo (.checking (.lines ls last))) :
    ∃ l, ph = .lines (l :: ls) last := by
  rcases ph with _ | ⟨_ | ⟨_, _⟩, _⟩ | _ | ⟨_ | ⟨l, ls'⟩, last'⟩ | _ | _ | _ | k | k <;>
    try cases k
  all_goals simp [LeadsTo, Resume.onward, Resume.halted] at h
  obtain ⟨rfl, rfl⟩ := h
  exact ⟨l, rfl⟩

/- Out of a phase that is neither busy nor before a completion, no step leads before one. -/
theorem LeadsTo.not_completing
    {ph ph' : Phase}
    (h : ph.LeadsTo ph')
    (hBusy : ph.busy = false)
    (hc : ph.completing = false) :
    ph'.completing = false := by
  rcases ph with _ | ⟨_ | ⟨_, _⟩, _⟩ | _ | ⟨_ | ⟨_, _⟩, _⟩ | _ | _ | _ | k | k <;>
    try cases k
  all_goals
    simp only [LeadsTo] at h
    rcases h with h | h | h | h <;> try obtain ⟨_, _, h⟩ := h
  all_goals simp_all [busy, completing, Resume.busy, Resume.onward, Resume.halted]

end Phase

namespace Worker

variable {π ρ : Type} [SectionReader ρ]

/- A worker that stopped normally is out of its loop. -/
def Settled (w : Worker) : Prop := w.status = .stopped → w.phase.idle = true

section Moves

variable {p : Processor π} {w w' : Worker} {s s' : π} {sh sh' : Shared ρ}

/- A worker that no longer runs stays out of any section, with its status. -/
theorem Moves.idle_stays
    (hMoves : Moves p w s sh w' s' sh')
    (hIdle : w.phase.idle = true)
    (hw : w.status ≠ .running) :
    w'.phase.idle = true ∧ w'.status = w.status := by
  cases hMoves with
  | leave | finish => exact ⟨rfl, rfl⟩
  | done => exact ⟨hIdle, rfl⟩
  | cancel _ hStatus | claimFails _ hStatus | claim _ hStatus => exact absurd hStatus hw
  | _ => simp_all [Phase.idle]

end Moves

/-
  Only going on past the last section stops a worker normally, and it
  leads back to the claim; a worker that no longer runs keeps its
  status.
-/
theorem step_settled (p : Processor π) (w : Worker) (s : π) (sh : Shared ρ) (hw : w.Settled) :
    (w.step p s sh).1.Settled := by
  intro hStopped
  have hMoves := step_moves p w s sh
  by_cases hRun : w.status = .running
  · simp [hMoves.stopped_claim hRun hStopped, Phase.idle]
  · have hWas : w.status = .stopped := by
      rcases (step_news p w s sh).2.status_moves with h | ⟨h, -⟩
      · rw [← h]
        exact hStopped
      · exact absurd h hRun
    exact (hMoves.idle_stays (hw hWas) hRun).1

omit [SectionReader ρ] in
theorem BusyRuns.not_busy {w : Worker} (h : w.BusyRuns) (hw : w.status ≠ .running) :
    w.phase.busy = false := by
  cases hB : w.phase.busy
  · rfl
  · exact absurd (h hB) hw

omit [SectionReader ρ] in
/- A failed worker outside the lines and completion of a section calls no hook. -/
theorem hook_failed
    {p : Processor π}
    {w : Worker}
    (hFailed : w.status = .failed)
    (hBusy : w.BusyRuns)
    (hc : w.phase.completing = false) :
    hook? p w = none := by
  have hNotBusy := hBusy.not_busy (by simp [hFailed])
  unfold hook?
  rcases hPh : w.phase with _ | _ | _ | ⟨_ | _, _⟩ | _ | _ | _ | _ | _ <;>
    simp_all [Phase.busy, Phase.completing]

section Verdicts

variable {p : Processor π} {w : Worker} {proc : π} {sh : Shared ρ} {ns : List Error}
variable {st : Status} {b : Bool}

omit [SectionReader ρ] in
/-
  A step outside the check whose first report is a recoverable error,
  under a positive limit, reports that error alone, keeps the status,
  and leaves the worker to read the count.
-/
theorem Verdict.recoverable_first
    {e : Error}
    {rest : List Error}
    (h : Verdict p w proc sh ns st b)
    (hPos : 0 < w.skipLimit)
    (hPhase : w.phase ≠ .finish)
    (hNews : ns = e :: rest)
    (hRec : e.isFatal = false) :
    ns = [e] ∧ st = w.status ∧ b = true ∧ w.phase.failing = false := by
  cases h with
  | quiet | under | holds => simp at hNews
  | fails e' _ hLimit =>
    obtain ⟨rfl, -⟩ := List.cons.inj hNews
    have := hLimit hRec
    omega
  | checks e' hNormal =>
    obtain ⟨rfl, rfl⟩ := List.cons.inj hNews
    exact ⟨rfl, rfl, rfl, hNormal⟩
  | exceeds =>
    obtain ⟨rfl, -⟩ := List.cons.inj hNews
    cases hRec
  | finish hFinish => exact absurd hFinish hPhase

omit [SectionReader ρ] in
/-
  Without a limit, a step outside the check never sends the worker to
  read the count, and settles it by the severity of what it reports.
-/
theorem Verdict.unlimited
    (h : Verdict p w proc sh ns st b)
    (hLimit : w.skipLimit ≤ 0)
    (hNormal : w.phase.failing = false)
    (hFinish : w.phase ≠ .finish) :
    b = false ∧ st = w.settle (ns.any Error.isFatal) := by
  cases h with
  | quiet => exact ⟨rfl, by simp⟩
  | under hPh | holds hPh | exceeds hPh => simp [hPh, Phase.failing] at hNormal
  | fails e => exact ⟨rfl, by simp⟩
  | checks _ _ _ hPos => omega
  | finish hPh => exact absurd hPh hFinish

end Verdicts

------------------------------------------------------------
-- Going Over the Limit
------------------------------------------------------------

namespace Turn

variable (p : Processor π) (t : Turn π ρ)

/- The turn of a worker that stopped normally, out of its loop, reports nothing. -/
theorem news_of_stopped
    (hSettled : t.worker.Settled)
    (hStopped : t.worker.status = .stopped)
    (hPhase : t.worker.phase ≠ .finish) :
    t.news p = [] := by
  have hIdle := hSettled hStopped
  unfold news
  apply news_of_errors
  rcases hPh : t.worker.phase with _ | _ | _ | _ | _ | _ | _ | _ | _ <;>
    simp [hPh, Phase.idle] at hIdle hPhase
  · simp [step, hPh, hStopped]
  · simp [step_done p t.worker t.proc t.shared hPh]

/-
  A turn before the end of the loop whose first report is a recoverable
  error, under a positive limit: it reports that error alone, keeps the
  status, and leaves the worker to read the count, which the turn
  raised by one.
-/
theorem checks_over
    {e : Error}
    {rest : List Error}
    (hPos : 0 < t.worker.skipLimit)
    (hPhase : t.worker.phase ≠ .finish)
    (hNews : t.news p = e :: rest)
    (hRec : e.isFatal = false) :
    t.news p = [e] ∧ (t.next p).status = t.worker.status ∧
      (∃ k, (t.next p).phase = .checking k ∧ t.worker.phase.LeadsTo (.checking k)) ∧
      (t.after p).progress.recoverable = t.shared.progress.recoverable + 1 := by
  obtain ⟨hOnly, hStatus, hFailing, hNormal⟩ :=
    (t.verdict p).recoverable_first hPos hPhase hNews hRec
  have hLeads := t.next_leadsTo p
  obtain ⟨k, hNext⟩ := hLeads.checking_of_failing hNormal hFailing
  refine ⟨hOnly, hStatus, ⟨k, hNext, hNext ▸ hLeads⟩, ?_⟩
  rw [after, step_recoverable]
  show _ + (t.news p).countP _ = _
  simp [hOnly, hRec]

/- A turn that reads a count over a positive limit reports nothing and leaves the worker to report that. -/
theorem reads_over
    {k : Resume}
    (hPhase : t.worker.phase = .checking k)
    (hPos : 0 < t.worker.skipLimit)
    (hOver : t.worker.skipLimit < t.shared.progress.recoverable) :
    t.news p = [] ∧ t.readsOver = true ∧ t.next p = { t.worker with phase := .exceeding k } := by
  have hOverLimit : t.worker.overLimit t.shared.progress = true := by
    simp only [overLimit, Bool.and_eq_true, decide_eq_true_eq]
    omega
  refine ⟨((t.verdict p).of_checking hPhase).1, by simp [readsOver, hPhase, hOverLimit], ?_⟩
  rcases (step_moves p t.worker t.proc t.shared).checking_cases hPhase with
    ⟨hUnder, -⟩ | ⟨-, hNext⟩
  · rw [hOverLimit] at hUnder
    cases hUnder
  · exact hNext

/- The turn that reports the excess reports the skip-limit error alone and stops the worker. -/
theorem exceeds
    {k : Resume}
    (hPhase : t.worker.phase = .exceeding k) :
    t.news p = [Error.skipLimit t.worker.skipLimit.toNat] ∧ t.next p = t.worker.stop.resume k :=
  ⟨((t.verdict p).of_exceeding hPhase).1,
    (step_moves p t.worker t.proc t.shared).exceeding_eq hPhase⟩

end Turn

namespace Trace

variable {p : Processor π} {m w w' : Worker} {turns : List (Turn π ρ)}

/-
  What every step keeps holds of the worker at every turn of a trace
  and at its end.
-/
theorem invariant
    {P : Worker → Prop}
    (hStep : ∀ t : Turn π ρ, P t.worker → P (t.next p))
    (h : Trace p w turns w')
    (hw : P w) :
    (∀ t ∈ turns, P t.worker) ∧ P w' := by
  induction h with
  | nil => exact ⟨by simp, hw⟩
  | @cons w w' t turns hw' rest ih =>
    subst hw'
    obtain ⟨hAll, hEnd⟩ := ih (hStep t hw)
    refine ⟨?_, hEnd⟩
    intro u hu
    rcases List.mem_cons.1 hu with rfl | hu
    · exact hw
    · exact hAll u hu

/- A failed worker outside the lines and completion of a section calls no hook again. -/
theorem failed_quiet
    (h : Trace p m turns w')
    (hFailed : m.status = .failed)
    (hBusy : m.BusyRuns)
    (hc : m.phase.completing = false) :
    hooks p turns = [] := by
  induction h with
  | nil => rfl
  | @cons m w' t turns hm rest ih =>
    subst hm
    have hMoves := step_moves p t.worker t.proc t.shared
    have hNotBusy := hBusy.not_busy (by simp [hFailed])
    rw [hooks_cons, ih (hMoves.failed_stays hFailed) (hMoves.busyRuns hBusy)
      ((t.next_leadsTo p).not_completing hNotBusy hc)]
    simp [Turn.hook, hook_failed hFailed hBusy hc]

/-
  A failed worker calls no hook again, but the completion of the
  section whose lines it was processing when it failed, which it is
  about to complete.
-/
theorem failed_hooks
    (h : Trace p m turns w')
    (hFailed : m.status = .failed)
    (hBusy : m.BusyRuns) :
    hooks p turns = [] ∨ (∃ last, m.phase = .complete last) ∧ hooks p turns = [.sectionComplete] := by
  cases hc : m.phase.completing
  · exact .inl (h.failed_quiet hFailed hBusy hc)
  · have hNotBusy := hBusy.not_busy (by simp [hFailed])
    obtain ⟨last, hComplete⟩ : ∃ last, m.phase = .complete last := by
      rcases hPh : m.phase with _ | _ | _ | _ | last | _ | _ | ⟨_ | _ | _ | _ | _ | _⟩ |
        ⟨_ | _ | _ | _ | _ | _⟩ <;> simp_all [Phase.busy, Phase.completing, Resume.busy]
    cases h with
    | nil => exact .inl rfl
    | @cons _ _ t more ht rest =>
      subst ht
      have hMoves := step_moves p t.worker t.proc t.shared
      have hLeads := t.next_leadsTo p
      rw [hComplete] at hLeads
      have hNextC : (t.next p).phase.completing = false := by
        rcases hLeads with h | h <;> simp [h, Phase.completing]
      have hQuiet := rest.failed_quiet (hMoves.failed_stays hFailed) (hMoves.busyRuns hBusy) hNextC
      exact .inr ⟨⟨last, hComplete⟩, by simp [hooks_cons, hQuiet, Turn.hook, hook?, hComplete]⟩

/-
  A worker about to read the count, with a positive limit, whose first
  turn finds the count over it: that turn reports nothing and the next
  reports the skip-limit error alone and leaves the worker failed, if
  it was running or failed; the trace goes on past both if the worker
  ends done. Neither calls a hook, and after them the worker calls only
  the completion of the section whose line failed, if that is where it
  was.
-/
theorem from_check
    {k : Resume}
    (h : Trace p m turns w')
    (hm : m.phase = .checking k)
    (hStatus : m.status = .running ∨ m.status = .failed)
    (hBusy : m.BusyRuns)
    (hPos : 0 < m.skipLimit)
    (hOver : ∀ u ∈ turns.head?, m.skipLimit < u.shared.progress.recoverable) :
    (w'.phase.isDone = true → ∃ u v more, turns = u :: v :: more) ∧
    (∀ u v more, turns = u :: v :: more → u.news p = [] ∧ u.readsOver = true ∧
      v.news p = [Error.skipLimit m.skipLimit.toNat] ∧ (v.next p).status = .failed) ∧
    (hooks p turns = [] ∨ (∃ ls last, k = .lines ls last) ∧ hooks p turns = [.sectionComplete]) := by
  cases h with
  | nil =>
    refine ⟨fun hDone => ?_, fun _ _ _ hNil => by simp at hNil, .inl rfl⟩
    simp [hm, Phase.isDone] at hDone
  | @cons _ _ u more hu rest =>
    subst hu
    obtain ⟨huNews, huReads, huNext⟩ := u.reads_over p hm hPos (hOver u rfl)
    have huBusy := (step_moves p u.worker u.proc u.shared).busyRuns hBusy
    cases rest with
    | nil =>
      refine ⟨fun hDone => ?_, fun _ _ _ hOne => by simp at hOne, .inl ?_⟩
      · simp [show u.next p = _ from huNext, Phase.isDone] at hDone
      · simp [hooks, hook_of_reading (.inl hm)]
    | @cons _ _ v more' hv rest' =>
      have hv' : v.worker = { u.worker with phase := .exceeding k } := hv.trans huNext
      have hvPhase : v.worker.phase = .exceeding k := by rw [hv']
      obtain ⟨hvNews, hvNext⟩ := v.exceeds p hvPhase
      have hvFailed : (v.next p).status = .failed := by
        rw [show v.next p = _ from hvNext]
        rcases hStatus with hRun | hFailed
        · exact stop_resume_failed _ _ (by rw [hv']; exact hRun)
        · have hvF : v.worker.status = .failed := by rw [hv']; exact hFailed
          rw [resume_status_of_stopped _ _ (stop_status _), stop_of_stopped (by simp [hvF]), hvF]
      have hvBusy := (step_moves p v.worker v.proc v.shared).busyRuns (hv ▸ huBusy)
      have hQuiet : hooks p (u :: v :: more') = hooks p more' := by
        simp [hooks_cons, hook_of_reading (.inl hm), hook_of_reading (.inr hvPhase)]
      refine ⟨fun _ => ⟨u, v, more', rfl⟩, fun u' v' more'' hEq => ?_, ?_⟩
      · cases hEq
        exact ⟨huNews, huReads, by rw [hvNews, hv'], hvFailed⟩
      · rw [hQuiet]
        rcases rest'.failed_hooks hvFailed hvBusy with hNone | ⟨⟨last, hComplete⟩, hOne⟩
        · exact .inl hNone
        · have hHalted : (v.next p).phase = k.halted := by
            rw [show v.next p = _ from hvNext]
            exact stop_resume_phase _ k
          rw [hHalted] at hComplete
          refine .inr ⟨?_, hOne⟩
          cases k <;> simp [Resume.halted] at hComplete ⊢

end Trace

/-
  The turns of a worker alone, each going on from where the one before
  left: the turn after `t`.
-/
def Turn.alone (p : Processor π) (t : Turn π ρ) : Turn π ρ :=
  ⟨t.next p, (t.worker.step p t.proc t.shared).2.1, t.after p⟩

/- The `n` turns of a worker alone from `t`: each goes on from where the one before left. -/
def Turn.solo (p : Processor π) : Nat → Turn π ρ → List (Turn π ρ)
  | 0, _ => []
  | n + 1, t => t :: solo p n (t.alone p)

/- The turns of a worker alone are a trace of it, over which nothing of what the workers share falls. -/
theorem Trace.solo (p : Processor π) (n : Nat) (t : Turn π ρ) (f : Shared ρ → Nat) :
    (∃ w', Trace p t.worker (Turn.solo p n t) w') ∧ Rising f p (Turn.solo p n t) := by
  induction n generalizing t with
  | zero => exact ⟨⟨_, .nil _⟩, trivial⟩
  | succ n ih =>
    obtain ⟨⟨w', h⟩, hRising⟩ := ih (t.alone p)
    refine ⟨⟨w', .cons rfl h⟩, ?_⟩
    cases n with
    | zero => trivial
    | succ n => exact ⟨Nat.le_refl _, hRising⟩

/- Turns over which something never falls keep it from any turn on. -/
theorem Rising.of_append
    {f : Shared ρ → Nat}
    {p : Processor π}
    {pre turns : List (Turn π ρ)}
    (h : Rising f p (pre ++ turns)) :
    Rising f p turns := by
  induction pre with
  | nil => exact h
  | cons t pre ih =>
    apply ih
    cases hRest : pre ++ turns with
    | nil => trivial
    | cons u more =>
      rw [List.cons_append, hRest] at h
      exact h.2

/-
  In turns over which something never falls, the turn after `t` starts
  from what `t` left or more.
-/
theorem Rising.le_next
    {f : Shared ρ → Nat}
    {p : Processor π}
    {pre post : List (Turn π ρ)}
    {t : Turn π ρ}
    (h : Rising f p (pre ++ t :: post)) :
    ∀ u ∈ post.head?, f (t.after p) ≤ f u.shared := by
  intro u hu
  cases post with
  | nil => cases hu
  | cons u' more =>
    obtain rfl : u' = u := Option.some.inj hu
    exact (Rising.of_append h).1

------------------------------------------------------------
-- The Skip Limit
------------------------------------------------------------

/- What a worker with limit `L` keeps along its turns, from a fresh start. -/
structure Steadfast (L : Int) (w : Worker) : Prop where
  settled : w.Settled
  busyRuns : w.BusyRuns
  limit : w.skipLimit = L
  status : w.status = .running ∨ w.status = .stopped ∨ w.status = .failed
  unlimited : L ≤ 0 → w.phase.failing = false

theorem steadfast_next
    {L : Int}
    (p : Processor π)
    (t : Turn π ρ)
    (h : Steadfast L t.worker) :
    Steadfast L (t.next p) := by
  have hMoves := step_moves p t.worker t.proc t.shared
  refine ⟨step_settled p t.worker t.proc t.shared h.settled, hMoves.busyRuns h.busyRuns,
    hMoves.skipLimit.trans h.limit, ?_, fun hNone => ?_⟩
  · rcases t.next_status p with hSame | ⟨-, hMoved⟩
    · rw [hSame]
      exact h.status
    · exact .inr hMoved
  · by_cases hFinish : t.worker.phase = .finish
    · rw [(t.finish_spec p hFinish).2]
      rfl
    · exact ((t.verdict p).unlimited (h.limit ▸ hNone) (h.unlimited hNone) hFinish).1

/-
  The skip limit `L` of a fresh worker, whatever the reader hands out
  or fails with, whatever the hooks give back and wherever the run is
  cancelled.
  (a) Alone in its batch, with `L > 0` and the batch starting within
  it, the worker runs only while the batch holds at most `L`
  recoverable errors, or `L + 1` between reporting an error and
  reading the count.
  (b) In any trace of its turns, among any other workers that only add
  errors, take a turn before the end of its loop whose first report is
  a recoverable error (of a refused line, a hook or the reader) that
  leaves the batch over `L > 0`: it reports that error alone and keeps
  the status; the next turn reads the count over the limit and reports
  nothing, and the one after reports the fatal skip-limit error alone
  and leaves the worker failed. A worker that ends done takes both.
  (c) After that turn the worker calls no hook but the completion of
  the section whose line failed, if that is where the error came from:
  no line, no filter, no other completion and no job hook.
  (d) In any run of a crew the turns of each worker are such a trace.
  Without a limit the worker never reads the count, and a turn before
  the end of the loop stops it only on a fatal error.
-/
theorem skip_limit_stops_the_worker
    (p : Processor π)
    (name : String)
    (L : Int) :
    (∀ c : Crew ρ π, c.workers = #[Worker.make name L] → 0 < L →
      (c.shared.progress.recoverable : Int) ≤ L → ∀ evs, ∀ w ∈ (c.runEvents evs).workers,
        w.status = .running →
          ((c.runEvents evs).shared.progress.recoverable : Int) ≤ L + 1 ∧
            (w.phase.failing = false → ((c.runEvents evs).shared.progress.recoverable : Int) ≤ L)) ∧
    (∀ (turns : List (Turn π ρ)) w', Trace p (Worker.make name L) turns w' →
      (0 < L → Rising (·.progress.recoverable) p turns →
        ∀ pre t post e rest, turns = pre ++ t :: post → t.worker.phase ≠ .finish →
        t.news p = e :: rest → e.isFatal = false → L < t.shared.progress.recoverable + 1 →
        t.news p = [e] ∧ (t.next p).status = t.worker.status ∧
          (w'.phase.isDone = true → ∃ u v more, post = u :: v :: more) ∧
          (∀ u v more, post = u :: v :: more →
            u.news p = [] ∧ u.readsOver = true ∧ v.news p = [Error.skipLimit L.toNat] ∧
              (Error.skipLimit L.toNat).isFatal = true ∧
              (Error.skipLimit L.toNat).code = "OVER_SKIP_LIMIT" ∧ (v.next p).status = .failed) ∧
          (hooks p post = [] ∨
            (∃ l, t.hook p = some (.processLine l)) ∧ hooks p post = [.sectionComplete])) ∧
      (L ≤ 0 → ∀ t ∈ turns, t.worker.phase.failing = false ∧
        (t.worker.phase ≠ .finish → (t.next p).status = t.worker.settle ((t.news p).any Error.isFatal)))) ∧
    (∀ (c : Crew ρ π) (evs : List Event) (i k : Nat), c.workers[i]? = some (Worker.make name L) →
      c.uses[i]? = some k → c.processors[k]? = some p →
      ∃ (turns : List (Turn π ρ)) (w' : Worker), (c.runEvents evs).workers[i]? = some w' ∧
        Trace p (Worker.make name L) turns w' ∧ Rising (·.progress.recoverable) p turns) := by
  have hFresh : Steadfast L (Worker.make name L) :=
    ⟨by simp [Settled, Worker.make], by simp [BusyRuns, Worker.make, Phase.busy], rfl, .inl rfl,
      fun _ => rfl⟩
  refine ⟨fun c hWorkers hPos hStart evs => ?_, fun turns w' h => ⟨?_, ?_⟩,
    fun c evs i k hw hk hp => c.recoverable_rising evs hw hk hp⟩
  · obtain ⟨w, hOnly, hLimit, hWithin⟩ := Crew.Within.runEvents hPos
      ⟨Worker.make name L, hWorkers, rfl, fun _ => ⟨by simp only [Worker.make]; omega, fun _ => hStart⟩⟩
      evs
    intro v hv hRun
    rw [hOnly] at hv
    simp only [List.mem_toArray, List.mem_singleton] at hv
    subst hv
    rw [← hLimit]
    exact hWithin hRun
  · intro hPos hRising pre t post e rest hSplit hPhase hNews hRec hOver
    have hAt := (h.invariant (steadfast_next p) hFresh).1 t (by simp [hSplit])
    obtain ⟨hOnly, hKeep, ⟨k, hNext, hLeads⟩, hCount⟩ :=
      t.checks_over p (hAt.limit ▸ hPos) hPhase hNews hRec
    have hNotStopped : t.worker.status ≠ .stopped := fun hStopped => by
      simp [t.news_of_stopped p hAt.settled hStopped hPhase] at hNews
    have hStatus : (t.next p).status = .running ∨ (t.next p).status = .failed := by
      rw [hKeep]
      rcases hAt.status with h | h | h
      · exact .inl h
      · exact absurd h hNotStopped
      · exact .inr h
    have hNextLimit : (t.next p).skipLimit = L :=
      (step_moves p t.worker t.proc t.shared).skipLimit.trans hAt.limit
    have hAbove : ∀ u ∈ post.head?, (t.next p).skipLimit < u.shared.progress.recoverable := by
      intro u hu
      have hStep := Rising.le_next (hSplit ▸ hRising) u hu
      rw [hNextLimit]
      omega
    obtain ⟨m, -, hFrom⟩ := Trace.append_iff.1 (hSplit ▸ h)
    obtain ⟨hm, hRest⟩ := Trace.cons_iff.1 hFrom
    subst hm
    obtain ⟨hDoneLen, hPair, hHooks⟩ := hRest.from_check hNext hStatus
      ((step_moves p t.worker t.proc t.shared).busyRuns hAt.busyRuns) (hNextLimit ▸ hPos) hAbove
    refine ⟨hOnly, hKeep, hDoneLen, fun u v more hEq => ?_, ?_⟩
    · obtain ⟨huNews, huReads, hvNews, hvFailed⟩ := hPair u v more hEq
      exact ⟨huNews, huReads, by rw [hvNews, hNextLimit], rfl, rfl, hvFailed⟩
    · rcases hHooks with hNone | ⟨⟨ls, last, rfl⟩, hOne⟩
      · exact .inl hNone
      · obtain ⟨l, hLine⟩ := hLeads.to_checking_lines
        exact .inr ⟨⟨l, by simp [Turn.hook, hook?, hLine]⟩, hOne⟩
  · intro hNone t ht
    have hAt := (h.invariant (steadfast_next p) hFresh).1 t ht
    refine ⟨hAt.unlimited hNone, fun hFinish => ?_⟩
    exact ((t.verdict p).unlimited (hAt.limit ▸ hNone) (hAt.unlimited hNone) hFinish).2

/-
  A lone worker on the input "a\nb\n" whose processor fails on every
  line with a recoverable error. With limit 1 the batch holds one error
  after the first line, and the worker reads the count within the limit
  and goes on; the second line takes the batch over: that turn reports
  the line's error alone, the next reads the count over the limit, and
  the one after reports the skip-limit error and fails the worker.
  Without a limit the worker never reads the count.
-/
theorem skip_limit_stops_the_worker_on_two_lines :
    ∃ r src', Reader.open
        (BlobSource.make (Bucket.empty.put "input.txt" [97, 10, 98, 10]) "input.txt")
        {} = (.ok r, src') ∧
      let p : Processor Unit :=
        ⟨fun _ s => (.failed (.coded (Error.processing .recoverable none (Bytes.ofString "bad"))), s),
          fun s => (.ok, s), fun s => (.ok, s), none⟩
      let sh : Shared (CoolingReader BlobSource) :=
        { reader := CoolingReader.make r 0 true []
          progress := { total := 2, policy := .lines, charset := Charset.utf8 } }
      let c : Crew (CoolingReader BlobSource) Unit :=
        { shared := sh
          workers := #[Worker.make "worker-0" 1]
          uses := #[0]
          processors := #[p]
          procState := () }
      let t₀ : Turn Unit (CoolingReader BlobSource) := ⟨Worker.make "worker-0" 1, (), sh⟩
      let u₀ : Turn Unit (CoolingReader BlobSource) := ⟨Worker.make "worker-0" 0, (), sh⟩
      let capped := ((((t₀.alone p).alone p).alone p).alone p).alone p
      let read := capped.alone p
      let excess := read.alone p
      ((c.runEvents (List.replicate 5 (.step 0))).shared.progress.recoverable : Int) ≤ 1 ∧
        (∃ e, capped.news p = [e] ∧ e.isFatal = false) ∧
        read.news p = [] ∧ read.readsOver = true ∧
        excess.news p = [Error.skipLimit 1] ∧ (excess.next p).status = .failed ∧
        ∀ t ∈ Turn.solo p 8 u₀, t.worker.phase.failing = false := by
  refine ⟨_, _, rfl, ?_⟩
  intro p sh c t₀ u₀ capped read excess
  obtain ⟨w, hw⟩ : ∃ w, (c.runEvents (List.replicate 5 (.step 0))).workers[0]? = some w :=
    Option.isSome_iff_exists.1 (by decide +kernel)
  have hState : ((c.runEvents (List.replicate 5 (.step 0))).workers[0]?.map
      fun w => (w.status, w.phase.failing)) = some (.running, false) := by
    decide +kernel
  rw [hw, Option.map_some, Option.some.injEq, Prod.mk.injEq] at hState
  have hWithin := ((skip_limit_stops_the_worker p "worker-0" 1).1 c rfl (by decide) (by decide)
    (List.replicate 5 (.step 0)) w (Array.mem_of_getElem? hw) hState.1).2 hState.2
  have hHead : (capped.news p).head?.map Error.isFatal = some false := by decide +kernel
  obtain ⟨e, rest, hNews⟩ : ∃ e rest, capped.news p = e :: rest := by
    cases h : capped.news p with
    | nil => rw [h] at hHead; cases hHead
    | cons e rest => exact ⟨e, rest, rfl⟩
  have hRec : e.isFatal = false := by
    rw [hNews] at hHead
    simpa using hHead
  have hInside : capped.worker.phase.inside = true := by decide +kernel
  have hPhase : capped.worker.phase ≠ .finish := fun h => by
    rw [h] at hInside
    cases hInside
  have hCount : capped.shared.progress.recoverable = 1 := by decide +kernel
  obtain ⟨⟨w₁, hTrace⟩, hRising⟩ := Trace.solo p 8 t₀ (·.progress.recoverable)
  obtain ⟨hOnly, -, -, hPair, -⟩ := ((skip_limit_stops_the_worker p "worker-0" 1).2.1 _ _
    hTrace).1 (by decide) hRising (Turn.solo p 5 t₀) capped [read, excess] e rest rfl hPhase
    hNews hRec (by rw [hCount]; decide)
  obtain ⟨hReadNews, hReads, hExcessNews, -, -, hFailed⟩ := hPair read excess [] rfl
  obtain ⟨⟨w₂, hUnlimited⟩, -⟩ := Trace.solo p 8 u₀ (·.progress.recoverable)
  have hNever := ((skip_limit_stops_the_worker p "worker-0" 0).2.1 _ _ hUnlimited).2 (by decide)
  exact ⟨hWithin, ⟨e, hOnly, hRec⟩, hReadNews, hReads, hExcessNews, hFailed,
    fun t ht => (hNever t ht).1⟩

end Worker

end LineBatch
