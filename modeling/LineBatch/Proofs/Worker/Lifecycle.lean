import LineBatch.Proofs.Worker.Trace

/-
  The life of a worker, over all its turns.

  Take a fresh worker and any trace of its turns: the reader may hand
  out any sections or fail with any error, the processor's hooks may
  succeed, fail or stop abnormally, and the run may be cancelled
  before any turn. Then:
    * the worker runs, then stops once, normally or failed, and keeps
      that status (`Worker.Trace.statuses`);
    * it calls the job hook at most once, and once it is done, exactly
      when it stopped normally; the hook's error is reported and changes
      no status (`Worker.Trace.job_count`, `Worker.Turn.finish_spec`);
    * it stops normally exactly when it goes on past the last section
      before it reported a fatal error or read the batch's count of
      recoverable errors over the skip limit (`Worker.Trace.stopped_iff`);
    * every section whose processing starts is completed once, after
      the lines it processes, unless its filter fails and the worker
      stops before the lines (`Worker.Trace.section_hooks`,
      `Worker.Trace.reaches_claim`).

  Main declarations:
    * `Worker.Turn.readsOver`, `Worker.Turn.stops`
    * `Worker.Trace.statuses`, `Worker.Trace.job_count`, `Worker.Trace.stopped_iff`
    * `Worker.Trace.body_hooks`, `Worker.Trace.section_hooks`, `Worker.Trace.reaches_claim`
    * `Worker.fresh_worker_follows_its_lifecycle`
-/

namespace LineBatch

------------------------------------------------------------
-- Classified Hook Errors
------------------------------------------------------------

namespace Outcome

/- A hook that failed with a coded error anywhere in its chain reports that error. -/
theorem error?_coded
    (hook : String)
    {f : Failure}
    {e : Error}
    (hCoded : f.codedError? = some e) :
    (Outcome.failed f).error? hook = some e := by
  simp [error?, Failure.toError, hCoded]

/- Any other error of a hook is fatal: a failure with no coded error, or an abnormal stop. -/
theorem error?_fatal
    (hook : String)
    {out : Outcome}
    {e : Error}
    (hError : out.error? hook = some e)
    (hPlain : ∀ f, out = .failed f → f.codedError? = none) :
    e.isFatal = true := by
  cases out with
  | ok => simp [error?] at hError
  | failed f =>
    simp only [error?, Failure.toError, hPlain f rfl, Option.some.injEq] at hError
    rw [← hError]
    rfl
  | aborted v =>
    simp only [error?, Option.some.injEq] at hError
    rw [← hError]
    rfl

end Outcome

------------------------------------------------------------
-- Sections Past Their Filter
------------------------------------------------------------

/- Whether a worker is in a section past its filter, with the section's completion to come. -/
def Phase.completing : Phase → Bool
  | .lines _ _ => true
  | .complete _ => true
  | .checking (.lines _ _) => true
  | .exceeding (.lines _ _) => true
  | _ => false

/- Whether a worker completed a section and reads the count before the next claim. -/
def Phase.completed : Phase → Bool
  | .checking (.complete _) => true
  | .exceeding (.complete _) => true
  | _ => false

namespace Worker

variable {π ρ : Type} [SectionReader ρ]

------------------------------------------------------------
-- Verdicts on Stopping Normally
------------------------------------------------------------

section Verdicts

variable {p : Processor π} {w : Worker} {proc : π} {sh : Shared ρ} {ns : List Error}
variable {s : Status} {b : Bool}

omit [SectionReader ρ] in
/-
  A running worker that a step stops normally went on past the last
  section, reporting no fatal error and reading no count over the limit.
-/
theorem Verdict.stopped
    (h : Verdict p w proc sh ns s b)
    (hw : w.status = .running)
    (hs : s = .stopped) :
    w.phase.completesLast = true ∧ (∀ e ∈ ns, e.isFatal = false) ∧
      ∀ k, w.phase = .checking k → w.overLimit sh.progress = false := by
  cases h with
  | quiet hPhase =>
    refine ⟨(settle_stopped hw hs).2, by simp, fun k hk => ?_⟩
    simp [hk, Phase.failing] at hPhase
  | under hPhase hOver => exact ⟨(settle_stopped hw hs).2, by simp, fun _ _ => hOver⟩
  | fails e hPhase =>
    obtain ⟨hRec, hLast⟩ := settle_stopped hw hs
    refine ⟨hLast, by simpa using hRec, fun k hk => ?_⟩
    simp [hk, Phase.failing] at hPhase
  | holds | checks | finish => simp [hw] at hs
  | exceeds => simp [settle_true hw] at hs

omit [SectionReader ρ] in
/-
  A step that goes on past the last section, reporting no fatal error
  and reading no count over the limit, stops normally a worker running
  or stopped normally.
-/
theorem Verdict.stopped_of_last
    (h : Verdict p w proc sh ns s b)
    (hw : w.status = .running ∨ w.status = .stopped)
    (hLast : w.phase.completesLast = true)
    (hNext : b = false)
    (hCalm : ∀ e ∈ ns, e.isFatal = false)
    (hUnder : ∀ k, w.phase = .checking k → w.overLimit sh.progress = false) :
    s = .stopped := by
  cases h with
  | quiet | under => exact settle_false_last hw hLast
  | holds hPhase hOver => simp [hUnder _ hPhase] at hOver
  | fails e =>
    rw [hCalm e (by simp)]
    exact settle_false_last hw hLast
  | checks => simp at hNext
  | exceeds hPhase | finish hPhase => simp [hPhase, Phase.completesLast] at hLast

end Verdicts

------------------------------------------------------------
-- One Turn
------------------------------------------------------------

namespace Turn

variable (p : Processor π) (t : Turn π ρ)

omit [SectionReader ρ] in
/- Whether the turn reads the batch's count of recoverable errors over the skip limit. -/
def readsOver : Bool :=
  match t.worker.phase with
  | .checking _ => t.worker.overLimit t.shared.progress
  | _ => false

/- Whether the turn reports a fatal error or reads the count over the limit: what stops a worker. -/
def stops : Bool := (t.news p).any Error.isFatal || t.readsOver

theorem stops_eq_false :
    t.stops p = false ↔ (∀ e ∈ t.news p, e.isFatal = false) ∧ t.readsOver = false := by
  simp [stops]

omit [SectionReader ρ] in
theorem readsOver_eq_false :
    t.readsOver = false ↔ ∀ k, t.worker.phase = .checking k →
      t.worker.overLimit t.shared.progress = false := by
  unfold readsOver
  split <;> simp_all

/- What the turn reports, the status after it, and whether the worker is left failing. -/
theorem verdict :
    Verdict p t.worker t.proc t.shared (t.news p) (t.next p).status (t.next p).phase.failing :=
  (step_news p t.worker t.proc t.shared).2

/- A turn keeps the status, or moves a running worker to stopped or failed. -/
theorem next_status :
    (t.next p).status = t.worker.status ∨
      t.worker.status = .running ∧ ((t.next p).status = .stopped ∨ (t.next p).status = .failed) :=
  (t.verdict p).status_moves

/- A worker that no longer runs keeps its status through a turn. -/
theorem next_status_of_stopped (hw : t.worker.status ≠ .running) :
    (t.next p).status = t.worker.status := by
  rcases t.next_status p with h | ⟨hRun, -⟩
  · exact h
  · exact absurd hRun hw

theorem next_leadsTo : t.worker.phase.LeadsTo (t.next p).phase :=
  (step_moves p t.worker t.proc t.shared).leadsTo

/- The turn after the loop reports the job hook's error, if it ran, and keeps the status. -/
theorem finish_spec (hPhase : t.worker.phase = .finish) :
    t.news p = (if t.worker.status = .stopped then
        ((p.jobComplete t.proc).1.error? "JobComplete").toList else []) ∧
      t.next p = { t.worker with phase := .done } := by
  obtain ⟨hErrors, hNext⟩ := step_finish p t.worker t.proc t.shared hPhase
  exact ⟨news_of_errors hErrors, hNext⟩

/- A worker that is done stays as it is. -/
theorem next_of_done (hPhase : t.worker.phase = .done) : t.next p = t.worker := by
  simp [next, step_done p t.worker t.proc t.shared hPhase]

omit [SectionReader ρ] in
/- The job hook runs in the turn after the loop of a worker that stopped normally, and only then. -/
theorem hook_job :
    t.hook p = some .jobComplete ↔ t.worker.phase = .finish ∧ t.worker.status = .stopped := by
  unfold hook hook?
  rcases t.worker.phase with _ | _ | _ | ⟨_ | _, _⟩ | _ | _ | _ | _ | _ <;> simp

/- A turn that reads the count over the limit leaves the worker to report that. -/
theorem next_of_readsOver (h : t.readsOver = true) :
    ∃ k, t.worker.phase = .checking k ∧ t.next p = { t.worker with phase := .exceeding k } := by
  unfold readsOver at h
  split at h
  · rename_i k hPhase
    rcases (step_moves p t.worker t.proc t.shared).checking_cases hPhase with
      ⟨hUnder, -⟩ | ⟨-, hNext⟩
    · simp [hUnder] at h
    · exact ⟨k, hPhase, hNext⟩
  · cases h

/- The turn that reports the excess fails a running worker. -/
theorem exceeding_failed
    {k : Resume}
    (hPhase : t.worker.phase = .exceeding k)
    (hRun : t.worker.status = .running) :
    (t.next p).status = .failed := by
  rw [((t.verdict p).of_exceeding hPhase).2.1]
  exact settle_true hRun

end Turn

------------------------------------------------------------
-- Statuses Along a Trace
------------------------------------------------------------

omit [SectionReader ρ] in
theorem hooks_cons (p : Processor π) (t : Turn π ρ) (turns : List (Turn π ρ)) :
    hooks p (t :: turns) = (t.hook p).toList ++ hooks p turns := by
  unfold hooks
  cases h : t.hook p <;> simp [h]

namespace Trace

variable {p : Processor π} {w w' : Worker} {turns : List (Turn π ρ)}

/- A worker that no longer runs keeps its status to the end. -/
theorem status_stays
    (h : Trace p w turns w')
    (hw : w.status ≠ .running) :
    (∀ t ∈ turns, t.worker.status = w.status) ∧ w'.status = w.status := by
  induction h with
  | nil => exact ⟨by simp, rfl⟩
  | @cons w w' t turns hw' rest ih =>
    subst hw'
    have hNext := t.next_status_of_stopped p hw
    obtain ⟨hAll, hEnd⟩ := ih (hNext ▸ hw)
    refine ⟨?_, hEnd.trans hNext⟩
    intro u hu
    rcases List.mem_cons.1 hu with rfl | hu
    · rfl
    · exact (hAll u hu).trans hNext

/- A worker whose status is one of the three keeps one of them. -/
theorem status_cases
    (h : Trace p w turns w')
    (hw : w.status = .running ∨ w.status = .stopped ∨ w.status = .failed) :
    w'.status = .running ∨ w'.status = .stopped ∨ w'.status = .failed := by
  induction h with
  | nil => exact hw
  | @cons w w' t turns hw' rest ih =>
    subst hw'
    refine ih ?_
    rcases t.next_status p with hSame | ⟨-, hMoved⟩
    · rw [hSame]
      exact hw
    · exact .inr hMoved

/- The statuses along a trace: running, then the last one, which never changes again. -/
theorem statuses (h : Trace p w turns w') :
    ∃ k m, turns.map (·.worker.status) ++ [w'.status] =
      List.replicate k .running ++ List.replicate m w'.status := by
  induction h with
  | nil w => exact ⟨0, 1, rfl⟩
  | @cons w w' t turns hw rest ih =>
    by_cases hRun : t.worker.status = .running
    · obtain ⟨k, m, hEq⟩ := ih
      exact ⟨k + 1, m, by simp [hEq, hRun, List.replicate_succ]⟩
    · have hNext := t.next_status_of_stopped p hRun
      obtain ⟨hAll, hEnd⟩ := rest.status_stays (hNext ▸ hRun)
      refine ⟨0, turns.length + 2, ?_⟩
      rw [List.replicate_zero, List.nil_append, List.eq_replicate_iff]
      refine ⟨by simp, ?_⟩
      intro s hs
      simp only [List.map_cons, List.cons_append, List.mem_cons, List.mem_append, List.mem_map,
        List.not_mem_nil, or_false] at hs
      rcases hs with rfl | ⟨u, hu, rfl⟩ | rfl
      · rw [hEnd, hNext]
      · rw [hAll u hu, hEnd]
      · rfl

/- A worker that is done stays as it is. -/
theorem of_done
    (h : Trace p w turns w')
    (hDone : w.phase = .done) :
    w' = w ∧ ∀ t ∈ turns, t.worker = w := by
  induction h with
  | nil => exact ⟨rfl, by simp⟩
  | @cons w w' t turns hw rest ih =>
    subst hw
    have hNext := t.next_of_done p hDone
    obtain ⟨hEnd, hAll⟩ := ih (hNext ▸ hDone)
    refine ⟨hEnd.trans hNext, ?_⟩
    intro u hu
    rcases List.mem_cons.1 hu with rfl | hu
    · rfl
    · exact (hAll u hu).trans hNext

/-
  The job hook runs at most once: in the turn after the loop, which a
  trace holds when it ends with the worker done and did not start so,
  and then only if the worker stopped normally.
-/
theorem job_count (h : Trace p w turns w') :
    (hooks p turns).countP Hook.isJob =
      if w.phase.isDone = false ∧ w'.phase.isDone = true ∧ w'.status = .stopped then 1 else 0 := by
  induction h with
  | nil w => by_cases hDone : w.phase.isDone = true <;> simp [hooks, hDone]
  | @cons w w' t turns hw rest ih =>
    subst hw
    rw [hooks_cons, List.countP_append, ih]
    by_cases hDone : t.worker.phase = .done
    · have hHook : t.hook p = none := by simp [Turn.hook, hook?, hDone]
      have hNext := t.next_of_done p hDone
      simp [hHook, hNext, hDone, Phase.isDone]
    · by_cases hFinish : t.worker.phase = .finish
      · obtain ⟨-, hNext⟩ := t.finish_spec p hFinish
        have hNextDone : (t.next p).phase = .done := by rw [hNext]
        obtain ⟨hEnd, -⟩ := rest.of_done hNextDone
        have hHook : t.hook p = if t.worker.status = .stopped then some .jobComplete else none := by
          simp [Turn.hook, hook?, hFinish]
        by_cases hStopped : t.worker.status = .stopped <;>
          simp [hHook, hEnd, hNext, hStopped, hFinish, Phase.isDone, Hook.isJob]
      · have hHook : ¬ t.hook p = some .jobComplete := fun hJob =>
          hFinish ((t.hook_job p).1 hJob).1
        have hNextDone : (t.next p).phase.isDone = false := by
          cases hPh : (t.next p).phase <;> simp [Phase.isDone]
          rcases (t.next_leadsTo p).done_of hPh with h | h
          · exact hFinish h
          · exact hDone h
        have hCount : (t.hook p).toList.countP Hook.isJob = 0 := by
          cases hH : t.hook p with
          | none => rfl
          | some k => cases k <;> simp_all [Hook.isJob]
        have hDone' : t.worker.phase.isDone = false := by
          cases hPh : t.worker.phase <;> simp_all [Phase.isDone]
        simp [hCount, hNextDone, hDone']

------------------------------------------------------------
-- Stopping Normally
------------------------------------------------------------

/- Turns that report no fatal error leave a worker running or stopped normally so. -/
theorem calm_keeps
    (h : Trace p w turns w')
    (hw : w.status = .running ∨ w.status = .stopped)
    (hCalm : ∀ u ∈ turns, ∀ e ∈ u.news p, e.isFatal = false) :
    w'.status = .running ∨ w'.status = .stopped := by
  induction h with
  | nil => exact hw
  | @cons w w' t turns hw' rest ih =>
    subst hw'
    exact ih ((t.verdict p).calm_keeps hw (hCalm t List.mem_cons_self))
      fun u hu => hCalm u (List.mem_cons_of_mem t hu)

/-
  A turn that keeps a worker running stops it in none of the ways a
  worker can stop, when the worker is to stop normally later: a fatal
  error would fail it at once, and a count read over the limit at the
  next turn.
-/
theorem calm_of_running
    {t : Turn π ρ}
    (rest : Trace p (t.next p) turns w')
    (hRun : t.worker.status = .running)
    (hNextRun : (t.next p).status = .running)
    (hStopped : w'.status = .stopped) :
    t.stops p = false := by
  rw [Turn.stops_eq_false]
  refine ⟨fun e he => ?_, ?_⟩
  · cases hFatal : e.isFatal
    · rfl
    · rw [(t.verdict p).failed_of_fatal hRun he hFatal] at hNextRun
      cases hNextRun
  · cases hOver : t.readsOver
    · rfl
    · obtain ⟨k, -, hNext⟩ := t.next_of_readsOver p hOver
      cases rest with
      | nil => simp [hNextRun] at hStopped
      | @cons _ _ u more hu rest' =>
        have hu' : u.worker = { t.worker with phase := .exceeding k } := hu.trans hNext
        have hFailed := u.exceeding_failed p (by rw [hu']) (by rw [hu']; exact hRun)
        rw [(rest'.status_stays (by simp [hFailed])).2, hFailed] at hStopped
        cases hStopped

/-
  A worker running at the start of a trace ends it stopped normally
  exactly when some turn went on past the last section, back to the
  claim, and neither that turn nor any before it reported a fatal error
  or read the batch's count over the skip limit.
-/
theorem stopped_iff
    (h : Trace p w turns w')
    (hw : w.status = .running) :
    w'.status = .stopped ↔
      ∃ pre t post, turns = pre ++ t :: post ∧ t.worker.phase.completesLast = true ∧
        (t.next p).phase = .claim ∧ ∀ u ∈ pre ++ [t], u.stops p = false := by
  constructor
  · intro hStopped
    induction h with
    | nil => simp_all
    | @cons w w' t turns hw' rest ih =>
      subst hw'
      by_cases hNextRun : (t.next p).status = .running
      · obtain ⟨pre, t', post, hSplit, hLast, hClaim, hCalm⟩ := ih hNextRun hStopped
        have hCalmT := calm_of_running rest hw hNextRun hStopped
        refine ⟨t :: pre, t', post, by rw [hSplit]; rfl, hLast, hClaim, ?_⟩
        intro u hu
        rcases List.mem_cons.1 hu with rfl | hu
        · exact hCalmT
        · exact hCalm u hu
      · have hNext : (t.next p).status = .stopped := by
          rw [← (rest.status_stays hNextRun).2]
          exact hStopped
        obtain ⟨hLast, hCalm, hUnder⟩ := (t.verdict p).stopped hw hNext
        have hClaim := (step_moves p t.worker t.proc t.shared).stopped_claim hw hNext
        refine ⟨[], t, turns, rfl, hLast, hClaim, ?_⟩
        simp only [List.nil_append, List.mem_singleton, forall_eq]
        exact (t.stops_eq_false p).2 ⟨hCalm, (t.readsOver_eq_false).2 hUnder⟩
  · rintro ⟨pre, t, post, rfl, hLast, hClaim, hCalm⟩
    obtain ⟨m, hPre, hPost⟩ := Trace.append_iff.1 h
    obtain ⟨hm, rest⟩ := Trace.cons_iff.1 hPost
    subst hm
    have hKeeps := hPre.calm_keeps (.inl hw) fun u hu =>
      ((u.stops_eq_false p).1 (hCalm u (List.mem_append_left _ hu))).1
    obtain ⟨hCalmT, hUnder⟩ := (t.stops_eq_false p).1 (hCalm t (by simp))
    have hNext : (t.next p).status = .stopped :=
      (t.verdict p).stopped_of_last hKeeps hLast (by simp [hClaim, Phase.failing]) hCalmT
        ((t.readsOver_eq_false).1 hUnder)
    rw [(rest.status_stays (by simp [hNext])).2, hNext]

------------------------------------------------------------
-- Sections
------------------------------------------------------------

/- A worker busy with a section runs, along any trace. -/
theorem busyRuns
    (h : Trace p w turns w')
    (hw : w.BusyRuns) :
    w'.BusyRuns := by
  induction h with
  | nil => exact hw
  | @cons w w' t turns hw' rest ih =>
    subst hw'
    exact ih ((step_moves p t.worker t.proc t.shared).busyRuns hw)

/- A trace from the claim that holds no turn at the claim has no turn. -/
theorem eq_nil_of_claim
    {m : Worker}
    (h : Trace p w turns m)
    (hw : w.phase = .claim)
    (hTurns : ∀ v ∈ turns, v.worker.phase ≠ .claim) :
    turns = [] := by
  cases h with
  | nil => rfl
  | cons hv _ => exact absurd (hv ▸ hw) (hTurns _ List.mem_cons_self)

omit [SectionReader ρ] in
/- Outside the lines and the completion of a section, a turn calls no line or section hook. -/
theorem hook_of_reading
    {t : Turn π ρ}
    {k : Resume}
    (hPhase : t.worker.phase = .checking k ∨ t.worker.phase = .exceeding k) :
    t.hook p = none := by
  rcases hPhase with hPhase | hPhase <;> simp [Turn.hook, hook?, hPhase]

/-
  From the completion of a section, reading the count calls no hook up
  to the next claim: it goes back to the claim, or to report that the
  count is over, which goes back to the claim.
-/
theorem completed_hooks
    {m : Worker}
    (h : Trace p w turns m)
    (hw : w.phase.completed = true)
    (hm : m.phase = .claim)
    (hTurns : ∀ v ∈ turns, v.worker.phase ≠ .claim) :
    hooks p turns = [] := by
  induction h with
  | nil w => simp [hm, Phase.completed] at hw
  | @cons w m t turns hw' rest ih =>
    subst hw'
    have hRest : ∀ v ∈ turns, v.worker.phase ≠ .claim := fun v hv =>
      hTurns v (List.mem_cons_of_mem t hv)
    have hLeads := t.next_leadsTo p
    rcases hPh : t.worker.phase with _ | _ | _ | _ | _ | _ | _ |
      ⟨_ | _ | _ | _ | _ | last⟩ | ⟨_ | _ | _ | _ | _ | last⟩ <;>
      simp [hPh, Phase.completed] at hw
    · rw [hooks_cons, hook_of_reading (.inl hPh)]
      rw [hPh] at hLeads
      simp only [Phase.LeadsTo, Resume.onward, Resume.halted, or_self_left] at hLeads
      rcases hLeads with hClaim | hOver
      · rw [rest.eq_nil_of_claim hClaim hRest]
        rfl
      · exact ih (by simp [hOver, Phase.completed]) hm hRest
    · rw [hooks_cons, hook_of_reading (.inr hPh)]
      rw [hPh] at hLeads
      simp only [Phase.LeadsTo, Resume.halted] at hLeads
      rw [rest.eq_nil_of_claim hLeads hRest]
      rfl

/-
  From its lines or its completion to the next claim, a section calls
  the line hook for each line it processes, then the section hook once.
  Every step but the completion leads to another phase before the
  completion, the count read after a failure included.
-/
theorem body_hooks
    {m : Worker}
    (h : Trace p w turns m)
    (hw : w.phase.completing = true)
    (hm : m.phase = .claim)
    (hTurns : ∀ v ∈ turns, v.worker.phase ≠ .claim) :
    ∃ ls : List Line, hooks p turns = ls.map Hook.processLine ++ [.sectionComplete] := by
  induction h with
  | nil w => simp [hm, Phase.completing] at hw
  | @cons w m t turns hw' rest ih =>
    subst hw'
    have hRest : ∀ v ∈ turns, v.worker.phase ≠ .claim := fun v hv =>
      hTurns v (List.mem_cons_of_mem t hv)
    have hLeads := t.next_leadsTo p
    have hOnward (hNext : (t.next p).phase.completing = true) (hHook : t.hook p = none) :
        ∃ ls : List Line, hooks p (t :: turns) = ls.map Hook.processLine ++ [.sectionComplete] := by
      obtain ⟨ls, hHooks⟩ := ih hNext hm hRest
      exact ⟨ls, by rw [hooks_cons, hHooks, hHook]; rfl⟩
    rcases hPh : t.worker.phase with _ | _ | _ | ⟨_ | ⟨l, ls⟩, last⟩ | last | _ | _ |
      ⟨_ | _ | _ | _ | ⟨ls, last⟩ | _⟩ | ⟨_ | _ | _ | _ | ⟨ls, last⟩ | _⟩ <;>
      simp [hPh, Phase.completing] at hw <;> rw [hPh] at hLeads <;>
      simp only [Phase.LeadsTo, Resume.onward, Resume.halted] at hLeads
    · exact hOnward (by simp [hLeads, Phase.completing]) (by simp [Turn.hook, hook?, hPh])
    · have hNext : (t.next p).phase.completing = true := by
        rcases hLeads with h | h | h <;> simp [h, Phase.completing]
      obtain ⟨ks, hHooks⟩ := ih hNext hm hRest
      refine ⟨l :: ks, ?_⟩
      rw [hooks_cons, hHooks]
      simp [Turn.hook, hook?, hPh]
    · have hHook : t.hook p = some .sectionComplete := by simp [Turn.hook, hook?, hPh]
      rcases hLeads with hClaim | hCheck
      · exact ⟨[], by simp [rest.eq_nil_of_claim hClaim hRest, hHook, hooks]⟩
      · have hQuiet := rest.completed_hooks (by simp [hCheck, Phase.completed]) hm hRest
        exact ⟨[], by simp [hooks_cons, hHook, hQuiet]⟩
    · have hNext : (t.next p).phase.completing = true := by
        rcases hLeads with h | h | h <;> simp [h, Phase.completing]
      exact hOnward hNext (hook_of_reading (.inl hPh))
    · exact hOnward (by simp [hLeads, Phase.completing]) (hook_of_reading (.inr hPh))

/-
  After its filter failed with a recoverable error, a section reads the
  count: within the limit its completion follows, as with no lines;
  over it the worker reports that, fails and leaves the section with no
  other hook.
-/
theorem checked_filter_hooks
    {m : Worker}
    {last : Bool}
    (h : Trace p w turns m)
    (hw : w.phase = .checking (.filter last))
    (hBusy : w.BusyRuns)
    (hm : m.phase = .claim)
    (hTurns : ∀ v ∈ turns, v.worker.phase ≠ .claim) :
    (∃ ls : List Line, hooks p turns = ls.map Hook.processLine ++ [.sectionComplete]) ∨
      hooks p turns = [] ∧ m.status = .failed ∧ ∃ v ∈ turns, ∃ e ∈ v.news p, e.isFatal = true := by
  have hRun : w.status = .running := hBusy (by simp [hw, Phase.busy, Resume.busy])
  cases h with
  | nil => simp [hw] at hm
  | @cons _ _ u more hu rest =>
    subst hu
    have hRest : ∀ v ∈ more, v.worker.phase ≠ .claim := fun v hv =>
      hTurns v (List.mem_cons_of_mem u hv)
    rcases (step_moves p u.worker u.proc u.shared).checking_cases hw with
      ⟨-, hNext⟩ | ⟨-, hNext⟩
    · have hGo : (u.next p).phase = .lines [] last := by
        rw [show u.next p = _ from hNext, resume_phase_of_running _ hRun]
        rfl
      obtain ⟨ls, hHooks⟩ := rest.body_hooks (by simp [hGo, Phase.completing]) hm hRest
      exact .inl ⟨ls, by rw [hooks_cons, hook_of_reading (.inl hw), hHooks]; rfl⟩
    · cases rest with
      | nil => simp [show u.next p = _ from hNext] at hm
      | @cons _ _ v more' hv rest' =>
        have hvPhase : v.worker.phase = .exceeding (.filter last) := by
          rw [hv, show u.next p = _ from hNext]
        have hvRun : v.worker.status = .running := by
          rw [hv, show u.next p = _ from hNext]
          exact hRun
        have hClaim : (v.next p).phase = .claim := by
          rw [show v.next p = _ from (step_moves p v.worker v.proc v.shared).exceeding_eq hvPhase,
            stop_resume_phase]
          rfl
        obtain ⟨hNews, -⟩ := (v.verdict p).of_exceeding hvPhase
        have hEnd := rest'.eq_nil_of_claim hClaim fun x hx => hRest x (List.mem_cons_of_mem v hx)
        subst hEnd
        refine .inr ⟨?_, ?_, v, by simp, Error.skipLimit v.worker.skipLimit.toNat, by simp [hNews], rfl⟩
        · simp [hook_of_reading (.inl hw), hook_of_reading (.inr hvPhase), hooks]
        · cases rest'
          exact v.exceeding_failed p hvPhase hvRun

/-
  The hooks of a section whose processing starts, from its filter to
  the next claim: the filter if the processor has one, the line hook
  for each line it processes, and the section hook once; or, when the
  filter fails and the worker fails before the lines, the filter alone.
-/
theorem section_hooks
    {m : Worker}
    {t : Turn π ρ}
    {sec : Section}
    (h : Trace p w (t :: turns) m)
    (hw : w.phase = .filter sec)
    (hBusy : w.BusyRuns)
    (hm : m.phase = .claim)
    (hTurns : ∀ v ∈ t :: turns, v.worker.phase ≠ .claim) :
    (∃ ls : List Line, hooks p (t :: turns) =
        (p.filter.map fun _ => Hook.filter sec.lines.toList).toList ++
        ls.map Hook.processLine ++ [.sectionComplete]) ∨
      hooks p (t :: turns) = [.filter sec.lines.toList] ∧ t.news p ≠ [] ∧ m.status = .failed ∧
        ∃ v ∈ t :: turns, ∃ e ∈ v.news p, e.isFatal = true := by
  obtain ⟨hwt, rest⟩ := Trace.cons_iff.1 h
  subst hwt
  have hRun : t.worker.status = .running := hBusy (by simp [hw, Phase.busy])
  have hHook : t.hook p = p.filter.map fun _ => Hook.filter sec.lines.toList := by
    simp [Turn.hook, hook?, hw]
  have hRest : ∀ v ∈ turns, v.worker.phase ≠ .claim := fun v hv =>
    hTurns v (List.mem_cons_of_mem t hv)
  have hMoves := step_moves p t.worker t.proc t.shared
  have hLeads := t.next_leadsTo p
  rw [hw] at hLeads
  rcases hLeads with ⟨ls, hLines⟩ | hClaim | hCheck
  · obtain ⟨ks, hHooks⟩ := rest.body_hooks (by simp [hLines, Phase.completing]) hm hRest
    exact .inl ⟨ks, by rw [hooks_cons, hHooks, hHook, List.append_assoc]⟩
  · obtain ⟨hFilter, hFailedOf⟩ := hMoves.filter_failed hw (.inl hClaim)
    have hFailed := hFailedOf hRun hClaim
    obtain ⟨e, he, hFatal⟩ := (t.verdict p).fatal_of_failed hRun hFailed
    obtain ⟨f, hf⟩ := Option.isSome_iff_exists.1 hFilter
    have hEnd := rest.eq_nil_of_claim hClaim hRest
    subst hEnd
    cases rest
    exact .inr ⟨by simp [hooks, hHook, hf], List.ne_nil_of_mem he, hFailed, t, by simp, e, he,
      hFatal⟩
  · obtain ⟨hFilter, -⟩ := hMoves.filter_failed hw (.inr hCheck)
    obtain ⟨f, hf⟩ := Option.isSome_iff_exists.1 hFilter
    obtain ⟨e, hNews, -⟩ := (t.verdict p).checks_of_failing (by simp [hw, Phase.failing])
      (by simp [hCheck, Phase.failing])
    rcases rest.checked_filter_hooks hCheck (hMoves.busyRuns hBusy) hm hRest with
      ⟨ks, hHooks⟩ | ⟨hHooks, hFailed, v, hv, hFatal⟩
    · exact .inl ⟨ks, by rw [hooks_cons, hHooks, hHook]; simp [hf]⟩
    · exact .inr ⟨by simp [hooks_cons, hHooks, hHook, hf], by simp [hNews], hFailed, v,
        List.mem_cons_of_mem t hv, hFatal⟩

/- A worker inside a section that ends done passes through the claim after it. -/
theorem reaches_claim
    (h : Trace p w turns w')
    (hInside : w.phase.inside = true)
    (hEnd : w'.phase = .done) :
    ∃ seg u rest, turns = seg ++ u :: rest ∧ u.worker.phase = .claim ∧
      ∀ v ∈ seg, v.worker.phase ≠ .claim := by
  induction h with
  | nil => simp [hEnd, Phase.inside] at hInside
  | @cons w w' t turns hw rest ih =>
    subst hw
    have hNotClaim : t.worker.phase ≠ .claim := fun h => by simp [h, Phase.inside] at hInside
    rcases (t.next_leadsTo p).within hInside with hNextClaim | hNextInside
    · cases rest with
      | nil => simp [hNextClaim] at hEnd
      | @cons _ _ u turns hu _ =>
        exact ⟨[t], u, turns, rfl, by rw [hu]; exact hNextClaim, by simp [hNotClaim]⟩
    · obtain ⟨seg, u, more, hSplit, hU, hSeg⟩ := ih hNextInside hEnd
      refine ⟨t :: seg, u, more, by rw [hSplit]; rfl, hU, ?_⟩
      intro v hv
      rcases List.mem_cons.1 hv with rfl | hv
      · exact hNotClaim
      · exact hSeg v hv

end Trace

------------------------------------------------------------
-- The Life of a Fresh Worker
------------------------------------------------------------

/-
  The life of a fresh worker, over any trace of its turns on a reader
  of any kind: whatever the reader hands out or fails with, whatever
  the hooks give back and wherever the run is cancelled.
  (a) It runs, then stops once, normally or failed, and keeps that
  status.
  (b) The job hook runs at most once and, once the worker is done,
  exactly when it stopped normally; the hook's error is reported and
  the status stays.
  (c) It stops normally exactly when it goes on past the last section,
  back to the claim, and neither that turn nor any before it reported
  a fatal error or read the batch's count of recoverable errors over
  the skip limit. A hook's error is fatal unless the hook failed with a
  coded error somewhere in its chain, which is then the error, with its
  own severity.
  (d) Once it is done, each section whose processing started calls
  its hooks, up to the next claim, in this order: the filter if the
  processor has one, the line hook for each line it processes, and the
  section hook once; or the filter alone, when it failed and a fatal
  error failed the worker before the next claim.
-/
theorem fresh_worker_follows_its_lifecycle
    (p : Processor π)
    (name : String)
    (skipLimit : Int)
    {turns : List (Turn π ρ)}
    {w' : Worker}
    (h : Trace p (Worker.make name skipLimit) turns w') :
    ((∃ k m, turns.map (·.worker.status) ++ [w'.status] =
        List.replicate k .running ++ List.replicate m w'.status) ∧
      (w'.status = .running ∨ w'.status = .stopped ∨ w'.status = .failed)) ∧
    ((hooks p turns).countP Hook.isJob ≤ 1 ∧
      (w'.phase.isDone = true → ((hooks p turns).countP Hook.isJob = 1 ↔ w'.status = .stopped)) ∧
      ∀ t ∈ turns, t.hook p = some .jobComplete →
        t.news p = ((p.jobComplete t.proc).1.error? "JobComplete").toList ∧
          (t.next p).status = t.worker.status) ∧
    ((w'.status = .stopped ↔
        ∃ pre t post, turns = pre ++ t :: post ∧ t.worker.phase.completesLast = true ∧
          (t.next p).phase = .claim ∧
          ∀ u ∈ pre ++ [t], (∀ e ∈ u.news p, e.isFatal = false) ∧ u.readsOver = false) ∧
      (∀ (hook : String) (f : Failure) (e : Error), f.codedError? = some e →
        (Outcome.failed f).error? hook = some e) ∧
      ∀ (hook : String) (out : Outcome) (e : Error), out.error? hook = some e →
        (∀ f, out = .failed f → f.codedError? = none) → e.isFatal = true) ∧
    (w'.phase.isDone = true → ∀ pre t post sec, turns = pre ++ t :: post →
      t.worker.phase = .filter sec →
      ∃ seg u rest, post = seg ++ u :: rest ∧ u.worker.phase = .claim ∧
        (∀ v ∈ t :: seg, v.worker.phase ≠ .claim) ∧
        ((∃ ls : List Line, hooks p (t :: seg) =
            (p.filter.map fun _ => Hook.filter sec.lines.toList).toList ++
              ls.map Hook.processLine ++ [.sectionComplete]) ∨
          (hooks p (t :: seg) = [.filter sec.lines.toList] ∧ t.news p ≠ [] ∧
            u.worker.status = .failed ∧ ∃ v ∈ t :: seg, ∃ e ∈ v.news p, e.isFatal = true))) := by
  have hFresh : (Worker.make name skipLimit).status = .running := rfl
  refine ⟨⟨h.statuses, h.status_cases (.inl hFresh)⟩, ⟨?_, ?_, ?_⟩,
    ⟨?_, fun hook _ _ => Outcome.error?_coded hook, fun hook _ _ => Outcome.error?_fatal hook⟩, ?_⟩
  · rw [h.job_count]
    split <;> omega
  · intro hDone
    have hStart : (Worker.make name skipLimit).phase.isDone = false := rfl
    rw [h.job_count]
    simp [hDone, hStart]
  · intro t _ hJob
    obtain ⟨hPhase, hStopped⟩ := (t.hook_job p).1 hJob
    obtain ⟨hNews, hNext⟩ := t.finish_spec p hPhase
    exact ⟨by rw [hNews, if_pos hStopped], by rw [hNext]⟩
  · rw [h.stopped_iff hFresh]
    simp only [Turn.stops_eq_false]
  · intro hDone pre t post sec hSplit hFilter
    obtain ⟨m, hPre, hPost⟩ := Trace.append_iff.1 (hSplit ▸ h)
    have hm : t.worker = m := (Trace.cons_iff.1 hPost).1
    have hBusy : m.BusyRuns := hPre.busyRuns (by simp [BusyRuns, Worker.make, Phase.busy])
    obtain ⟨seg, u, rest, hSeg, hU, hNotClaim⟩ :=
      hPost.reaches_claim (by simp [← hm, hFilter, Phase.inside]) (Phase.isDone_iff.1 hDone)
    cases seg with
    | nil =>
      obtain ⟨rfl, -⟩ := List.cons.inj hSeg
      simp [hFilter] at hU
    | cons t' seg =>
      obtain ⟨rfl, hPostEq⟩ := List.cons.inj hSeg
      obtain ⟨m₂, hSegTrace, hRest⟩ := Trace.append_iff.1 (hSeg ▸ hPost)
      have hu : u.worker = m₂ := (Trace.cons_iff.1 hRest).1
      refine ⟨seg, u, rest, hPostEq, hU, hNotClaim, ?_⟩
      rcases hSegTrace.section_hooks (hm ▸ hFilter) (hm ▸ hBusy) (hu ▸ hU) hNotClaim with
        hNormal | ⟨hHooks, hNews, hFailed, hFatal⟩
      · exact .inl hNormal
      · exact .inr ⟨hHooks, hNews, hu ▸ hFailed, hFatal⟩

/-
  A fresh worker alone on the input "a\n", with a job hook that fails:
  it claims the one section, which is the last, processes its line,
  completes it and stops normally; the job hook then runs once, and its
  failure changes no status.
-/
theorem fresh_worker_follows_its_lifecycle_solo :
    ∃ r src', Reader.open (BlobSource.make (Bucket.empty.put "input.txt" [97, 10]) "input.txt")
        {} = (.ok r, src') ∧
      let p : Processor Unit :=
        ⟨fun _ s => (.ok, s), fun s => (.ok, s), fun s => (.failed (.plain "flush"), s), none⟩
      let c : Crew (CoolingReader BlobSource) Unit :=
        { shared :=
            { reader := CoolingReader.make r 0 true []
              progress := { total := 1, policy := .lines, charset := Charset.utf8 } }
          workers := #[Worker.make "worker-0" 0]
          uses := #[0]
          processors := #[p]
          procState := () }
      ((c.runEvents (List.replicate 8 (.step 0))).workers[0]?.map
          fun w => (w.phase.isDone, w.status)) = some (true, .stopped) ∧
        ∃ (turns : List (Turn Unit (CoolingReader BlobSource))) (w' : Worker),
          (c.runEvents (List.replicate 8 (.step 0))).workers[0]? = some w' ∧
            Trace p (Worker.make "worker-0" 0) turns w' ∧
            (hooks p turns).countP Hook.isJob = 1 := by
  refine ⟨_, _, rfl, ?_⟩
  intro p c
  have hRun : ((c.runEvents (List.replicate 8 (.step 0))).workers[0]?.map
      fun w => (w.phase.isDone, w.status)) = some (true, .stopped) := by
    decide +kernel
  obtain ⟨turns, w', hEnd, hTrace⟩ := c.trace_runEvents (List.replicate 8 (.step 0))
    (show c.workers[0]? = some (Worker.make "worker-0" 0) from rfl)
    (show c.uses[0]? = some 0 from rfl) (show c.processors[0]? = some p from rfl)
  refine ⟨hRun, turns, w', hEnd, hTrace, ?_⟩
  rw [hEnd] at hRun
  simp only [Option.map_some, Option.some.injEq, Prod.mk.injEq] at hRun
  exact ((fresh_worker_follows_its_lifecycle p "worker-0" 0 hTrace).2.1.2.1 hRun.1).2 hRun.2

end Worker

end LineBatch
