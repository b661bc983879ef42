import LineBatch.Proofs.Crew.Deal

/-
  What one step of a worker calls and reports.

  A step calls at most one hook of the processor (`Worker.hook?`), and
  changes the processors' state only through it. It reports at most
  one error: the error it fails on, the skip-limit error, or, after the
  loop, the error of the job hook. The status moves only from running:
  to failed when the step reports a fatal error, and to stopped when a
  running worker goes on after completing the last section
  (`Worker.Verdict`, `Worker.step_verdict`). A recoverable error under
  a positive skip limit sends the worker to read the batch's count at
  its next step, and a count over the limit to report the skip-limit
  error at the one after (`Phase.failing`); neither step calls a hook.

  One worker's steps among those of the rest of a batch form a
  `Worker.Trace`: before each step the rest of the batch may have
  changed the reader, the progress, the cancellation and the
  processors' state in any way, while the worker moves only by its own
  steps. The steps of a worker in any run of a crew form such a trace
  (`Crew.trace_runEvents`).

  Main declarations:
    * `Phase.inside`, `Phase.LeadsTo`, `Worker.Moves.leadsTo`
    * `Worker.Hook`, `Worker.hook?`, `Worker.step_proc`
    * `Phase.failing`, `Worker.Verdict`, `Worker.step_verdict`, `Worker.news`, `Worker.step_news`
    * `Worker.Turn`, `Worker.Trace`, `Worker.Rising`, `Crew.trace_runEvents_rising`
-/

namespace LineBatch

------------------------------------------------------------
-- Phases
------------------------------------------------------------

/- Whether a worker that goes on by `k` is still in the section it claimed. -/
def Resume.inside : Resume → Bool
  | .claim => false
  | .finish => false
  | _ => true

/- Whether a phase is inside a section: past its claim, and before the next one. -/
def Phase.inside : Phase → Bool
  | .refusals _ _ => true
  | .filter _ => true
  | .lines _ _ => true
  | .complete _ => true
  | .checking k => k.inside
  | .exceeding k => k.inside
  | _ => false

/- Whether a worker is between reporting a recoverable error and the end of the skip-limit check. -/
def Phase.failing : Phase → Bool
  | .checking _ => true
  | .exceeding _ => true
  | _ => false

/-
  Whether a worker is about to go on after the last section: to
  complete it, or to read the count after its completion failed.
-/
def Phase.completesLast : Phase → Bool
  | .complete last => last
  | .checking (.complete last) => last
  | _ => false

/- The phases a step may lead to, from each phase of the loop. -/
def Phase.LeadsTo : Phase → Phase → Prop
  | .claim, q => q = .claim ∨ q = .finish ∨ (∃ es sec, q = .refusals es sec) ∨ q = .checking .claim
  | .refusals [] sec, q => q = .filter sec
  | .refusals (_ :: es) sec, q =>
    q = .refusals es sec ∨ q = .claim ∨ q = .checking (.refusals es sec)
  | .filter sec, q => (∃ ls, q = .lines ls sec.last) ∨ q = .claim ∨ q = .checking (.filter sec.last)
  | .lines [] last, q => q = .complete last
  | .lines (_ :: ls) last, q =>
    q = .lines ls last ∨ q = .complete last ∨ q = .checking (.lines ls last)
  | .complete last, q => q = .claim ∨ q = .checking (.complete last)
  | .finish, q => q = .done
  | .done, q => q = .done
  | .checking k, q => q = k.onward ∨ q = k.halted ∨ q = .exceeding k
  | .exceeding k, q => q = k.halted

namespace Phase

theorem isDone_iff {ph : Phase} : ph.isDone = true ↔ ph = .done := by
  cases ph <;> simp [isDone]

/- Only the step after the loop, or one that is done, leads to a worker that is done. -/
theorem LeadsTo.done_of
    {ph ph' : Phase}
    (h : ph.LeadsTo ph')
    (hDone : ph' = .done) :
    ph = .finish ∨ ph = .done := by
  subst hDone
  rcases ph with _ | ⟨_ | ⟨_, _⟩, _⟩ | _ | ⟨_ | ⟨_, _⟩, _⟩ | _ | _ | _ | k | k <;>
    try cases k
  all_goals simp_all [LeadsTo, Resume.onward, Resume.halted]

/- Within a section, a step stays within it or goes back to the claim. -/
theorem LeadsTo.within
    {ph ph' : Phase}
    (h : ph.LeadsTo ph')
    (hInside : ph.inside = true) :
    ph' = .claim ∨ ph'.inside = true := by
  rcases ph with _ | ⟨_ | ⟨_, _⟩, _⟩ | _ | ⟨_ | ⟨_, _⟩, _⟩ | _ | _ | _ | k | k <;>
    try cases k
  all_goals
    simp only [LeadsTo] at h
    rcases h with h | h | h | h <;> try obtain ⟨_, _, h⟩ := h
  all_goals simp_all [inside, Resume.inside, Resume.onward, Resume.halted]

end Phase

------------------------------------------------------------
-- Where a Step Leads
------------------------------------------------------------

namespace Worker

variable {π ρ : Type} [SectionReader ρ]

section Moves

variable {p : Processor π} {w w' : Worker} {s s' : π} {sh sh' : Shared ρ} {e : Error}
variable {k : Resume}

/- Failing on an error, from `ph`, leads where `ph` leads when it goes on by `k`. -/
theorem FailsTo.leadsTo
    {ph : Phase}
    (h : FailsTo w e k w')
    (hGo : ph.LeadsTo k.onward)
    (hHalt : ph.LeadsTo k.halted)
    (hCheck : ph.LeadsTo (.checking k)) :
    ph.LeadsTo w'.phase := by
  rcases h.phase with h | h | h <;> rw [h]
  · exact hGo
  · exact hHalt
  · exact hCheck

/-
  Every step leads from its phase to one the loop allows after it; the
  cancelled run is a fatal error, which never sends the worker to read
  the count.
-/
theorem Moves.leadsTo (hMoves : Moves p w s sh w' s' sh') : w.phase.LeadsTo w'.phase := by
  cases hMoves with
  | cancel hPhase _ _ hW =>
    rw [hPhase]
    cases hW with
    | stops =>
      rcases resume_phase w.stop .finish with h | h <;>
        simp [h, Phase.LeadsTo, Resume.onward, Resume.halted]
    | checks hFatal => exact absurd hFatal (by decide)
    | goesOn hFatal => exact absurd hFatal (by decide)
  | claimFails hPhase _ _ _ hW | refuse hPhase hW | filterFails hPhase _ _ _ hW
  | lineFails hPhase _ _ hW | completeFails hPhase _ _ hW =>
    rw [hPhase]
    exact hW.leadsTo (by simp [Phase.LeadsTo, Resume.onward])
      (by simp [Phase.LeadsTo, Resume.halted]) (by simp [Phase.LeadsTo])
  | leave hPhase | claim hPhase | refused hPhase | unfiltered hPhase | filtered hPhase
  | processed hPhase | process hPhase | finish hPhase | done hPhase =>
    simp [hPhase, Phase.LeadsTo]
  | @complete last _ _ hPhase =>
    rcases resume_phase w (.complete last) with h | h <;>
      simp [hPhase, h, Phase.LeadsTo, Resume.onward, Resume.halted]
  | @checkUnder k hPhase =>
    rcases resume_phase w k with h | h <;> simp [hPhase, h, Phase.LeadsTo]
  | checkOver hPhase => simp [hPhase, Phase.LeadsTo]
  | @exceed k _ hPhase => simp [hPhase, stop_resume_phase, Phase.LeadsTo]

/- A running worker that an error stops is failed, wherever it goes on. -/
theorem stop_resume_failed (w : Worker) (k : Resume) (hRun : w.status = .running) :
    (w.stop.resume k).status = .failed := by
  rw [resume_status_of_stopped _ _ (stop_status w)]
  simp [stop, hRun]

/- A running worker that a step stops normally goes back to the claim. -/
theorem Moves.stopped_claim
    (hMoves : Moves p w s sh w' s' sh')
    (hRun : w.status = .running)
    (hStopped : w'.status = .stopped) :
    w'.phase = .claim := by
  have hResume (w₁ : Worker) (k : Resume) (h₁ : (w₁.resume k).status = .stopped)
      (hStill : w₁.status = .running) : (w₁.resume k).phase = .claim := by
    rcases resume_cases w₁ k with ⟨-, hGo⟩ | ⟨hStop, -⟩
    · rw [hGo] at h₁ ⊢
      cases k <;> simp_all [Resume.endsLast, Resume.onward]
    · exact absurd hStill hStop
  have hFails (w₁ : Worker) (e : Error) (k : Resume) (hW : FailsTo w₁ e k w')
      (hStill : w₁.status = .running) : w'.phase = .claim := by
    cases hW with
    | stops => simp [stop_resume_failed w₁ k hStill] at hStopped
    | checks => simp [hStill] at hStopped
    | goesOn => exact hResume w₁ k hStopped hStill
  cases hMoves with
  | cancel _ _ _ hW | claimFails _ _ _ _ hW | refuse _ hW | filterFails _ _ _ _ hW
  | lineFails _ _ _ hW | completeFails _ _ _ hW => exact hFails w _ _ hW hRun
  | complete | checkUnder => exact hResume w _ hStopped hRun
  | exceed => simp [stop_resume_failed w _ hRun] at hStopped
  | _ => simp_all

/- Reading the count: within the limit the worker goes on, over it the worker is to report that. -/
theorem Moves.checking_cases
    (hMoves : Moves p w s sh w' s' sh')
    (hPhase : w.phase = .checking k) :
    (w.overLimit sh.progress = false ∧ w' = w.resume k) ∨
      (w.overLimit sh.progress = true ∧ w' = { w with phase := .exceeding k }) := by
  cases hMoves with
  | checkUnder hPh hOver =>
    obtain rfl : _ = k := Phase.checking.inj (hPh.symm.trans hPhase)
    exact .inl ⟨hOver, rfl⟩
  | checkOver hPh hOver =>
    obtain rfl : _ = k := Phase.checking.inj (hPh.symm.trans hPhase)
    exact .inr ⟨hOver, rfl⟩
  | _ => simp_all

/- Reporting the excess stops the worker, which goes on as `k` says. -/
theorem Moves.exceeding_eq
    (hMoves : Moves p w s sh w' s' sh')
    (hPhase : w.phase = .exceeding k) :
    w' = w.stop.resume k := by
  cases hMoves with
  | exceed hPh =>
    obtain rfl : _ = k := Phase.exceeding.inj (hPh.symm.trans hPhase)
    rfl
  | _ => simp_all

/-
  A filter step that does not lead to the lines failed: the processor
  has a filter, and a running worker that leaves the section then has
  failed.
-/
theorem Moves.filter_failed
    {sec : Section}
    (hMoves : Moves p w s sh w' s' sh')
    (hPhase : w.phase = .filter sec)
    (hLeaves : w'.phase = .claim ∨ w'.phase = .checking (.filter sec.last)) :
    p.filter.isSome = true ∧ (w.status = .running → w'.phase = .claim → w'.status = .failed) := by
  cases hMoves with
  | unfiltered | filtered => simp at hLeaves
  | filterFails _ hFilter _ _ hW =>
    refine ⟨by simp [hFilter], fun hRun hClaim => ?_⟩
    cases hW with
    | stops => exact stop_resume_failed w _ hRun
    | checks => simp at hClaim
    | goesOn => simp [resume_phase_of_running _ hRun, Resume.onward] at hClaim
  | _ => simp_all

end Moves

------------------------------------------------------------
-- Hooks
------------------------------------------------------------

/- A call of a processor hook, with what the hook is given. -/
inductive Hook where
  | filter (lines : List Line)
  | processLine (l : Line)
  | sectionComplete
  | jobComplete

namespace Hook

def isJob : Hook → Bool
  | .jobComplete => true
  | _ => false

def isComplete : Hook → Bool
  | .sectionComplete => true
  | _ => false

def isLine : Hook → Bool
  | .processLine _ => true
  | _ => false

/- The processors' state after the call. -/
def run (p : Processor π) (proc : π) : Hook → π
  | .filter ls =>
    match p.filter with
    | some f => (f ls proc).2
    | none => proc
  | .processLine l => (p.processLine l proc).2
  | .sectionComplete => (p.sectionComplete proc).2
  | .jobComplete => (p.jobComplete proc).2

end Hook

/- The hook that the next step of the worker calls, if any. -/
def hook? (p : Processor π) (w : Worker) : Option Hook :=
  match w.phase with
  | .filter sec => p.filter.map fun _ => .filter sec.lines.toList
  | .lines (l :: _) _ => some (.processLine l)
  | .complete _ => some .sectionComplete
  | .finish => if w.status = .stopped then some .jobComplete else none
  | _ => none

/- A step changes the processors' state only by the hook it calls. -/
theorem step_proc
    (p : Processor π)
    (w : Worker)
    (proc : π)
    (sh : Shared ρ) :
    (w.step p proc sh).2.1 = ((hook? p w).map (Hook.run p proc)).getD proc := by
  have hMoves := step_moves p w proc sh
  rcases hStep : w.step p proc sh with ⟨w', proc', sh'⟩
  rw [hStep] at hMoves
  cases hMoves with
  | unfiltered hPhase hFilter => simp [hook?, hPhase, hFilter]
  | filtered hPhase hFilter hRun | filterFails hPhase hFilter hRun =>
    simp [hook?, hPhase, hFilter, Hook.run, hRun]
  | process hPhase hRun | lineFails hPhase hRun | complete hPhase hRun
  | completeFails hPhase hRun =>
    simp [hook?, hPhase, Hook.run, hRun]
  | finish hPhase hJob =>
    dsimp only at hJob
    by_cases hStopped : w.status = .stopped <;> simp [hook?, hPhase, hJob, hStopped, Hook.run]
  | done hPhase =>
    dsimp only at hPhase
    simp [hook?, hPhase]
  | leave hPhase | cancel hPhase | claimFails hPhase | claim hPhase | refused hPhase
  | refuse hPhase | processed hPhase | checkUnder hPhase | checkOver hPhase | exceed hPhase =>
    simp [hook?, hPhase]

------------------------------------------------------------
-- Reports
------------------------------------------------------------

/-
  The status of a running worker after a step that stops it when
  `stops`: failed then, else stopped when it goes on after the last
  section, else still running. Other statuses stay.
-/
def settle (w : Worker) (stops : Bool) : Status :=
  if w.status = .running then
    if stops then .failed else if w.phase.completesLast then .stopped else .running
  else w.status

theorem noteError_errors (pr : Progress) (e : Error) :
    (pr.noteError e).errors = pr.errors.push e := by
  unfold Progress.noteError
  split <;> rfl

theorem noteError_recoverable (pr : Progress) (e : Error) :
    (pr.noteError e).recoverable = pr.recoverable + (if e.isFatal then 0 else 1) := by
  unfold Progress.noteError
  split <;> simp_all

omit [SectionReader ρ] in
/- Stopping on an error changes no count of the progress. -/
theorem halt_progress (w : Worker) (e : Error) (sh : Shared ρ) :
    (w.halt e sh).2.progress = sh.progress := by
  unfold halt
  split <;> rfl

omit [SectionReader ρ] in
/- Failing on an error keeps it in the progress, and nothing else. -/
theorem fail_progress (e : Error) (k : Resume) (w : Worker) (sh : Shared ρ) :
    (fail e k w sh).2.progress = sh.progress.noteError e := by
  unfold fail
  dsimp only
  split
  · exact halt_progress w e _
  · split <;> rfl

omit [SectionReader ρ] in
/- Hearing cooldown notices keeps the count of recoverable errors. -/
theorem hear_recoverable (sh : Shared ρ) (ns : List Notice) :
    (sh.hear ns).progress.recoverable = sh.progress.recoverable := by
  induction ns generalizing sh with
  | nil => rfl
  | cons n ns ih =>
    rw [Shared.hear, List.foldl_cons, ← Shared.hear, ih]
    split <;> rfl

/-
  What a step reports, the worker's status after it, and whether it
  leaves the worker between reporting a recoverable error and the end
  of the skip-limit check. A quiet step reports nothing and goes on, as
  does reading a count within the limit; reading a count over it
  reports nothing and keeps the status. A step that fails on an error
  reports it and stops the worker if it is fatal, goes on if there is
  no limit, and else keeps the status while the worker goes to read
  the count. The report of the skip-limit error stops the worker. The
  step after the loop reports the error of the job hook, when the hook
  was called and failed, and keeps the status.
-/
inductive Verdict (p : Processor π) (w : Worker) (proc : π) (sh : Shared ρ) :
    List Error → Status → Bool → Prop
  | quiet (hPhase : w.phase.failing = false) : Verdict p w proc sh [] (w.settle false) false
  | under {k : Resume} (hPhase : w.phase = .checking k) (hOver : w.overLimit sh.progress = false) :
      Verdict p w proc sh [] (w.settle false) false
  | holds {k : Resume} (hPhase : w.phase = .checking k) (hOver : w.overLimit sh.progress = true) :
      Verdict p w proc sh [] w.status true
  | fails (e : Error) (hPhase : w.phase.failing = false)
      (hLimit : e.isFatal = false → w.skipLimit ≤ 0) :
      Verdict p w proc sh [e] (w.settle e.isFatal) false
  | checks (e : Error) (hPhase : w.phase.failing = false) (hRec : e.isFatal = false)
      (hLimit : 0 < w.skipLimit) :
      Verdict p w proc sh [e] w.status true
  | exceeds {k : Resume} (hPhase : w.phase = .exceeding k) :
      Verdict p w proc sh [Error.skipLimit w.skipLimit.toNat] (w.settle true) false
  | finish (hPhase : w.phase = .finish) :
      Verdict p w proc sh
        (if w.status = .stopped then ((p.jobComplete proc).1.error? "JobComplete").toList else [])
        w.status false

section Verdicts

variable {p : Processor π} {w w' : Worker} {proc : π} {sh sh' : Shared ρ} {e : Error}
variable {k : Resume}

omit [SectionReader ρ] in
/- Going on by `k` settles the status as the phase says, when `k` ends the section it names. -/
theorem resume_settle (hk : k.endsLast = w.phase.completesLast) :
    (w.resume k).status = w.settle false := by
  rcases resume_cases w k with ⟨hRun, hGo⟩ | ⟨hStop, hGo⟩
  · rw [hGo]
    unfold settle
    cases hEnds : k.endsLast <;> simp_all
  · rw [hGo]
    simp [settle, hStop]

omit [SectionReader ρ] in
/- Stopping a worker and going on settles it as stopped by an error. -/
theorem stop_resume_settle : (w.stop.resume k).status = w.settle true := by
  have hStop := resume_status_of_stopped w.stop k (stop_status w)
  rw [hStop]
  unfold stop settle
  split <;> simp_all

/- Going on never leaves a worker in the middle of failing. -/
@[simp] theorem resume_failing (w : Worker) (k : Resume) : (w.resume k).phase.failing = false := by
  rcases resume_phase w k with h | h <;> rw [h] <;> cases k <;> rfl

omit [SectionReader ρ] in
/- A step that reports nothing and goes on. -/
theorem verdict_quiet
    {s : Status}
    {b : Bool}
    (hErrors : sh'.progress.errors = sh.progress.errors)
    (hPhase : w.phase.failing = false)
    (hW : s = w.settle false)
    (hNext : b = false) :
    ∃ news, sh'.progress.errors.toList = sh.progress.errors.toList ++ news ∧
      Verdict p w proc sh news s b := by
  refine ⟨[], by simp [hErrors], ?_⟩
  rw [hW, hNext]
  exact .quiet hPhase

omit [SectionReader ρ] in
/-
  A step that fails on `e` against `sh₁`, which holds the errors of
  `sh`, and goes on by `k`, which ends the section the phase names.
-/
theorem verdict_fail
    {sh₁ : Shared ρ}
    (hErrors : sh₁.progress.errors = sh.progress.errors)
    (hPhase : w.phase.failing = false)
    (hk : k.endsLast = w.phase.completesLast)
    (hW : w' = (fail e k w sh₁).1)
    (hSh : sh' = (fail e k w sh₁).2) :
    ∃ news, sh'.progress.errors.toList = sh.progress.errors.toList ++ news ∧
      Verdict p w proc sh news w'.status w'.phase.failing := by
  refine ⟨[e], by rw [hSh, fail_progress, noteError_errors, hErrors]; simp, ?_⟩
  have hFails := (fail_spec e k w sh₁).1
  rw [← hW] at hFails
  cases hFails with
  | stops hFatal =>
    have hVerdict : Verdict p w proc sh [e] (w.settle e.isFatal) false :=
      .fails e hPhase (by simp [hFatal])
    rw [stop_resume_settle, resume_failing, ← hFatal]
    exact hVerdict
  | checks hFatal hLimit => exact .checks e hPhase hFatal hLimit
  | goesOn hFatal hLimit =>
    have hVerdict : Verdict p w proc sh [e] (w.settle e.isFatal) false :=
      .fails e hPhase fun _ => hLimit
    rw [resume_settle hk, resume_failing]
    rwa [hFatal] at hVerdict

end Verdicts

/- A claim: leave the loop, fail on the cancelled run, or read a section or fail reading. -/
theorem step_verdict_claim
    (p : Processor π)
    (w : Worker)
    (proc : π)
    (sh : Shared ρ)
    (hPhase : w.phase = .claim) :
    ∃ news, (w.step p proc sh).2.2.progress.errors.toList = sh.progress.errors.toList ++ news ∧
      Verdict p w proc sh news (w.step p proc sh).1.status (w.step p proc sh).1.phase.failing := by
  have hk (k : Resume) (h : k.endsLast = false) : k.endsLast = w.phase.completesLast := by
    simp [h, hPhase, Phase.completesLast]
  have hNormal : w.phase.failing = false := by simp [hPhase, Phase.failing]
  by_cases hStatus : w.status = .running
  · cases hCancelled : sh.cancelled
    · rcases hRead : SectionReader.readSection sh.reader with ⟨res, ns, cr⟩
      obtain ⟨-, -, hErrors⟩ := Shared.hear_spec { sh with reader := cr } ns
      have hGo : ¬ (w.status ≠ .running) := fun h => h hStatus
      simp only [step, hPhase]
      rw [if_neg hGo, if_neg (by simp [hCancelled]), hRead]
      cases res with
      | error e => exact verdict_fail hErrors hNormal (hk .claim rfl) rfl rfl
      | ok sec =>
        exact verdict_quiet hErrors hNormal
          (by simp [settle, hStatus, hPhase, Phase.completesLast]) rfl
    · simp only [step, hPhase, hStatus, hCancelled, ne_eq, not_true_eq_false, if_false, if_true]
      exact verdict_fail rfl hNormal (hk .finish rfl) rfl rfl
  · simp only [step, hPhase, hStatus, ne_eq, not_false_eq_true, if_true]
    exact verdict_quiet rfl hNormal (by simp [settle, hStatus]) rfl

/-
  The step after the loop: the job hook runs if the worker stopped
  normally, and its error is reported; the worker is done, its status
  kept.
-/
theorem step_finish
    (p : Processor π)
    (w : Worker)
    (proc : π)
    (sh : Shared ρ)
    (hPhase : w.phase = .finish) :
    (w.step p proc sh).2.2.progress.errors.toList = sh.progress.errors.toList ++
        (if w.status = .stopped then ((p.jobComplete proc).1.error? "JobComplete").toList
          else []) ∧
      (w.step p proc sh).1 = { w with phase := .done } := by
  simp only [step, hPhase]
  by_cases hStopped : w.status = .stopped
  · rcases hJob : p.jobComplete proc with ⟨out, proc'⟩
    rcases hOut : out.error? "JobComplete" with _ | e
    · simp [Shared.write, hStopped, hJob, hOut]
    · simp [Shared.write, report, Shared.report, noteError_errors, hStopped, hJob, hOut]
  · simp [Shared.write, hStopped]

/- Reading the count: go on within the limit, or keep the status to report that it is over. -/
theorem step_verdict_check
    (p : Processor π)
    (w : Worker)
    (proc : π)
    (sh : Shared ρ)
    {k : Resume}
    (hPhase : w.phase = .checking k) :
    ∃ news, (w.step p proc sh).2.2.progress.errors.toList = sh.progress.errors.toList ++ news ∧
      Verdict p w proc sh news (w.step p proc sh).1.status (w.step p proc sh).1.phase.failing := by
  simp only [step, hPhase]
  cases hOver : w.overLimit sh.progress
  · have hk : k.endsLast = w.phase.completesLast := by
      cases k <;> simp [hPhase, Phase.completesLast, Resume.endsLast]
    refine ⟨[], by simp, ?_⟩
    rw [if_neg (by simp), resume_settle hk, resume_failing]
    exact .under hPhase hOver
  · exact ⟨[], by simp, .holds hPhase hOver⟩

/- The report of the skip-limit error stops the worker. -/
theorem step_verdict_exceed
    (p : Processor π)
    (w : Worker)
    (proc : π)
    (sh : Shared ρ)
    {k : Resume}
    (hPhase : w.phase = .exceeding k) :
    ∃ news, (w.step p proc sh).2.2.progress.errors.toList = sh.progress.errors.toList ++ news ∧
      Verdict p w proc sh news (w.step p proc sh).1.status (w.step p proc sh).1.phase.failing := by
  have hStop : (w.halt (Error.skipLimit w.skipLimit.toNat)
      (w.report (Error.skipLimit w.skipLimit.toNat) sh)).1 = w.stop := (halt_spec _ _ _).1
  simp only [step, hPhase]
  refine ⟨[Error.skipLimit w.skipLimit.toNat], ?_, ?_⟩
  · simp [halt_progress, report, Shared.report, Shared.write, noteError_errors]
  · rw [hStop, stop_resume_settle, resume_failing]
    exact .exceeds hPhase

/- A step outside the skip-limit check. -/
theorem step_verdict_normal
    (p : Processor π)
    (w : Worker)
    (proc : π)
    (sh : Shared ρ)
    (hNormal : w.phase.failing = false) :
    ∃ news, (w.step p proc sh).2.2.progress.errors.toList = sh.progress.errors.toList ++ news ∧
      Verdict p w proc sh news (w.step p proc sh).1.status (w.step p proc sh).1.phase.failing := by
  have hCalm (hNotLast : w.phase.completesLast = false) : w.status = w.settle false := by
    unfold settle
    split <;> simp_all
  rcases hPhase : w.phase with _ | ⟨_ | ⟨e, es⟩, sec⟩ | sec | ⟨_ | ⟨l, ls⟩, last⟩ | last | _ | _ |
    k | k
  · exact step_verdict_claim p w proc sh hPhase
  · simp only [step, hPhase]
    exact verdict_quiet rfl hNormal (hCalm (by simp [hPhase, Phase.completesLast])) rfl
  · simp only [step, hPhase]
    exact verdict_fail rfl hNormal (by simp [hPhase, Phase.completesLast, Resume.endsLast]) rfl rfl
  · have hNotLast : w.phase.completesLast = false := by simp [hPhase, Phase.completesLast]
    rcases hFilter : p.filter with _ | f
    · simp only [step, hPhase, hFilter]
      exact verdict_quiet rfl hNormal (hCalm hNotLast) rfl
    · rcases hRun : f sec.lines.toList proc with ⟨⟨kept, out⟩, proc'⟩
      rcases hOut : out.error? "PreProcess" with _ | e
      · simp only [step, hPhase, hFilter, hRun, hOut]
        exact verdict_quiet rfl hNormal (hCalm hNotLast) rfl
      · simp only [step, hPhase, hFilter, hRun, hOut]
        exact verdict_fail rfl hNormal (by simp [hNotLast, Resume.endsLast]) rfl rfl
  · simp only [step, hPhase]
    exact verdict_quiet rfl hNormal (hCalm (by simp [hPhase, Phase.completesLast])) rfl
  · have hNotLast : w.phase.completesLast = false := by simp [hPhase, Phase.completesLast]
    rcases hRun : p.processLine l proc with ⟨out, proc'⟩
    rcases hOut : out.error? "ProcessLine" with _ | e
    · simp only [step, hPhase, hRun, hOut]
      exact verdict_quiet rfl hNormal (hCalm hNotLast) rfl
    · simp only [step, hPhase, hRun, hOut]
      exact verdict_fail rfl hNormal (by simp [hNotLast, Resume.endsLast]) rfl rfl
  · have hk : (Resume.complete last).endsLast = w.phase.completesLast := by
      simp [hPhase, Phase.completesLast, Resume.endsLast]
    rcases hRun : p.sectionComplete proc with ⟨out, proc'⟩
    simp only [step, hPhase, hRun]
    rcases hOut : out.error? "SectionComplete" with _ | e
    · simp only [failOn, hOut]
      exact verdict_quiet rfl hNormal (resume_settle hk) (resume_failing _ _)
    · simp only [failOn, hOut]
      exact verdict_fail rfl hNormal hk rfl rfl
  · obtain ⟨hErrors, hStep⟩ := step_finish p w proc sh hPhase
    refine ⟨_, hErrors, ?_⟩
    rw [hStep]
    exact .finish hPhase
  · simp only [step, hPhase]
    exact verdict_quiet rfl hNormal (hCalm (by simp [hPhase, Phase.completesLast])) rfl
  · simp [hPhase, Phase.failing] at hNormal
  · simp [hPhase, Phase.failing] at hNormal

/- Every step reports what its verdict says, after the errors reported before. -/
theorem step_verdict
    (p : Processor π)
    (w : Worker)
    (proc : π)
    (sh : Shared ρ) :
    ∃ news, (w.step p proc sh).2.2.progress.errors.toList = sh.progress.errors.toList ++ news ∧
      Verdict p w proc sh news (w.step p proc sh).1.status (w.step p proc sh).1.phase.failing := by
  cases hFailing : w.phase.failing
  · exact step_verdict_normal p w proc sh hFailing
  · rcases hPhase : w.phase with _ | _ | _ | _ | _ | _ | _ | k | k <;>
      simp [hPhase, Phase.failing] at hFailing
    · exact step_verdict_check p w proc sh hPhase
    · exact step_verdict_exceed p w proc sh hPhase

/- The errors a step reports, after those the progress held before it. -/
def news (p : Processor π) (w : Worker) (proc : π) (sh : Shared ρ) : List Error :=
  (w.step p proc sh).2.2.progress.errors.toList.drop sh.progress.errors.size

/- The news of a step are what it adds to the errors reported before. -/
theorem news_of_errors
    {p : Processor π}
    {w : Worker}
    {proc : π}
    {sh : Shared ρ}
    {ns : List Error}
    (hErrors : (w.step p proc sh).2.2.progress.errors.toList = sh.progress.errors.toList ++ ns) :
    news p w proc sh = ns := by
  simp [news, hErrors]

/- A step adds its news to the errors reported before, and its verdict is about them. -/
theorem step_news
    (p : Processor π)
    (w : Worker)
    (proc : π)
    (sh : Shared ρ) :
    (w.step p proc sh).2.2.progress.errors.toList =
        sh.progress.errors.toList ++ news p w proc sh ∧
      Verdict p w proc sh (news p w proc sh) (w.step p proc sh).1.status
        (w.step p proc sh).1.phase.failing := by
  obtain ⟨ns, hErrors, hVerdict⟩ := step_verdict p w proc sh
  rw [news_of_errors hErrors]
  exact ⟨hErrors, hVerdict⟩

------------------------------------------------------------
-- Statuses
------------------------------------------------------------

/- Settling keeps the status, or moves a running worker to stopped or failed. -/
theorem settle_moves (w : Worker) (stops : Bool) :
    w.settle stops = w.status ∨
      w.status = .running ∧ (w.settle stops = .stopped ∨ w.settle stops = .failed) := by
  unfold settle
  by_cases hRun : w.status = .running
  · by_cases hLast : w.phase.completesLast = true <;> cases stops <;> simp [hRun, hLast]
  · simp [hRun]

/- A running worker that a step stops as failed reported a fatal error. -/
theorem settle_failed
    {w : Worker}
    {stops : Bool}
    (hw : w.status = .running)
    (h : w.settle stops = .failed) :
    stops = true := by
  unfold settle at h
  cases stops <;> simp_all
  split at h <;> simp at h

/- A worker running or stopped normally settles, without an error that stops it, to one of the two. -/
theorem settle_false_keeps
    {w : Worker}
    (hw : w.status = .running ∨ w.status = .stopped) :
    w.settle false = .running ∨ w.settle false = .stopped := by
  unfold settle
  rcases hw with hw | hw <;> by_cases hLast : w.phase.completesLast = true <;> simp [hw, hLast]

/- Going on after the last section stops normally a worker running or stopped normally. -/
theorem settle_false_last
    {w : Worker}
    (hw : w.status = .running ∨ w.status = .stopped)
    (hLast : w.phase.completesLast = true) :
    w.settle false = .stopped := by
  unfold settle
  rcases hw with hw | hw <;> simp [hw, hLast]

/- A running worker that stops normally went on after the last section without an error that stops it. -/
theorem settle_stopped
    {w : Worker}
    {stops : Bool}
    (hw : w.status = .running)
    (h : w.settle stops = .stopped) :
    stops = false ∧ w.phase.completesLast = true := by
  unfold settle at h
  cases stops <;> simp_all

/- An error that stops a running worker fails it. -/
theorem settle_true {w : Worker} (hw : w.status = .running) : w.settle true = .failed := by
  simp [settle, hw]

section Verdicts

variable {p : Processor π} {w : Worker} {proc : π} {sh : Shared ρ} {ns : List Error}
variable {s : Status} {b : Bool}

omit [SectionReader ρ] in
/- A step keeps the status, or moves a running worker to stopped or failed. -/
theorem Verdict.status_moves (h : Verdict p w proc sh ns s b) :
    s = w.status ∨ w.status = .running ∧ (s = .stopped ∨ s = .failed) := by
  cases h with
  | quiet | under => exact settle_moves w false
  | holds | checks | finish => exact .inl rfl
  | fails e => exact settle_moves w _
  | exceeds => exact settle_moves w true

omit [SectionReader ρ] in
/- A step reports at most one error. -/
theorem Verdict.single (h : Verdict p w proc sh ns s b) : ns.length ≤ 1 := by
  cases h with
  | finish =>
    split
    · cases (p.jobComplete proc).1.error? "JobComplete" <;> simp
    · simp
  | _ => simp

omit [SectionReader ρ] in
/- A running worker that a step leaves failed reported a fatal error in it. -/
theorem Verdict.fatal_of_failed
    (h : Verdict p w proc sh ns s b)
    (hw : w.status = .running)
    (hFailed : s = .failed) :
    ∃ e ∈ ns, e.isFatal = true := by
  cases h with
  | quiet | under => exact absurd (settle_failed hw hFailed) (by simp)
  | holds | checks | finish => simp [hw] at hFailed
  | fails e => exact ⟨e, by simp, settle_failed hw hFailed⟩
  | exceeds => exact ⟨Error.skipLimit w.skipLimit.toNat, by simp, rfl⟩

omit [SectionReader ρ] in
/- A running worker that reports a fatal error fails. -/
theorem Verdict.failed_of_fatal
    (h : Verdict p w proc sh ns s b)
    (hw : w.status = .running)
    {e : Error}
    (he : e ∈ ns)
    (hFatal : e.isFatal = true) :
    s = .failed := by
  cases h with
  | quiet | under | holds => simp at he
  | fails e' =>
    rw [List.mem_singleton.1 he] at hFatal
    rw [hFatal]
    exact settle_true hw
  | checks e' _ hRec =>
    rw [List.mem_singleton.1 he, hRec] at hFatal
    cases hFatal
  | exceeds => exact settle_true hw
  | finish => simp [hw] at he

omit [SectionReader ρ] in
/- Reporting the excess reports the skip-limit error and stops a running worker. -/
theorem Verdict.of_exceeding
    {k : Resume}
    (h : Verdict p w proc sh ns s b)
    (hPhase : w.phase = .exceeding k) :
    ns = [Error.skipLimit w.skipLimit.toNat] ∧ s = w.settle true ∧ b = false := by
  cases h with
  | exceeds => exact ⟨rfl, rfl, rfl⟩
  | quiet hPh | fails _ hPh | checks _ hPh => simp [hPhase, Phase.failing] at hPh
  | under hPh | holds hPh | finish hPh => simp [hPhase] at hPh

omit [SectionReader ρ] in
/- Reading the count reports nothing: within the limit the worker goes on, over it the status stays. -/
theorem Verdict.of_checking
    {k : Resume}
    (h : Verdict p w proc sh ns s b)
    (hPhase : w.phase = .checking k) :
    ns = [] ∧ (w.overLimit sh.progress = false ∧ s = w.settle false ∧ b = false ∨
      w.overLimit sh.progress = true ∧ s = w.status ∧ b = true) := by
  cases h with
  | under _ hOver => exact ⟨rfl, .inl ⟨hOver, rfl, rfl⟩⟩
  | holds _ hOver => exact ⟨rfl, .inr ⟨hOver, rfl, rfl⟩⟩
  | quiet hPh | fails _ hPh | checks _ hPh => simp [hPhase, Phase.failing] at hPh
  | exceeds hPh | finish hPh => simp [hPhase] at hPh

omit [SectionReader ρ] in
/-
  A step that sends a worker to read the count reported one recoverable
  error, under a limit, and kept the status.
-/
theorem Verdict.checks_of_failing
    (h : Verdict p w proc sh ns s b)
    (hNormal : w.phase.failing = false)
    (hb : b = true) :
    ∃ e, ns = [e] ∧ e.isFatal = false ∧ 0 < w.skipLimit ∧ s = w.status := by
  cases h with
  | checks e _ hRec hLimit => exact ⟨e, rfl, hRec, hLimit, rfl⟩
  | holds hPh => simp [hPh, Phase.failing] at hNormal
  | _ => simp at hb

omit [SectionReader ρ] in
/- A step that reports no fatal error keeps a worker running or stopped normally so. -/
theorem Verdict.calm_keeps
    (h : Verdict p w proc sh ns s b)
    (hw : w.status = .running ∨ w.status = .stopped)
    (hCalm : ∀ e ∈ ns, e.isFatal = false) :
    s = .running ∨ s = .stopped := by
  cases h with
  | quiet | under => exact settle_false_keeps hw
  | holds | checks | finish => exact hw
  | fails e =>
    rw [hCalm e (by simp)]
    exact settle_false_keeps hw
  | exceeds =>
    have hFatal : (Error.skipLimit w.skipLimit.toNat).isFatal = true := rfl
    simp [hCalm _ (List.mem_singleton_self _)] at hFatal

end Verdicts

------------------------------------------------------------
-- Traces
------------------------------------------------------------

/-
  A turn of a worker: the worker, with the processors' state and what
  the workers share as the rest of the batch left them when it steps.
-/
structure Turn (π ρ : Type) where
  worker : Worker
  proc : π
  shared : Shared ρ

namespace Turn

variable (p : Processor π) (t : Turn π ρ)

/- The worker after its turn. -/
def next : Worker := (t.worker.step p t.proc t.shared).1

/- What the workers share after the turn. -/
def after : Shared ρ := (t.worker.step p t.proc t.shared).2.2

/- The errors the turn reports. -/
def news : List Error := Worker.news p t.worker t.proc t.shared

omit [SectionReader ρ] in
/- The hook the turn calls. -/
def hook : Option Hook := hook? p t.worker

end Turn

/-
  The turns of one worker, from `w` to `w'`: each turn steps the
  worker that the turn before it left. Between two turns the rest of
  the batch may change the processors' state and what the workers
  share in any way.
-/
inductive Trace (p : Processor π) : Worker → List (Turn π ρ) → Worker → Prop
  | nil (w : Worker) : Trace p w [] w
  | cons {w w' : Worker} {t : Turn π ρ} {turns : List (Turn π ρ)}
      (hw : t.worker = w)
      (rest : Trace p (t.next p) turns w') :
      Trace p w (t :: turns) w'

omit [SectionReader ρ] in
/- The hooks the turns call, in order. -/
def hooks (p : Processor π) (turns : List (Turn π ρ)) : List Hook := turns.filterMap (·.hook p)

namespace Trace

variable {p : Processor π} {w w' : Worker} {turns rest : List (Turn π ρ)}

theorem nil_iff : Trace p w ([] : List (Turn π ρ)) w' ↔ w' = w := by
  constructor
  · intro h
    cases h
    rfl
  · rintro rfl
    exact .nil _

theorem cons_iff {t : Turn π ρ} :
    Trace p w (t :: turns) w' ↔ t.worker = w ∧ Trace p (t.next p) turns w' := by
  constructor
  · intro h
    cases h with
    | cons hw rest => exact ⟨hw, rest⟩
  · rintro ⟨hw, rest⟩
    exact .cons hw rest

/- A trace splits at any turn into the trace before it and the trace from it. -/
theorem append_iff :
    Trace p w (turns ++ rest) w' ↔ ∃ m, Trace p w turns m ∧ Trace p m rest w' := by
  induction turns generalizing w with
  | nil => simp [nil_iff]
  | cons t turns ih =>
    simp only [List.cons_append, cons_iff, ih]
    constructor
    · rintro ⟨hw, m, h₁, h₂⟩
      exact ⟨m, ⟨hw, h₁⟩, h₂⟩
    · rintro ⟨m, ⟨hw, h₁⟩, h₂⟩
      exact ⟨hw, m, h₁, h₂⟩

end Trace

/-
  Turns over which `f` of what the workers share never falls: each
  turn starts from at least what the turn before it left.
-/
def Rising (f : Shared ρ → Nat) (p : Processor π) : List (Turn π ρ) → Prop
  | t :: u :: rest => f (t.after p) ≤ f u.shared ∧ Rising f p (u :: rest)
  | _ => True

end Worker

namespace Crew

variable {π ρ : Type} [SectionReader ρ]

/- An event keeps the processors, and which one each worker uses. -/
theorem apply_keeps (c : Crew ρ π) (e : Event) :
    (c.apply e).uses = c.uses ∧ (c.apply e).processors = c.processors := by
  cases e with
  | step j =>
    simp only [apply, act]
    split
    · split <;> simp
    · simp
  | cancel => exact ⟨rfl, rfl⟩

/- After an event a worker is as it was, or it took a turn, which left what the workers share. -/
theorem apply_worker
    (c : Crew ρ π)
    (e : Event)
    {i k : Nat}
    {w : Worker}
    {p : Processor π}
    (hw : c.workers[i]? = some w)
    (hk : c.uses[i]? = some k)
    (hp : c.processors[k]? = some p) :
    (c.apply e).workers[i]? = some w ∨
      (c.apply e).workers[i]? = some ((⟨w, c.procState, c.shared⟩ : Worker.Turn π ρ).next p) ∧
        (c.apply e).shared = (⟨w, c.procState, c.shared⟩ : Worker.Turn π ρ).after p := by
  cases e with
  | cancel => exact .inl hw
  | step j =>
    by_cases hj : j = i
    · subst hj
      right
      rw [apply, act_of_get hw hk hp]
      have hLt : j < c.workers.size := by
        rcases Array.getElem?_eq_some_iff.1 hw with ⟨hLt, -⟩
        exact hLt
      simp [Worker.Turn.next, Worker.Turn.after, hLt]
    · left
      simp only [apply, act]
      split
      · split
        · simp [hj, hw]
        · exact hw
      · exact hw

/-
  The turns of a worker in any run of a crew, whatever the other
  workers do and wherever the run is cancelled, form a trace of it;
  along it a measure of what the workers share that no event lowers
  never falls, from the start of the run on.
-/
theorem trace_runEvents_rising
    (c : Crew ρ π)
    (evs : List Event)
    (f : Shared ρ → Nat)
    (hf : ∀ (c : Crew ρ π) (e : Event), f c.shared ≤ f (c.apply e).shared)
    {i k : Nat}
    {w : Worker}
    {p : Processor π}
    (hw : c.workers[i]? = some w)
    (hk : c.uses[i]? = some k)
    (hp : c.processors[k]? = some p) :
    ∃ (turns : List (Worker.Turn π ρ)) (w' : Worker),
      (c.runEvents evs).workers[i]? = some w' ∧ Worker.Trace p w turns w' ∧
        Worker.Rising f p turns ∧ ∀ u ∈ turns, f c.shared ≤ f u.shared := by
  induction evs generalizing c w with
  | nil => exact ⟨[], w, hw, .nil w, trivial, by simp⟩
  | cons e evs ih =>
    obtain ⟨hUses, hProcessors⟩ := c.apply_keeps e
    rcases c.apply_worker e hw hk hp with hw' | ⟨hw', hShared⟩
    · obtain ⟨turns, w', hEnd, hTrace, hRising, hAbove⟩ :=
        ih (c.apply e) hw' (hUses ▸ hk) (hProcessors ▸ hp)
      exact ⟨turns, w', hEnd, hTrace, hRising, fun u hu => Nat.le_trans (hf c e) (hAbove u hu)⟩
    · obtain ⟨turns, w', hEnd, hTrace, hRising, hAbove⟩ :=
        ih (c.apply e) hw' (hUses ▸ hk) (hProcessors ▸ hp)
      refine ⟨⟨w, c.procState, c.shared⟩ :: turns, w', hEnd, .cons rfl hTrace, ?_, ?_⟩
      · cases turns with
        | nil => trivial
        | cons u more =>
          have hFirst := hAbove u List.mem_cons_self
          rw [hShared] at hFirst
          exact ⟨hFirst, hRising⟩
      · intro u hu
        rcases List.mem_cons.1 hu with rfl | hu
        · exact Nat.le_refl _
        · exact Nat.le_trans (hf c e) (hAbove u hu)

/-
  The turns of a worker in any run of a crew, whatever the other
  workers do and wherever the run is cancelled, form a trace of it.
-/
theorem trace_runEvents
    (c : Crew ρ π)
    (evs : List Event)
    {i k : Nat}
    {w : Worker}
    {p : Processor π}
    (hw : c.workers[i]? = some w)
    (hk : c.uses[i]? = some k)
    (hp : c.processors[k]? = some p) :
    ∃ (turns : List (Worker.Turn π ρ)) (w' : Worker),
      (c.runEvents evs).workers[i]? = some w' ∧ Worker.Trace p w turns w' := by
  obtain ⟨turns, w', hEnd, hTrace, -⟩ :=
    c.trace_runEvents_rising evs (fun _ => 0) (fun _ _ => Nat.le_refl 0) hw hk hp
  exact ⟨turns, w', hEnd, hTrace⟩

end Crew

end LineBatch
