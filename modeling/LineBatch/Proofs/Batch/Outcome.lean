import LineBatch.Proofs.Batch.Launch
import LineBatch.Proofs.Crew.Tally
import LineBatch.Proofs.Worker.SkipLimit
import LineBatch.Proofs.Reader.Retries
import LineBatch.Source.Blob

/-
  The outcome of a run.

  A run builds its parts in order and stops at the first that fails:
  then it has no summary, its failure names the part, and the last hook
  is never called. The reader, once built, is handed back closed:
  closed as the state part left it when the run stopped early, or as
  the workers left it once they finished.

  A run that started lands once its workers are done: it closes the
  reader, keeps a failure to close it as an error of the batch, writes
  the final status and only then calls the last hook on the summary.
  The summary's counts agree with the run: its lines are those of the
  workers, which the progress counted too, and its recoverable and
  fatal counts are those of the errors kept, for progress that started
  with its counts right.

  Main declarations:
    * `Progress.Sound`, `Crew.Accounts`, `Crew.Accounts.run`, `Crew.turns_runEvents`
    * `Batch.SetupFails`, `Batch.launch_error_iff`, `Batch.land_spec`
    * `Batch.runBy_reader`, `Batch.runBy_complete`, `Batch.runBy_outcome`,
      `Batch.runBy_summary`
    * `Batch.run_closes_reader_and_sums_up`
-/

namespace LineBatch

------------------------------------------------------------
-- Counts That Agree With the Errors
------------------------------------------------------------

namespace Progress

/- The counts of a progress agree with the errors it kept. -/
def Sound (p : Progress) : Prop :=
  p.recoverable = p.errors.toList.countP (fun e => !e.isFatal) ∧
    p.fatal = p.errors.toList.countP (·.isFatal)

theorem Sound.of_tallied {p p' : Progress} (h : p.Sound) (hT : Tallied p p') : p'.Sound := by
  obtain ⟨hRec, hFatal⟩ := h
  obtain ⟨hTRec, hTFatal⟩ := hT
  exact ⟨by omega, by omega⟩

/- Every error kept is counted once, as recoverable or as fatal. -/
theorem Sound.total {p : Progress} (h : p.Sound) : p.recoverable + p.fatal = p.errors.size := by
  have hSplit := @List.length_eq_countP_add_countP _ (fun e : Error => e.isFatal) p.errors.toList
  simp only [Bool.not_eq_true, Array.length_toList] at hSplit
  have hNot : p.errors.toList.countP (fun e => !e.isFatal) =
      p.errors.toList.countP (fun e => decide (e.isFatal = false)) := by
    congr 1
    funext e
    cases e.isFatal <;> rfl
  rw [h.1, h.2, hNot]
  omega

/- Fresh progress has its counts right. -/
theorem make_sound {total : Int} {policy : Policy} {charset : Charset} {p : Progress}
    (h : make total policy charset = .ok p) :
    p.Sound := by
  unfold make at h
  split at h
  · cases h
  · cases h
    exact ⟨rfl, rfl⟩

/- Keeping the error of a close, if any, keeps the counts right. -/
theorem Sound.noteError? {p : Progress} (h : p.Sound) (e : Option Error) : (p.noteError? e).Sound := by
  cases e with
  | none => exact h
  | some e => exact h.of_tallied (tallied_noteError p e)

end Progress

namespace CoolingReader

variable {σ : Type} [ByteSource σ]

/- A reader is closed once it was closed, whatever closing it gave. -/
theorem closed_after_close (c : CoolingReader σ) : c.close.2.reader.closed = true :=
  (Reader.close_closed c.reader).1

end CoolingReader

namespace Worker

variable {ρ π : Type} [SectionReader ρ]

/- A step keeps the counts right. -/
theorem step_sound (p : Processor π) (w : Worker) (s : π) (sh : Shared ρ)
    (h : sh.progress.Sound) :
    (w.step p s sh).2.2.progress.Sound :=
  h.of_tallied (step_tallied p w s sh)

/- A step counts in the progress the line its processor took, and no other. -/
theorem progress_lines_step
    {p : Processor π}
    {w w' : Worker}
    {s s' : π}
    {sh sh' : Shared ρ}
    (hMoves : Moves p w s sh w' s' sh') :
    sh'.progress.lines = sh.progress.lines + (w.tookBy w').length := by
  cases hMoves with
  | process hPhase => simp [tookBy, hPhase, Progress.noteLine]
  | lineFails hPhase _ _ hW _ hSteady | completeFails hPhase _ _ hW _ hSteady =>
    simp [tookBy, hPhase, hW.lines, hSteady.lines]
  | @refuse w₁ _ e es sec hPhase hW _ hSteady =>
    simp [tookBy, hPhase, hSteady.lines]
  | @filterFails f kept out s₁ sec e w₁ _ hPhase _ _ _ hW _ hSteady =>
    simp [tookBy, hPhase, hSteady.lines]
  | cancel hPhase _ _ _ _ hSteady | claimFails hPhase _ _ _ _ _ hSteady
  | claim hPhase _ _ _ _ hSteady | finish hPhase _ _ hSteady | exceed hPhase _ hSteady _ =>
    simp [tookBy, hPhase, hSteady.lines]
  | leave hPhase | refused hPhase | unfiltered hPhase | filtered hPhase | processed hPhase
  | complete hPhase | done hPhase | checkUnder hPhase | checkOver hPhase =>
    simp [tookBy, hPhase]

end Worker

namespace Crew

variable {ρ π : Type} [SectionReader ρ]

/-
  The accounts of a crew whose progress counted `base` lines before
  the workers started: the counts agree with the errors kept, and the
  progress counted the lines the workers counted.
-/
structure Accounts (base : Nat) (c : Crew ρ π) : Prop where
  sound : c.shared.progress.Sound
  lines : c.shared.progress.lines = base + (c.workers.toList.map Worker.lines).sum

variable {base : Nat} {c : Crew ρ π}

/- Every event keeps the accounts: the worker and the progress count the same line. -/
theorem Accounts.apply (h : Accounts base c) (e : Event) : Accounts base (c.apply e) := by
  refine @apply_of_steps ρ π _ (fun c _ => Accounts base c) c {} h ⟨h.sound, h.lines⟩ ?_ e
  intro i k w p hw hk hp
  rw [act_of_get hw hk hp]
  have hMoves := Worker.step_moves p w c.procState c.shared
  have hWorker := Worker.lines_step hMoves
  have hProgress := Worker.progress_lines_step hMoves
  have hGetLines : (c.workers.toList.map Worker.lines)[i]? = some w.lines := by simp [hw]
  have hSum := sum_set_add hGetLines (w.step p c.procState c.shared).1.lines
  refine ⟨Worker.step_sound p w c.procState c.shared h.sound, ?_⟩
  simp only [Array.set!_eq_setIfInBounds, Array.toList_setIfInBounds, List.map_set]
  have := h.lines
  omega

theorem Accounts.run (h : Accounts base c) (evs : List Event) :
    Accounts base (c.runEvents evs) := by
  induction evs generalizing c with
  | nil => exact h
  | cons e es ih => exact ih (h.apply e)

theorem runEvents_append (c : Crew ρ π) (es fs : List Event) :
    c.runEvents (es ++ fs) = (c.runEvents es).runEvents fs := by
  induction es generalizing c with
  | nil => rfl
  | cons e es ih => exact ih (c.apply e)

/- Steps taken by a schedule are the events it names, in order. -/
theorem runWith_eq_runEvents (schedule : Nat → Nat) (n : Nat) (c : Crew ρ π) :
    runWith schedule n c = c.runEvents ((List.range n).map fun k => .step (schedule k)) := by
  induction n with
  | zero => rfl
  | succ n ih =>
    rw [runWith, ih, List.range_succ, List.map_append, runEvents_append]
    rfl

/- Workers taking turns is one run of events: a cancel first if the run was cancelled. -/
theorem turns_runEvents (cancelled : Bool) (c : Crew ρ π) :
    ∃ evs, turns cancelled c = c.runEvents evs := by
  let c₀ := if cancelled then c.cancel else c
  have hStart : ∃ pre, c₀ = c.runEvents pre := by
    cases cancelled
    · exact ⟨[], rfl⟩
    · exact ⟨[.cancel], rfl⟩
  obtain ⟨pre, hPre⟩ := hStart
  refine ⟨pre ++ (List.range c₀.stepBound).map fun k => .step (c₀.roundRobin k), ?_⟩
  rw [runEvents_append, ← hPre]
  exact runWith_eq_runEvents _ _ c₀

end Crew

------------------------------------------------------------
-- Setting Up
------------------------------------------------------------

namespace Batch

variable {σ π : Type} [ByteSource σ]

omit [ByteSource σ] in
/- Building the processors fails just when the part of some worker of the range fails. -/
theorem buildWorkers_error_iff (parts : Parts σ π) (n i : Nat) :
    (∃ r, buildWorkers parts n i = .error r) ↔
      ∃ j f, i ≤ j ∧ j < i + n ∧ parts.worker j = .error f := by
  induction n generalizing i with
  | zero =>
    simp only [buildWorkers, reduceCtorEq, exists_false, false_iff, not_exists, not_and]
    intro j f hLe hLt
    omega
  | succ n ih =>
    rcases hWorker : parts.worker i with f | k
    · simp only [buildWorkers, hWorker, Except.error.injEq, exists_eq', true_iff]
      exact ⟨i, f, Nat.le_refl _, by omega, hWorker⟩
    · have hLater := ih (i + 1)
      simp only [buildWorkers, hWorker]
      constructor
      · rintro ⟨r, hr⟩
        rcases hRest : buildWorkers parts n (i + 1) with r' | ks
        · obtain ⟨j, f, hLe, hLt, hj⟩ := hLater.1 ⟨r', hRest⟩
          exact ⟨j, f, by omega, by omega, hj⟩
        · rw [hRest] at hr
          cases hr
      · rintro ⟨j, f, hLe, hLt, hj⟩
        have hNext : i + 1 ≤ j := by
          rcases Nat.lt_or_eq_of_le hLe with hLt' | rfl
          · exact hLt'
          · rw [hWorker] at hj
            cases hj
        obtain ⟨r, hr⟩ := hLater.2 ⟨j, f, hNext, by omega, hj⟩
        exact ⟨r, by rw [hr]; rfl⟩

/-
  A run fails while it is set up: its first hook fails, its reader or
  its state cannot be built, or the part of one of its workers fails.
-/
def SetupFails (b : Batch) (parts : Parts σ π) : Prop :=
  (∃ f, parts.init = .error f) ∨ (∃ f, parts.reader = .error f) ∨
    (∃ r f r', parts.reader = .ok r ∧ parts.state r = (.error f, r')) ∨
    (∃ j f, j < b.workers ∧ parts.worker j = .error f)

/- A run stops while it is set up just when some part of it fails. -/
theorem launch_error_iff (b : Batch) (parts : Parts σ π) :
    (∃ res, b.launch parts = .error res) ↔ b.SetupFails parts := by
  unfold SetupFails
  have hWorkers := buildWorkers_error_iff parts b.workers 0
  simp only [Nat.zero_le, Nat.zero_add, true_and] at hWorkers
  rcases hInit : parts.init with f | initLog
  · simp [launch, hInit]
  rcases hReader : parts.reader with f | r₀
  · simp [launch, hInit, hReader]
  rcases hState : parts.state r₀ with ⟨_ | ⟨p, stateLog⟩, r⟩
  · simp [launch, hInit, hReader, hState]
  rcases hBuild : buildWorkers parts b.workers 0 with ⟨i, f⟩ | uses
  · obtain ⟨j, f, hj, hf⟩ := hWorkers.1 ⟨_, hBuild⟩
    simp only [launch, hInit, hReader, hState, hBuild, Except.error.injEq, exists_eq', true_iff]
    exact .inr (.inr (.inr ⟨j, f, hj, hf⟩))
  · have hNone : ¬ ∃ j f, j < b.workers ∧ parts.worker j = .error f := fun hSome => by
      obtain ⟨r, hr⟩ := hWorkers.2 hSome
      rw [hBuild] at hr
      cases hr
    simp [launch, hInit, hReader, hState, hBuild]
    simpa using hNone

/-
  The reader a run hands back: none when the first hook or the reader
  part failed; otherwise the reader as the state part left it, closed,
  when the run stopped while set up.
-/
theorem launch_error_reader
    {b : Batch}
    {parts : Parts σ π}
    {res : RunResult σ π}
    (h : b.launch parts = .error res) :
    res.summary = none ∧ res.failure.isSome = true ∧
      (res.reader = none ↔ (∃ f, parts.init = .error f) ∨ (∃ f, parts.reader = .error f)) ∧
      ∀ initLog r₀, parts.init = .ok initLog → parts.reader = .ok r₀ →
        res.reader = some (parts.state r₀).2.close.2 := by
  unfold launch at h
  rcases hInit : parts.init with f | initLog
  · simp only [hInit, Except.error.injEq] at h
    subst h
    simp [stopped]
  rcases hReader : parts.reader with f | r₀
  · simp only [hInit, hReader, Except.error.injEq] at h
    subst h
    simp [stopped]
  rcases hState : parts.state r₀ with ⟨_ | ⟨p, stateLog⟩, r⟩
  · simp only [hInit, hReader, hState, Except.error.injEq] at h
    subst h
    simp [stopped, hState]
  rcases hBuild : buildWorkers parts b.workers 0 with ⟨i, f⟩ | uses
  · simp only [hInit, hReader, hState, hBuild, Except.error.injEq] at h
    subst h
    simp [stopped, hState]
  · simp [hInit, hReader, hState, hBuild] at h

omit [ByteSource σ] in
/- Building the processors reads only the worker parts. -/
theorem buildWorkers_complete (parts : Parts σ π) (c' : Summary → π → Except Failure (List Record))
    (n i : Nat) :
    buildWorkers { parts with complete := c' } n i = buildWorkers parts n i := by
  induction n generalizing i with
  | zero => rfl
  | succ n ih => simp only [buildWorkers, ih]

/- The last hook is not even looked at by a run that stops while set up. -/
theorem launch_complete (b : Batch) (parts : Parts σ π) (c' : Summary → π → Except Failure (List Record)) :
    b.launch { parts with complete := c' } = b.launch parts := by
  simp only [launch, buildWorkers_complete]
  rfl

------------------------------------------------------------
-- Landing
------------------------------------------------------------

/-
  Landing a crew closes the reader and keeps a failure to close it
  after the errors the workers left. The summary is taken from that
  progress, whose final status is written before the last hook is
  called on the summary; the hook's outcome is the run's.
-/
theorem land_spec (b : Batch) (parts : Parts σ π) (l : Launch σ π) (crew : Crew (CoolingReader σ) π) :
    let p := crew.shared.progress.noteError? crew.shared.reader.close.1
    let s := b.summarize { crew with shared := { crew.shared with progress := p } }
    (b.land parts l crew).summary = some s ∧
      (b.land parts l crew).procState = crew.procState ∧
      (b.land parts l crew).reader = some crew.shared.reader.close.2 ∧
      (b.land parts l crew).failure =
        (match parts.complete s crew.procState with
          | .error f => some (f.under "batch: complete")
          | .ok _ => none) ∧
      ∃ pre, (b.land parts l crew).log = pre ++ b.tag #[p.finalStatus] ++
        (match parts.complete s crew.procState with
          | .error _ => #[]
          | .ok doneLog => b.tag doneLog.toArray ++
              b.tag #[⟨.info, "batch finished", [("failed", toString s.failed)]⟩]) := by
  intro p s
  rcases hClose : crew.shared.reader.close with ⟨_ | e, r⟩
  · have hs : b.summarize { crew with shared := { crew.shared with reader := r } } = s := by
      simp only [s, p, hClose]
      rfl
    simp only [land, hClose, hs]
    cases parts.complete s crew.procState <;>
      exact ⟨rfl, rfl, rfl, rfl, l.log ++ b.tag crew.shared.log ++ b.tag (r.reader.records.extract l.opened),
        by simp only [p, hClose, Progress.noteError?, Array.append_empty, Array.append_assoc]⟩
  · have hs : b.summarize
        { crew with shared := ({ crew.shared with reader := r } : Shared (CoolingReader σ)).report e } = s := by
      simp only [s, p, hClose]
      rfl
    simp only [land, hClose, hs]
    cases parts.complete s crew.procState <;>
      exact ⟨rfl, rfl, rfl, rfl, l.log ++ b.tag crew.shared.log ++
          b.tag (r.reader.records.extract l.opened) ++
          b.tag #[⟨.error, "failed to close reader", [("error", Utf8.lossy e.message)]⟩],
        by simp only [p, hClose, Progress.noteError?, Shared.report, Array.append_empty,
          Array.append_assoc]⟩


------------------------------------------------------------
-- The Whole Run
------------------------------------------------------------

/-
  A launched run starts with its accounts right when its progress
  counts its errors right, as its fresh workers have counted no line.
-/
theorem launch_accounts
    {b : Batch}
    {parts : Parts σ π}
    {l : Launch σ π}
    (h : b.launch parts = .ok l)
    (hSound : l.crew.shared.progress.Sound) :
    Crew.Accounts l.crew.shared.progress.lines l.crew := by
  refine ⟨hSound, ?_⟩
  have hFresh := (launch_fresh h).2
  suffices hZero : (l.crew.workers.toList.map Worker.lines).sum = 0 by omega
  apply List.sum_eq_zero_iff_forall_eq_nat.2
  intro n hn
  obtain ⟨w, hw, rfl⟩ := List.mem_map.1 hn
  exact (hFresh w (Array.mem_toList_iff.1 hw)).2.2

section Run

variable (b : Batch) (parts : Parts σ π) (drive : Crew (CoolingReader σ) π → Crew (CoolingReader σ) π)

/-
  The reader a run hands back: none when the first hook or the reader
  part failed, and otherwise closed, as the workers left it or, when the
  run stopped while set up, as the state part left it.
-/
theorem runBy_reader :
    ((b.runBy parts drive).reader = none ↔
        (∃ f, parts.init = .error f) ∨ (∃ f, parts.reader = .error f)) ∧
      (∀ cr, (b.runBy parts drive).reader = some cr → cr.reader.closed = true) ∧
      (∀ l, b.launch parts = .ok l →
        (b.runBy parts drive).reader = some (drive l.crew).shared.reader.close.2) ∧
      (∀ initLog r₀ res, parts.init = .ok initLog → parts.reader = .ok r₀ →
        b.launch parts = .error res →
        (b.runBy parts drive).reader = some (parts.state r₀).2.close.2) := by
  rcases hLaunch : b.launch parts with res | l
  · have hRun := runBy_of_launch_error hLaunch drive
    obtain ⟨-, -, hNone, hBuilt⟩ := launch_error_reader hLaunch
    refine ⟨?_, ?_, ?_, ?_⟩
    · rw [hRun]
      exact hNone
    · intro cr hcr
      rw [hRun] at hcr
      rcases hInit : parts.init with f | initLog
      · rw [hNone.2 (.inl ⟨f, hInit⟩)] at hcr
        cases hcr
      rcases hReader : parts.reader with f | r₀
      · rw [hNone.2 (.inr ⟨f, hReader⟩)] at hcr
        cases hcr
      rw [hBuilt initLog r₀ hInit hReader, Option.some.injEq] at hcr
      rw [← hcr]
      exact CoolingReader.closed_after_close _
    · intro l h
      cases h
    · intro initLog r₀ _ hInit hReader _
      rw [hRun]
      exact hBuilt initLog r₀ hInit hReader
  · have hReader : (b.runBy parts drive).reader = some (drive l.crew).shared.reader.close.2 := by
      rw [runBy_of_launch hLaunch]
      exact (land_spec b parts l (drive l.crew)).2.2.1
    have hBuilt : ¬ ((∃ f, parts.init = .error f) ∨ (∃ f, parts.reader = .error f)) := by
      intro hFails
      obtain ⟨res, hRes⟩ := (launch_error_iff b parts).2 (hFails.elim .inl (.inr ∘ .inl))
      rw [hLaunch] at hRes
      cases hRes
    refine ⟨by simp [hReader, hBuilt], ?_, ?_, fun _ _ _ _ _ h => by cases h⟩
    · intro cr hcr
      rw [hReader, Option.some.injEq] at hcr
      rw [← hcr]
      exact CoolingReader.closed_after_close _
    · intro l' hl'
      cases hl'
      exact hReader

/-
  The last hook: a run that stops while set up never looks at it; a run
  that landed calls it on the summary of the progress the closed reader
  left and on the processors' state, after the final status is logged,
  and its outcome is the run's.
-/
theorem runBy_complete :
    (∀ res, b.launch parts = .error res →
      ∀ c', b.runBy { parts with complete := c' } drive = b.runBy parts drive) ∧
    ∀ l, b.launch parts = .ok l →
      let crew := drive l.crew
      let p := crew.shared.progress.noteError? crew.shared.reader.close.1
      let s := b.summarize { crew with shared := { crew.shared with progress := p } }
      (b.runBy parts drive).summary = some s ∧
        (b.runBy parts drive).procState = crew.procState ∧
        (b.runBy parts drive).failure =
          (match parts.complete s crew.procState with
            | .error f => some (f.under "batch: complete")
            | .ok _ => none) ∧
        ∃ pre, (b.runBy parts drive).log = pre ++ b.tag #[p.finalStatus] ++
          (match parts.complete s crew.procState with
            | .error _ => #[]
            | .ok doneLog => b.tag doneLog.toArray ++
                b.tag #[⟨.info, "batch finished", [("failed", toString s.failed)]⟩]) := by
  refine ⟨fun res h c' => by simp only [runBy, launch_complete, h], fun l h => ?_⟩
  obtain ⟨hSummary, hProc, -, hFailure, hLog⟩ := land_spec b parts l (drive l.crew)
  rw [runBy_of_launch h]
  exact ⟨hSummary, hProc, hFailure, hLog⟩

/-
  A run has no summary just when it failed while set up, and it fails
  just when it failed while set up or its last hook failed on the
  summary.
-/
theorem runBy_outcome :
    ((b.runBy parts drive).summary = none ↔ b.SetupFails parts) ∧
      ((b.runBy parts drive).failure.isSome = true ↔ b.SetupFails parts ∨
        ∃ s f, (b.runBy parts drive).summary = some s ∧
          parts.complete s (b.runBy parts drive).procState = .error f) := by
  rw [← launch_error_iff]
  rcases hLaunch : b.launch parts with res | l
  · have hRun := runBy_of_launch_error hLaunch drive
    obtain ⟨hNone, hFailed, -⟩ := launch_error_reader hLaunch
    simp [hRun, hNone, hFailed]
  · obtain ⟨hSummary, hProc, -, hFailure, -⟩ := land_spec b parts l (drive l.crew)
    rw [runBy_of_launch hLaunch, hSummary, hProc, hFailure]
    split <;> simp_all

/-
  The summary of a landed run adds up the lines of its workers, keeps
  the errors of the workers and then that of closing the reader, and
  fails just when some worker failed. When the workers ran events and
  the progress started with its counts right, the progress counted the
  same lines as the workers, and the summary's counts are those of its
  errors: the accounts hold from the launch through every event.
-/
theorem runBy_summary
    {l : Launch σ π}
    (hLaunch : b.launch parts = .ok l) :
    let crew := drive l.crew
    ∃ s, (b.runBy parts drive).summary = some s ∧
      s.lines = (s.workers.map (·.lines)).sum ∧
      s.errors.toList = crew.shared.progress.errors.toList ++ crew.shared.reader.close.1.toList ∧
      (s.failed = true ↔ ∃ w ∈ crew.workers, w.status = .failed) ∧
      ((∀ c, ∃ evs, drive c = c.runEvents evs) → l.crew.shared.progress.Sound →
        crew.shared.progress.lines = l.crew.shared.progress.lines + s.lines ∧
        s.recoverable + s.fatal = s.errors.size ∧
        s.fatal = s.errors.toList.countP (·.isFatal)) := by
  intro crew
  obtain ⟨hSummary, -⟩ := land_spec b parts l crew
  rw [runBy_of_launch hLaunch]
  refine ⟨_, hSummary, ?_, ?_, ?_, fun hDrive hSound => ?_⟩
  · rw [summarize_lines]
    simp [summarize, Function.comp_def]
  · cases crew.shared.reader.close.1 <;>
      simp [summarize, Progress.noteError?, Worker.noteError_errors]
  · simp only [Summary.failed, summarize, List.any_map, List.any_eq_true, Function.comp_apply,
      beq_iff_eq, Array.mem_toList_iff]
  · obtain ⟨evs, hEvs⟩ := hDrive l.crew
    have hEnd : Crew.Accounts l.crew.shared.progress.lines crew := by
      rw [show crew = l.crew.runEvents evs from hEvs]
      exact (launch_accounts hLaunch hSound).run evs
    have hClosed := hEnd.sound.noteError? crew.shared.reader.close.1
    refine ⟨?_, hClosed.total, hClosed.2⟩
    rw [hEnd.lines, summarize_lines]

end Run

/-
  A run, whatever its parts give and however its workers are driven.

  The reader is handed back just when it was built, and then closed:
  as the workers left it, or as the state part left it when the run
  stopped while set up. A run that stopped while set up never looks at
  the last hook; a run that landed calls it on the summary made once
  the reader was closed and the final status logged, and its outcome
  is the run's. A run has no summary just when it failed while set up,
  and fails just when that happened or the last hook failed.

  The summary adds up the lines of its workers, keeps the error of
  closing the reader after those of the workers, and fails just when a
  worker failed. For workers run by events, from progress that started
  with its counts right, its lines are those the progress counted and
  its counts are those of its errors.
-/
theorem run_closes_reader_and_sums_up
    (b : Batch)
    (parts : Parts σ π)
    (drive : Crew (CoolingReader σ) π → Crew (CoolingReader σ) π) :
    let res := b.runBy parts drive
    ((res.reader = none ↔ (∃ f, parts.init = .error f) ∨ (∃ f, parts.reader = .error f)) ∧
      (∀ cr, res.reader = some cr → cr.reader.closed = true) ∧
      (∀ l, b.launch parts = .ok l → res.reader = some (drive l.crew).shared.reader.close.2) ∧
      (∀ initLog r₀ e, parts.init = .ok initLog → parts.reader = .ok r₀ →
        b.launch parts = .error e → res.reader = some (parts.state r₀).2.close.2)) ∧
    ((∀ e, b.launch parts = .error e → ∀ c', b.runBy { parts with complete := c' } drive = res) ∧
      ∀ l, b.launch parts = .ok l →
        let crew := drive l.crew
        let p := crew.shared.progress.noteError? crew.shared.reader.close.1
        let s := b.summarize { crew with shared := { crew.shared with progress := p } }
        res.summary = some s ∧ res.procState = crew.procState ∧
          res.failure =
            (match parts.complete s crew.procState with
              | .error f => some (f.under "batch: complete")
              | .ok _ => none) ∧
          ∃ pre, res.log = pre ++ b.tag #[p.finalStatus] ++
            (match parts.complete s crew.procState with
              | .error _ => #[]
              | .ok doneLog => b.tag doneLog.toArray ++
                  b.tag #[⟨.info, "batch finished", [("failed", toString s.failed)]⟩])) ∧
    ((res.summary = none ↔ b.SetupFails parts) ∧
      (res.failure.isSome = true ↔ b.SetupFails parts ∨
        ∃ s f, res.summary = some s ∧ parts.complete s res.procState = .error f)) ∧
    ∀ l, b.launch parts = .ok l →
      let crew := drive l.crew
      ∃ s, res.summary = some s ∧
        s.lines = (s.workers.map (·.lines)).sum ∧
        s.errors.toList = crew.shared.progress.errors.toList ++ crew.shared.reader.close.1.toList ∧
        (s.failed = true ↔ ∃ w ∈ crew.workers, w.status = .failed) ∧
        ((∀ c, ∃ evs, drive c = c.runEvents evs) → l.crew.shared.progress.Sound →
          crew.shared.progress.lines = l.crew.shared.progress.lines + s.lines ∧
          s.recoverable + s.fatal = s.errors.size ∧
          s.fatal = s.errors.toList.countP (·.isFatal)) :=
  ⟨runBy_reader b parts drive, runBy_complete b parts drive, runBy_outcome b parts drive,
    fun _ hLaunch => runBy_summary b parts drive hLaunch⟩

/-
  One worker runs over the two lines of an input, with a processor that
  takes every line, in a run that is not cancelled: the reader comes
  back closed, the run does not fail, and its summary counts two lines
  and as many errors as it counts.
-/
theorem run_closes_reader_and_sums_up_on_two_lines :
    ∃ r src', Reader.open
        (BlobSource.make (Bucket.empty.put "input.txt" [97, 10, 98, 10]) "input.txt")
        {} = (.ok r, src') ∧
      let p : Processor Unit := ⟨fun _ s => (.ok, s), fun s => (.ok, s), fun s => (.ok, s), none⟩
      let parts : Parts BlobSource Unit :=
        { init := .ok [], reader := .ok (CoolingReader.make r 0 false []),
          state := fun cr => ((Progress.make 2 .lines Charset.utf8).map (·, []), cr),
          worker := fun _ => .ok 0, processors := #[p], procState := (),
          complete := fun _ _ => .ok [] }
      let b : Batch := ⟨1, 0, "run"⟩
      let res := b.run parts false
      (∃ cr, res.reader = some cr ∧ cr.reader.closed = true) ∧ res.failure = none ∧
        ∃ s, res.summary = some s ∧ s.lines = 2 ∧ s.recoverable + s.fatal = s.errors.size := by
  refine ⟨_, _, rfl, ?_⟩
  intro p parts b res
  have hLaunch : ((b.launch parts).toOption.any fun l =>
      l.crew.shared.progress.recoverable == 0 && l.crew.shared.progress.fatal == 0 &&
        l.crew.shared.progress.errors.size == 0) = true := by
    decide +kernel
  obtain ⟨l, hLaunch, hFresh⟩ := Except.exists_ok_of_any hLaunch
  have hSound : l.crew.shared.progress.Sound := by
    simp only [Bool.and_eq_true, beq_iff_eq] at hFresh
    obtain ⟨⟨hRec, hFatal⟩, hErrors⟩ := hFresh
    have hNone : l.crew.shared.progress.errors.toList = [] := by simpa using hErrors
    exact ⟨by simp [hRec, hNone], by simp [hFatal, hNone]⟩
  obtain ⟨⟨-, hClosed, hReader, -⟩, ⟨-, hLanded⟩, -, hSummary⟩ :=
    run_closes_reader_and_sums_up b parts (Crew.turns false)
  obtain ⟨s, hs, -, -, -, hAccounts⟩ := hSummary l hLaunch
  obtain ⟨-, -, hFailure, -⟩ := hLanded l hLaunch
  have hLines : res.summary.map (·.lines) = some 2 := by decide +kernel
  rw [show res.summary = some s from hs, Option.map_some, Option.some.injEq] at hLines
  exact ⟨⟨_, hReader l hLaunch, hClosed _ (hReader l hLaunch)⟩, hFailure, s, hs, hLines,
    (hAccounts (Crew.turns_runEvents false) hSound).2.1⟩

end Batch

end LineBatch
