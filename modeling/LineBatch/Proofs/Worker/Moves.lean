import LineBatch.Worker.Loop

/-
  What one step of a worker can do.

  A step of a worker is one action on what the workers share. Apart
  from a claim, which reads a section, a step leaves the reader alone;
  no step touches whether the run is cancelled, the total or the way
  lines are counted, and the errors of the progress only grow. A step
  that fails on an error stops the worker if the error is fatal, sends
  it to read the batch's count if the error is recoverable under a
  skip limit, and otherwise lets it go on (`Worker.FailsTo`).

  `Worker.Moves` lists the steps a worker can take, one case for each
  branch of `Worker.step`, and `Worker.step_moves` shows that every
  step is one of them. Invariants of workers are then proved by cases
  on `Worker.Moves`, without opening `Worker.step` again.

  Main declarations:
    * `Shared.Steady`, `Worker.Reported`, `Worker.FailsTo`
    * `Worker.Moves`, `Worker.step_moves`
-/

------------------------------------------------------------
-- Reports
------------------------------------------------------------

namespace LineBatch

namespace Shared

variable {ρ : Type}

/-
  What the workers share moves steadily: the run stays cancelled or
  not, the progress keeps its total, its policy, its processed units
  and the lines it counted, and its errors only grow.
-/
structure Steady
    (sh sh' : Shared ρ) : Prop where
  cancelled : sh'.cancelled = sh.cancelled
  processed : sh'.progress.processed = sh.progress.processed
  total : sh'.progress.total = sh.progress.total
  policy : sh'.progress.policy = sh.progress.policy
  charset : sh'.progress.charset = sh.progress.charset
  errors : sh.progress.errors.size ≤ sh'.progress.errors.size
  lines : sh'.progress.lines = sh.progress.lines

theorem Steady.rfl' (sh : Shared ρ) : Steady sh sh := ⟨rfl, rfl, rfl, rfl, rfl, Nat.le_refl _, rfl⟩

theorem Steady.trans
    {sh sh' sh'' : Shared ρ}
    (h : Steady sh sh')
    (h' : Steady sh' sh'') :
    Steady sh sh'' :=
  ⟨h'.cancelled.trans h.cancelled, h'.processed.trans h.processed, h'.total.trans h.total,
    h'.policy.trans h.policy, h'.charset.trans h.charset, Nat.le_trans h.errors h'.errors,
    h'.lines.trans h.lines⟩

theorem steady_write (sh : Shared ρ) (r : Record) : Steady sh (sh.write r) :=
  ⟨rfl, rfl, rfl, rfl, rfl, Nat.le_refl _, rfl⟩

theorem write_reader (sh : Shared ρ) (r : Record) : (sh.write r).reader = sh.reader := rfl

/- Reporting an error keeps it, after those reported before. -/
theorem steady_report (sh : Shared ρ) (e : Error) :
    Steady sh (sh.report e) ∧
      sh.progress.errors.size < (sh.report e).progress.errors.size := by
  unfold report Progress.noteError
  split <;> exact ⟨⟨rfl, rfl, rfl, rfl, rfl, by simp, rfl⟩, by simp⟩

theorem report_reader (sh : Shared ρ) (e : Error) : (sh.report e).reader = sh.reader := rfl

/- Hearing cooldown notices changes only the notices, the log and the cooling flag. -/
theorem hear_spec (sh : Shared ρ) (ns : List Notice) :
    (sh.hear ns).reader = sh.reader ∧ Steady sh (sh.hear ns) ∧
      (sh.hear ns).progress.errors = sh.progress.errors := by
  induction ns generalizing sh with
  | nil => exact ⟨rfl, Steady.rfl' sh, rfl⟩
  | cons n ns ih =>
    obtain ⟨hReader, hSteady, hErrors⟩ := ih
      { sh with
        heard := sh.heard.push n
        progress := if n.listener = 0 then sh.progress.hearCooldown n.active else sh.progress
        log := if n.listener = 0 && n.active then
            sh.log.push ⟨.info, "input reader cooldown", []⟩
          else sh.log }
    have hFirst : Steady sh
        { sh with
          heard := sh.heard.push n
          progress := if n.listener = 0 then sh.progress.hearCooldown n.active else sh.progress
          log := if n.listener = 0 && n.active then
              sh.log.push ⟨.info, "input reader cooldown", []⟩
            else sh.log } := by
      constructor <;> split <;> simp [Progress.hearCooldown]
    refine ⟨hReader, hFirst.trans hSteady, ?_⟩
    rw [hear, List.foldl_cons, ← hear, hErrors]
    split <;> rfl

end Shared

namespace Worker

variable {ρ π : Type}

/- A worker after reporting an error: as it was, or stopped as failed. -/
def Reported (w w' : Worker) : Prop :=
  w' = w ∨ (w.status = .running ∧ w' = { w with status := .failed })

theorem Reported.phase {w w' : Worker} (h : Reported w w') : w'.phase = w.phase := by
  rcases h with rfl | ⟨-, rfl⟩ <;> rfl

theorem Reported.lines {w w' : Worker} (h : Reported w w') : w'.lines = w.lines := by
  rcases h with rfl | ⟨-, rfl⟩ <;> rfl

/- A reported error never lets a stopped worker run again, nor stops it normally. -/
theorem Reported.status {w w' : Worker} (h : Reported w w') :
    w'.status = w.status ∨ w'.status = .failed := by
  rcases h with rfl | ⟨-, rfl⟩
  · exact .inl rfl
  · exact .inr rfl

theorem stop_reported (w : Worker) : Reported w w.stop := by
  unfold stop
  split
  · rename_i hRun
    exact .inr ⟨hRun, rfl⟩
  · exact .inl rfl

end Worker

namespace Resume

/- The phase a worker still running goes on to. -/
def onward : Resume → Phase
  | .claim => .claim
  | .finish => .finish
  | .refusals es sec => .refusals es sec
  | .filter last => .lines [] last
  | .lines ls last => .lines ls last
  | .complete _ => .claim

/- The phase a worker that no longer runs goes to. -/
def halted : Resume → Phase
  | .finish => .finish
  | .lines _ last => .complete last
  | _ => .claim

/- Whether going on ends the last section. -/
def endsLast : Resume → Bool
  | .complete last => last
  | _ => false

end Resume

namespace Worker

variable {ρ π : Type}

/-
  Going on by `k`: a running worker goes on to the phase `k` names,
  stopping normally if that ends the last section; a worker that no
  longer runs leaves the section.
-/
theorem resume_cases (w : Worker) (k : Resume) :
    (w.status = .running ∧ w.resume k =
        { w with status := if k.endsLast then .stopped else w.status, phase := k.onward }) ∨
      (w.status ≠ .running ∧ w.resume k = { w with phase := k.halted }) := by
  by_cases hRun : w.status = .running
  · refine .inl ⟨hRun, ?_⟩
    rcases k with _ | _ | _ | _ | _ | ⟨_ | _⟩ <;>
      simp [resume, goOn, hRun, Resume.onward, Resume.endsLast]
  · refine .inr ⟨hRun, ?_⟩
    cases k <;> simp [resume, goOn, hRun, Resume.halted]

theorem resume_phase (w : Worker) (k : Resume) :
    (w.resume k).phase = k.onward ∨ (w.resume k).phase = k.halted := by
  rcases resume_cases w k with ⟨-, h⟩ | ⟨-, h⟩ <;> rw [h]
  · exact .inl rfl
  · exact .inr rfl

/- A worker that an error stops goes on by where `k` halts. -/
theorem stop_resume_phase (w : Worker) (k : Resume) : (w.stop.resume k).phase = k.halted := by
  rcases resume_cases w.stop k with ⟨hRun, -⟩ | ⟨-, hGo⟩
  · exact absurd hRun (stop_status w)
  · rw [hGo]

/- A running worker goes on where `k` leads onward. -/
theorem resume_phase_of_running {w : Worker} (k : Resume) (hRun : w.status = .running) :
    (w.resume k).phase = k.onward := by
  rcases resume_cases w k with ⟨-, hGo⟩ | ⟨hStop, -⟩
  · rw [hGo]
  · exact absurd hRun hStop

@[simp] theorem resume_lines (w : Worker) (k : Resume) : (w.resume k).lines = w.lines := by
  rcases resume_cases w k with ⟨-, h⟩ | ⟨-, h⟩ <;> rw [h]

@[simp] theorem resume_skipLimit (w : Worker) (k : Resume) :
    (w.resume k).skipLimit = w.skipLimit := by
  rcases resume_cases w k with ⟨-, h⟩ | ⟨-, h⟩ <;> rw [h]

@[simp] theorem stop_phase (w : Worker) : w.stop.phase = w.phase := by
  unfold stop
  split <;> rfl

@[simp] theorem stop_lines (w : Worker) : w.stop.lines = w.lines := by
  unfold stop
  split <;> rfl

@[simp] theorem stop_skipLimit (w : Worker) : w.stop.skipLimit = w.skipLimit := by
  unfold stop
  split <;> rfl

theorem halt_spec (w : Worker) (e : Error) (sh : Shared ρ) :
    (w.halt e sh).1 = w.stop ∧ (w.halt e sh).2.reader = sh.reader ∧
      Shared.Steady sh (w.halt e sh).2 ∧
      (w.halt e sh).2.progress.errors = sh.progress.errors := by
  unfold halt
  split
  · exact ⟨rfl, rfl, sh.steady_write _, rfl⟩
  · rename_i hRun
    exact ⟨by simp [stop, hRun], rfl, Shared.Steady.rfl' sh, rfl⟩

theorem report_spec (w : Worker) (e : Error) (sh : Shared ρ) :
    (w.report e sh).reader = sh.reader ∧ Shared.Steady sh (w.report e sh) ∧
      sh.progress.errors.size < (w.report e sh).progress.errors.size :=
  ⟨rfl, (sh.steady_report e).1.trans ((sh.report e).steady_write _), (sh.steady_report e).2⟩

/-
  Where failing on `e` leaves a worker that goes on by `k`: a fatal
  error stops it, a recoverable one under a skip limit sends it to
  read the batch's count, and any other lets it go on.
-/
inductive FailsTo (w : Worker) (e : Error) (k : Resume) : Worker → Prop
  | stops (hFatal : e.isFatal = true) : FailsTo w e k (w.stop.resume k)
  | checks (hFatal : e.isFatal = false) (hLimit : 0 < w.skipLimit) :
      FailsTo w e k { w with phase := .checking k }
  | goesOn (hFatal : e.isFatal = false) (hLimit : w.skipLimit ≤ 0) : FailsTo w e k (w.resume k)

/- A failed worker goes on by `k`, as it was or stopped, or is about to read the count. -/
theorem FailsTo.cases {w w' : Worker} {e : Error} {k : Resume} (h : FailsTo w e k w') :
    (∃ w₁, Reported w w₁ ∧ w' = w₁.resume k) ∨ w' = { w with phase := .checking k } := by
  cases h with
  | stops => exact .inl ⟨w.stop, w.stop_reported, rfl⟩
  | checks => exact .inr rfl
  | goesOn => exact .inl ⟨w, .inl rfl, rfl⟩

/- A failed worker goes on to the phase `k` names, leaves the section, or reads the count. -/
theorem FailsTo.phase {w w' : Worker} {e : Error} {k : Resume} (h : FailsTo w e k w') :
    w'.phase = k.onward ∨ w'.phase = k.halted ∨ w'.phase = .checking k := by
  rcases h.cases with ⟨w₁, -, rfl⟩ | rfl
  · rcases resume_phase w₁ k with h | h
    · exact .inl h
    · exact .inr (.inl h)
  · exact .inr (.inr rfl)

theorem FailsTo.lines {w w' : Worker} {e : Error} {k : Resume} (h : FailsTo w e k w') :
    w'.lines = w.lines := by
  cases h <;> simp

theorem FailsTo.skipLimit {w w' : Worker} {e : Error} {k : Resume} (h : FailsTo w e k w') :
    w'.skipLimit = w.skipLimit := by
  cases h <;> simp

/-
  Failing on an error reports it, and goes on as the error's severity
  and the skip limit say.
-/
theorem fail_spec (e : Error) (k : Resume) (w : Worker) (sh : Shared ρ) :
    FailsTo w e k (fail e k w sh).1 ∧ (fail e k w sh).2.reader = sh.reader ∧
      Shared.Steady sh (fail e k w sh).2 ∧
      sh.progress.errors.size < (fail e k w sh).2.progress.errors.size := by
  obtain ⟨hReader, hSteady, hGrow⟩ := w.report_spec e sh
  unfold fail
  dsimp only
  split
  · rename_i hFatal
    obtain ⟨hW, hReader', hSteady', hErrors⟩ := w.halt_spec e (w.report e sh)
    rw [hW]
    exact ⟨.stops hFatal, hReader'.trans hReader, hSteady.trans hSteady', by rw [hErrors]; exact hGrow⟩
  · rename_i hFatal
    have hRec : e.isFatal = false := by simpa using hFatal
    split
    · rename_i hLimit
      exact ⟨.checks hRec hLimit, hReader, hSteady, hGrow⟩
    · rename_i hLimit
      exact ⟨.goesOn hRec (by omega), hReader, hSteady, hGrow⟩

/- Going on after a report: the next phase while running, the claim otherwise. -/
theorem goOn_cases (w : Worker) (next : Phase) :
    (w.status = .running ∧ w.goOn next = { w with phase := next }) ∨
      (w.status ≠ .running ∧ w.goOn next = { w with phase := .claim }) := by
  unfold goOn
  split
  · rename_i h
    exact .inl ⟨h, rfl⟩
  · rename_i h
    exact .inr ⟨h, rfl⟩

------------------------------------------------------------
-- Steps
------------------------------------------------------------

/-
  The steps a worker can take, one for each branch of `Worker.step`:
  the worker, its processor's state and what the workers share, before
  and after the step.
-/
inductive Moves [SectionReader ρ] (p : Processor π) (w : Worker) (s : π) (sh : Shared ρ) :
    Worker → π → Shared ρ → Prop
  /- A worker that no longer runs leaves its loop. -/
  | leave
      (hPhase : w.phase = .claim)
      (hStatus : w.status ≠ .running) :
      Moves p w s sh { w with phase := .finish } s sh
  /- A running worker of a cancelled run reports it and leaves its loop. -/
  | cancel
      {w' : Worker} {sh' : Shared ρ}
      (hPhase : w.phase = .claim)
      (hStatus : w.status = .running)
      (hCancelled : sh.cancelled = true)
      (hW : FailsTo w (Error.cancelled (.condition .cancelled)) .finish w')
      (hReader : sh'.reader = sh.reader)
      (hSteady : Shared.Steady sh sh') :
      Moves p w s sh w' s sh'
  /- A claim fails, and the worker fails on why. -/
  | claimFails
      {w' : Worker} {sh' : Shared ρ} {e : Error}
      (hPhase : w.phase = .claim)
      (hStatus : w.status = .running)
      (hCancelled : sh.cancelled = false)
      (hRead : (SectionReader.readSection sh.reader).1 = .error e)
      (hW : FailsTo w e .claim w')
      (hReader : sh'.reader = (SectionReader.readSection sh.reader).2.2)
      (hSteady : Shared.Steady sh sh') :
      Moves p w s sh w' s sh'
  /- A claim hands out a section; its refused lines are reported next. -/
  | claim
      {sh' : Shared ρ} {sec : Section}
      (hPhase : w.phase = .claim)
      (hStatus : w.status = .running)
      (hCancelled : sh.cancelled = false)
      (hRead : (SectionReader.readSection sh.reader).1 = .ok sec)
      (hReader : sh'.reader = (SectionReader.readSection sh.reader).2.2)
      (hSteady : Shared.Steady sh sh') :
      Moves p w s sh
        { w with sections := w.sections + 1, phase := .refusals sec.rejected.toList sec } s sh'
  /- Every refused line is reported: the section goes to the filter. -/
  | refused
      {sec : Section}
      (hPhase : w.phase = .refusals [] sec) :
      Moves p w s sh { w with phase := .filter sec } s sh
  /- A refused line is reported. -/
  | refuse
      {w' : Worker} {sh' : Shared ρ} {e : Error} {es : List Error} {sec : Section}
      (hPhase : w.phase = .refusals (e :: es) sec)
      (hW : FailsTo w e (.refusals es sec) w')
      (hReader : sh'.reader = sh.reader)
      (hSteady : Shared.Steady sh sh')
      (hGrow : sh.progress.errors.size < sh'.progress.errors.size) :
      Moves p w s sh w' s sh'
  /- Without a filter, every line of the section is to be processed. -/
  | unfiltered
      {sec : Section}
      (hPhase : w.phase = .filter sec)
      (hFilter : p.filter = none) :
      Moves p w s sh { w with phase := .lines sec.lines.toList sec.last } s sh
  /- The filter chooses the lines to process. -/
  | filtered
      {f : List Line → π → (List Line × Outcome) × π} {kept : List Line} {out : Outcome}
      {s' : π} {sec : Section}
      (hPhase : w.phase = .filter sec)
      (hFilter : p.filter = some f)
      (hRun : f sec.lines.toList s = ((kept, out), s'))
      (hOut : out.error? "PreProcess" = none) :
      Moves p w s sh { w with phase := .lines kept sec.last } s' sh
  /- The filter fails: no line of the section is processed. -/
  | filterFails
      {f : List Line → π → (List Line × Outcome) × π} {kept : List Line} {out : Outcome}
      {s' : π} {sec : Section} {e : Error} {w' : Worker} {sh' : Shared ρ}
      (hPhase : w.phase = .filter sec)
      (hFilter : p.filter = some f)
      (hRun : f sec.lines.toList s = ((kept, out), s'))
      (hOut : out.error? "PreProcess" = some e)
      (hW : FailsTo w e (.filter sec.last) w')
      (hReader : sh'.reader = sh.reader)
      (hSteady : Shared.Steady sh sh')
      (hGrow : sh.progress.errors.size < sh'.progress.errors.size) :
      Moves p w s sh w' s' sh'
  /- No line is left: the section is to be completed. -/
  | processed
      {last : Bool}
      (hPhase : w.phase = .lines [] last) :
      Moves p w s sh { w with phase := .complete last } s sh
  /- The processor takes a line, and the progress counts it. -/
  | process
      {l : Line} {ls : List Line} {last : Bool} {out : Outcome} {s' : π}
      (hPhase : w.phase = .lines (l :: ls) last)
      (hRun : p.processLine l s = (out, s'))
      (hOut : out.error? "ProcessLine" = none) :
      Moves p w s sh { w with lines := w.lines + 1, phase := .lines ls last } s'
        { sh with progress := sh.progress.noteLine l }
  /- The processor fails on a line. -/
  | lineFails
      {l : Line} {ls : List Line} {last : Bool} {out : Outcome} {s' : π} {e : Error}
      {w' : Worker} {sh' : Shared ρ}
      (hPhase : w.phase = .lines (l :: ls) last)
      (hRun : p.processLine l s = (out, s'))
      (hOut : out.error? "ProcessLine" = some e)
      (hW : FailsTo w e (.lines ls last) w')
      (hReader : sh'.reader = sh.reader)
      (hSteady : Shared.Steady sh sh')
      (hGrow : sh.progress.errors.size < sh'.progress.errors.size) :
      Moves p w s sh w' s' sh'
  /-
    The section is completed; a worker still running that completed the
    last section stops normally.
  -/
  | complete
      {last : Bool} {out : Outcome} {s' : π}
      (hPhase : w.phase = .complete last)
      (hRun : p.sectionComplete s = (out, s'))
      (hOut : out.error? "SectionComplete" = none) :
      Moves p w s sh (w.resume (.complete last)) s' sh
  /- The section hook fails. -/
  | completeFails
      {last : Bool} {out : Outcome} {s' : π} {e : Error} {w' : Worker} {sh' : Shared ρ}
      (hPhase : w.phase = .complete last)
      (hRun : p.sectionComplete s = (out, s'))
      (hOut : out.error? "SectionComplete" = some e)
      (hW : FailsTo w e (.complete last) w')
      (hReader : sh'.reader = sh.reader)
      (hSteady : Shared.Steady sh sh')
      (hGrow : sh.progress.errors.size < sh'.progress.errors.size) :
      Moves p w s sh w' s' sh'
  /- The loop is over; the job hook runs if the worker stopped normally. -/
  | finish
      {s' : π} {sh' : Shared ρ}
      (hPhase : w.phase = .finish)
      (hJob : s' = if w.status = .stopped then (p.jobComplete s).2 else s)
      (hReader : sh'.reader = sh.reader)
      (hSteady : Shared.Steady sh sh') :
      Moves p w s sh { w with phase := .done } s' sh'
  /- A worker that is done stays as it is. -/
  | done
      (hPhase : w.phase = .done) :
      Moves p w s sh w s sh
  /- The batch's count is within the skip limit: the worker goes on. -/
  | checkUnder
      {k : Resume}
      (hPhase : w.phase = .checking k)
      (hOver : w.overLimit sh.progress = false) :
      Moves p w s sh (w.resume k) s sh
  /- The batch's count is over the skip limit: the worker is to report that. -/
  | checkOver
      {k : Resume}
      (hPhase : w.phase = .checking k)
      (hOver : w.overLimit sh.progress = true) :
      Moves p w s sh { w with phase := .exceeding k } s sh
  /- The skip-limit error is reported and stops the worker, which goes on. -/
  | exceed
      {k : Resume} {sh' : Shared ρ}
      (hPhase : w.phase = .exceeding k)
      (hReader : sh'.reader = sh.reader)
      (hSteady : Shared.Steady sh sh')
      (hGrow : sh.progress.errors.size < sh'.progress.errors.size) :
      Moves p w s sh (w.stop.resume k) s sh'

variable [SectionReader ρ]

/- A claim: leave, report the cancelled run, or read a section. -/
theorem step_moves_claim
    (p : Processor π)
    (w : Worker)
    (s : π)
    (sh : Shared ρ)
    (hPhase : w.phase = .claim) :
    Moves p w s sh (w.step p s sh).1 (w.step p s sh).2.1 (w.step p s sh).2.2 := by
  by_cases hStatus : w.status = .running
  · cases hCancelled : sh.cancelled
    · rcases hRead : SectionReader.readSection sh.reader with ⟨res, ns, cr⟩
      obtain ⟨hHeard, hSteady, -⟩ := Shared.hear_spec { sh with reader := cr } ns
      have hSteady₀ : Shared.Steady sh { sh with reader := cr } :=
        ⟨rfl, rfl, rfl, rfl, rfl, Nat.le_refl _, rfl⟩
      have hGo : ¬ (w.status ≠ .running) := fun h => h hStatus
      simp only [step, hPhase]
      rw [if_neg hGo, if_neg (by simp [hCancelled]), hRead]
      cases res with
      | error e =>
        obtain ⟨hW, hReader', hSteady', -⟩ := fail_spec e .claim w ({ sh with reader := cr }.hear ns)
        exact .claimFails hPhase hStatus hCancelled (by rw [hRead]) hW
          (by rw [hReader', hHeard, hRead]) (hSteady₀.trans (hSteady.trans hSteady'))
      | ok sec =>
        exact .claim hPhase hStatus hCancelled (by rw [hRead]) (by rw [hHeard, hRead])
          (hSteady₀.trans hSteady)
    · obtain ⟨hW, hReader, hSteady, -⟩ :=
        fail_spec (Error.cancelled (.condition .cancelled)) .finish w sh
      simp only [step, hPhase, hStatus, hCancelled, ne_eq, not_true_eq_false, if_false, if_true]
      exact .cancel hPhase hStatus hCancelled hW hReader hSteady
  · simp only [step, hPhase, hStatus, ne_eq, not_false_eq_true, if_true]
    exact .leave hPhase hStatus

/- The skip-limit check: go on within the limit, or be about to report that it is over. -/
theorem step_moves_check
    (p : Processor π)
    (w : Worker)
    (s : π)
    (sh : Shared ρ)
    {k : Resume}
    (hPhase : w.phase = .checking k) :
    Moves p w s sh (w.step p s sh).1 (w.step p s sh).2.1 (w.step p s sh).2.2 := by
  simp only [step, hPhase]
  cases hOver : w.overLimit sh.progress
  · exact .checkUnder hPhase hOver
  · exact .checkOver hPhase hOver

/- The report of the skip-limit error stops the worker. -/
theorem step_moves_exceed
    (p : Processor π)
    (w : Worker)
    (s : π)
    (sh : Shared ρ)
    {k : Resume}
    (hPhase : w.phase = .exceeding k) :
    Moves p w s sh (w.step p s sh).1 (w.step p s sh).2.1 (w.step p s sh).2.2 := by
  obtain ⟨hReader, hSteady, hGrow⟩ := w.report_spec (Error.skipLimit w.skipLimit.toNat) sh
  obtain ⟨hW, hReader', hSteady', hErrors⟩ :=
    w.halt_spec (Error.skipLimit w.skipLimit.toNat) (w.report (Error.skipLimit w.skipLimit.toNat) sh)
  simp only [step, hPhase]
  rw [hW]
  exact .exceed hPhase (hReader'.trans hReader) (hSteady.trans hSteady') (by rw [hErrors]; exact hGrow)

/- Every step of a worker is one of the steps `Moves` lists. -/
theorem step_moves
    (p : Processor π)
    (w : Worker)
    (s : π)
    (sh : Shared ρ) :
    Moves p w s sh (w.step p s sh).1 (w.step p s sh).2.1 (w.step p s sh).2.2 := by
  rcases hPhase : w.phase with _ | ⟨_ | ⟨e, es⟩, sec⟩ | sec | ⟨_ | ⟨l, ls⟩, last⟩ | last | _ | _ |
    k | k
  · exact step_moves_claim p w s sh hPhase
  · simp only [step, hPhase]
    exact .refused hPhase
  · obtain ⟨hW, hReader, hSteady, hGrow⟩ := fail_spec e (.refusals es sec) w sh
    simp only [step, hPhase]
    exact .refuse hPhase hW hReader hSteady hGrow
  · rcases hFilter : p.filter with _ | f
    · simp only [step, hPhase, hFilter]
      exact .unfiltered hPhase hFilter
    · rcases hRun : f sec.lines.toList s with ⟨⟨kept, out⟩, s'⟩
      rcases hOut : out.error? "PreProcess" with _ | e
      · simp only [step, hPhase, hFilter, hRun, hOut]
        exact .filtered hPhase hFilter hRun hOut
      · obtain ⟨hW, hReader, hSteady, hGrow⟩ := fail_spec e (.filter sec.last) w sh
        simp only [step, hPhase, hFilter, hRun, hOut]
        exact .filterFails hPhase hFilter hRun hOut hW hReader hSteady hGrow
  · simp only [step, hPhase]
    exact .processed hPhase
  · rcases hRun : p.processLine l s with ⟨out, s'⟩
    rcases hOut : out.error? "ProcessLine" with _ | e
    · simp only [step, hPhase, hRun, hOut]
      exact .process hPhase hRun hOut
    · obtain ⟨hW, hReader, hSteady, hGrow⟩ := fail_spec e (.lines ls last) w sh
      simp only [step, hPhase, hRun, hOut]
      exact .lineFails hPhase hRun hOut hW hReader hSteady hGrow
  · rcases hRun : p.sectionComplete s with ⟨out, s'⟩
    rcases hOut : out.error? "SectionComplete" with _ | e
    · simp only [step, hPhase, hRun, failOn, hOut]
      exact .complete hPhase hRun hOut
    · obtain ⟨hW, hReader, hSteady, hGrow⟩ := fail_spec e (.complete last) w sh
      simp only [step, hPhase, hRun, failOn, hOut]
      exact .completeFails hPhase hRun hOut hW hReader hSteady hGrow
  · simp only [step, hPhase]
    by_cases hStopped : w.status = .stopped
    · rw [if_pos hStopped]
      split
      · rename_i e _
        obtain ⟨hReader, hSteady, -⟩ := w.report_spec e sh
        exact .finish hPhase (by rw [if_pos hStopped]) hReader
          (hSteady.trans (Shared.steady_write _ _))
      · exact .finish hPhase (by rw [if_pos hStopped]) rfl (Shared.steady_write _ _)
    · rw [if_neg hStopped]
      exact .finish hPhase (by rw [if_neg hStopped]) rfl (Shared.steady_write _ _)
  · simp only [step, hPhase]
    exact .done hPhase
  · exact step_moves_check p w s sh hPhase
  · exact step_moves_exceed p w s sh hPhase

end Worker

end LineBatch
