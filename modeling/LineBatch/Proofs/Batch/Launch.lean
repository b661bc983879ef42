import LineBatch.Batch.Run
import LineBatch.Proofs.Worker.Moves
import Mathlib.Algebra.GroupWithZero.Nat

/-
  The two ends of a batch run.

  A run whose parts were all built starts fresh workers, one for every
  slot the batch asks for, on the reader the progress was built with;
  each worker uses the processor its part names. At the other end the
  run closes the reader, which may add an error to the progress but
  moves nothing else of it, and sums up: the summary counts the lines
  of the workers as they ended, and the processors' state of the run is
  the one the workers left.

  Main declarations:
    * `Except.exists_ok_of_any`
    * `Batch.buildWorkers_self`, `Batch.launch_ok`, `Batch.launch_fresh`
    * `Batch.land_summary`, `Batch.summarize_lines`, `Batch.runBy_of_launch`,
      `Batch.runBy_of_launch_error`
-/

namespace LineBatch

/-
  A computation whose result passes a check succeeded with that result;
  runs on fixed inputs are evaluated as such a check and taken apart
  with it.
-/
theorem Except.exists_ok_of_any
    {ε α : Type}
    {e : Except ε α}
    {p : α → Bool}
    (h : e.toOption.any p = true) :
    ∃ a, e = .ok a ∧ p a = true := by
  cases e with
  | error f => simp [Except.toOption] at h
  | ok a => exact ⟨a, rfl, by simpa [Except.toOption] using h⟩

namespace Batch

variable {σ π : Type} [ByteSource σ]

------------------------------------------------------------
-- Launch
------------------------------------------------------------

omit [ByteSource σ] in
/- When worker `i` uses processor `i`, the workers from `i` on use their own. -/
theorem buildWorkers_self
    {parts : Parts σ π}
    (hSelf : ∀ i, parts.worker i = .ok i)
    (n i : Nat) :
    buildWorkers parts n i = .ok (List.range' i n) := by
  induction n generalizing i with
  | zero => rfl
  | succ n ih =>
    simp only [buildWorkers, hSelf, ih]
    rfl

/-
  A launched run starts fresh workers on the reader its progress was
  built with, each with the processor its part names.
-/
theorem launch_ok
    {b : Batch}
    {parts : Parts σ π}
    {l : Launch σ π}
    (h : b.launch parts = .ok l) :
    ∃ r₀ r p stateLog uses,
      parts.reader = .ok r₀ ∧
      parts.state r₀ = (.ok (p, stateLog), r) ∧
      buildWorkers parts b.workers 0 = .ok uses ∧
      l.crew =
        { shared := { reader := r, progress := p },
          workers := ((List.range b.workers).map fun i =>
            Worker.make ("worker-" ++ toString i) b.skipLimit).toArray,
          uses := uses.toArray, processors := parts.processors,
          procState := parts.procState } := by
  unfold launch at h
  rcases hInit : parts.init with f | initLog
  · simp [hInit] at h
  rcases hReader : parts.reader with f | r₀
  · simp [hInit, hReader] at h
  rcases hState : parts.state r₀ with ⟨_ | ⟨p, stateLog⟩, r⟩
  · simp [hInit, hReader, hState] at h
  rcases hBuild : buildWorkers parts b.workers 0 with ⟨i, f⟩ | uses
  · simp [hInit, hReader, hState, hBuild] at h
  simp only [hInit, hReader, hState, hBuild, Except.ok.injEq] at h
  exact ⟨r₀, r, p, stateLog, uses, rfl, hState, rfl, by rw [← h]⟩

/- A launched run starts a fresh worker for every slot of the batch. -/
theorem launch_fresh
    {b : Batch}
    {parts : Parts σ π}
    {l : Launch σ π}
    (h : b.launch parts = .ok l) :
    l.crew.workers.size = b.workers ∧
      ∀ w ∈ l.crew.workers, w.phase = .claim ∧ w.status = .running ∧ w.lines = 0 := by
  obtain ⟨_, _, _, _, _, -, -, -, hCrew⟩ := launch_ok h
  refine ⟨by simp [hCrew], fun w hw => ?_⟩
  simp only [hCrew, List.mem_toArray, List.mem_map] at hw
  obtain ⟨i, -, rfl⟩ := hw
  exact ⟨rfl, rfl, rfl⟩

------------------------------------------------------------
-- Landing
------------------------------------------------------------

/-
  Landing keeps the workers and the processors' state, and the shared
  state it sums up moved only as a report moves it: closing the reader
  may add an error.
-/
theorem land_summary
    (b : Batch)
    (parts : Parts σ π)
    (l : Launch σ π)
    (crew : Crew (CoolingReader σ) π) :
    (b.land parts l crew).procState = crew.procState ∧
      ∃ sh, Shared.Steady crew.shared sh ∧
        (b.land parts l crew).summary = some (b.summarize { crew with shared := sh }) := by
  rcases hClose : crew.shared.reader.close with ⟨_ | e, r⟩ <;>
    have hClosed : Shared.Steady crew.shared { crew.shared with reader := r } :=
      ⟨rfl, rfl, rfl, rfl, rfl, Nat.le_refl _, rfl⟩
  · simp only [land, hClose]
    exact ⟨by split <;> rfl, _, hClosed, by split <;> rfl⟩
  · simp only [land, hClose]
    exact ⟨by split <;> rfl, _, hClosed.trans (Shared.steady_report _ e).1, by split <;> rfl⟩

omit [ByteSource σ] in
/-
  The summary counts the lines of every worker, the fold adding them
  onto what it started with.
-/
theorem summarize_lines
    (b : Batch)
    (c : Crew (CoolingReader σ) π) :
    (b.summarize c).lines = (c.workers.toList.map Worker.lines).sum := by
  simp only [summarize, ← Array.foldl_toList]
  generalize c.workers.toList = ws
  suffices h : ∀ n, ws.foldl (fun n w => n + w.lines) n = n + (ws.map Worker.lines).sum by
    simpa using h 0
  induction ws with
  | nil => simp
  | cons w ws ih =>
    intro n
    simp only [List.foldl_cons, ih, List.map_cons, List.sum_cons]
    omega

omit [ByteSource σ] in
/- A summary whose workers all stopped normally, of a crew with a worker, has one. -/
theorem stopped_of_summarize
    (b : Batch)
    (c : Crew (CoolingReader σ) π)
    (hSome : 0 < c.workers.size)
    (hStopped : ∀ w ∈ (b.summarize c).workers, w.status = .stopped) :
    ∃ w ∈ c.workers, w.status = .stopped := by
  let w := c.workers[0]
  refine ⟨w, Array.getElem_mem hSome, hStopped ⟨w.name, w.status, w.sections, w.lines⟩ ?_⟩
  exact List.mem_map.2 ⟨w, Array.mem_toList_iff.2 (Array.getElem_mem hSome), rfl⟩

/- A launched run lands the crew its workers were driven to. -/
theorem runBy_of_launch
    {b : Batch}
    {parts : Parts σ π}
    {l : Launch σ π}
    (h : b.launch parts = .ok l)
    (drive : Crew (CoolingReader σ) π → Crew (CoolingReader σ) π) :
    b.runBy parts drive = b.land parts l (drive l.crew) := by
  simp [runBy, h]

/- A run that stopped while set up gives what it had when it stopped. -/
theorem runBy_of_launch_error
    {b : Batch}
    {parts : Parts σ π}
    {res : RunResult σ π}
    (h : b.launch parts = .error res)
    (drive : Crew (CoolingReader σ) π → Crew (CoolingReader σ) π) :
    b.runBy parts drive = res := by
  simp [runBy, h]

end Batch

end LineBatch
