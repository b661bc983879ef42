import LineBatch.Proofs.Jobs.ResultFile
import LineBatch.Proofs.Batch.Outcome

/-
  What a failed setup leaves at the output of an extract run.

  The result file is opened when the run is set up, before the input,
  its reader, the progress and the workers; when one of those fails,
  the run ends without a summary and commits the result file it opened
  on the way out. Nothing was written to it, so committing it removes
  the file: an output that did not exist still does not, and one that
  existed before the run is gone. No other file and no directory
  changes.

  Main declarations:
    * `Disk.file?_remove_self`, `Disk.file?_remove_of_ne`
    * `Batch.launch_error_stopped`
    * `ExtractJob.failed_setup_removes_output`
-/

namespace LineBatch

------------------------------------------------------------
-- Removing a File
------------------------------------------------------------

namespace Disk

/- A removed file is gone. -/
@[simp] theorem file?_remove_self (d : Disk) (p : String) : (d.remove p).file? p = none := by
  have hGone : (d.files.filter fun f => f.1 != p).find? (fun f => f.1 == p) = none :=
    List.find?_eq_none.2 fun f hf => by simp_all
  simp [file?, remove, hGone]

/-
  Removing a file leaves every other file as it was: the look-up stops
  at the first file named `q`, which the removal keeps.
-/
theorem file?_remove_of_ne {d : Disk} {p q : String} (h : q ≠ p) :
    (d.remove p).file? q = d.file? q := by
  simp only [file?, remove]
  congr 1
  induction d.files with
  | nil => rfl
  | cons f fs ih =>
    by_cases hf : f.1 = p
    · have hq : (p == q) = false := by simpa using Ne.symm h
      simp [hf, hq, ih]
    · simp [List.find?_cons, hf, ih]

end Disk

------------------------------------------------------------
-- A Failed Setup
------------------------------------------------------------

namespace Batch

variable {σ π : Type} [ByteSource σ]

/-
  A run that fails while it is set up stops with the processors' state
  it started with: every way out of the setup goes through
  `Batch.stopped`.
-/
theorem launch_error_stopped
    {b : Batch}
    {parts : Parts σ π}
    {res : RunResult σ π}
    (h : b.launch parts = .error res) :
    res.procState = parts.procState := by
  unfold launch at h
  split at h
  · cases h; rfl
  split at h
  · cases h; rfl
  split at h
  · cases h; rfl
  split at h
  · cases h; rfl
  · cases h

end Batch

namespace ExtractJob

/-
  A run that fails while it is set up leaves no file at the output: the
  result file it opened is committed empty, which removes it, whether or
  not a file was there before. The run has no summary and says why it
  failed, and every other file and every directory is as it was.
-/
theorem failed_setup_removes_output
    {cfg : Settings}
    {job : ExtractJob}
    {d : Disk}
    {cwd runId : String}
    {sink : Sink}
    {b : Batch}
    (hJob : make cfg = .ok job)
    (hSink : Sink.open d cwd cfg.output = .ok sink)
    (hBatch : Batch.make ⟨cfg.workers, cfg.skipLimit, runId⟩ true runId = .ok b)
    (hSetup : b.SetupFails (job.parts d cwd (.ok sink)))
    (drive : Crew (CoolingReader BlobSource) Extraction →
      Crew (CoolingReader BlobSource) Extraction) :
    (job.runBy d cwd runId drive).summary = none ∧
      (job.runBy d cwd runId drive).failure.isSome = true ∧
      (job.runBy d cwd runId drive).disk.file? sink.path = none ∧
      (∀ p, p ≠ sink.path → (job.runBy d cwd runId drive).disk.file? p = d.file? p) ∧
      (job.runBy d cwd runId drive).disk.dirs = d.dirs := by
  obtain ⟨rfl, -⟩ := make_ok hJob
  obtain ⟨res, hRes⟩ := (Batch.launch_error_iff b _).2 hSetup
  obtain ⟨hSummary, hFailure, -⟩ := Batch.launch_error_reader hRes
  have hEmpty : res.procState.written = [] := by
    rw [Batch.launch_error_stopped hRes]
    rfl
  have hRun : job.runBy d cwd runId drive = ⟨res.summary, res.failure, d.remove sink.path, res.log⟩ := by
    simp only [runBy, hSink, hBatch, Batch.runBy_of_launch_error hRes, Sink.commit, hEmpty,
      List.isEmpty_nil, if_true]
  rw [hRun]
  exact ⟨hSummary, hFailure, Disk.file?_remove_self d _, fun p hp => Disk.file?_remove_of_ne hp,
    rfl⟩

/-
  An input that is not there, and an output that was: the run fails at
  its reader and the output is gone.
-/
theorem failed_setup_removes_output_missing_input :
    let cfg : Settings :=
      { Settings.default with input := "missing.txt", output := "out.txt", workers := 1 }
    let d : Disk :=
      { files := [("/w/out.txt", ⟨Bytes.ofString "old\n", 1⟩)], dirs := ["/w"], writes := 1 }
    ∃ job sink b, make cfg = .ok job ∧ Sink.open d "/w" cfg.output = .ok sink ∧
      Batch.make ⟨cfg.workers, cfg.skipLimit, "run"⟩ true "run" = .ok b ∧
      b.SetupFails (job.parts d "/w" (.ok sink)) ∧
      (job.run d "/w" "run" false).disk.file? sink.path = none := by
  intro cfg d
  have hParts : ((make cfg).toOption.any fun job =>
      (Sink.open d "/w" cfg.output).toOption.any fun sink =>
      (Batch.make ⟨cfg.workers, cfg.skipLimit, "run"⟩ true "run").toOption.any fun _ =>
      (job.parts d "/w" (.ok sink)).reader.toOption.isNone) = true := by
    decide +kernel
  obtain ⟨job, hJob, hParts⟩ := Except.exists_ok_of_any hParts
  obtain ⟨sink, hSink, hParts⟩ := Except.exists_ok_of_any hParts
  obtain ⟨b, hBatch, hReader⟩ := Except.exists_ok_of_any hParts
  have hSetup : b.SetupFails (job.parts d "/w" (.ok sink)) := by
    rcases h : (job.parts d "/w" (.ok sink)).reader with f | r
    · exact .inr (.inl ⟨f, h⟩)
    · simp [h, Except.toOption] at hReader
  exact ⟨job, sink, b, hJob, hSink, hBatch, hSetup,
    (failed_setup_removes_output hJob hSink hBatch hSetup (Crew.turns false)).2.2.1⟩

/-
  The same run, observed at the output's path: the file that held a line
  before the run is not kept.
-/
theorem failed_setup_deletes_existing_output :
    let cfg : Settings :=
      { Settings.default with input := "missing.txt", output := "out.txt", workers := 1 }
    let d : Disk :=
      { files := [("/w/out.txt", ⟨Bytes.ofString "old\n", 1⟩)], dirs := ["/w"], writes := 1 }
    (d.file? "/w/out.txt").map (·.data) = some (Bytes.ofString "old\n") ∧
      ∃ job, make cfg = .ok job ∧ (job.run d "/w" "run" false).summary = none ∧
        (job.run d "/w" "run" false).disk.file? "/w/out.txt" = none := by
  intro cfg d
  have hRun : ((make cfg).toOption.any fun job =>
      (job.run d "/w" "run" false).summary.isNone &&
      ((job.run d "/w" "run" false).disk.file? "/w/out.txt").isNone) = true := by
    decide +kernel
  obtain ⟨job, hJob, hFacts⟩ := Except.exists_ok_of_any hRun
  simp only [Bool.and_eq_true, Option.isNone_iff_eq_none] at hFacts
  exact ⟨by decide +kernel, job, hJob, hFacts.1, hFacts.2⟩

end ExtractJob

end LineBatch
