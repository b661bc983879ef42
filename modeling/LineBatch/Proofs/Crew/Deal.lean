import LineBatch.Proofs.Crew.Ledger
import LineBatch.Proofs.Reader.Resume
import LineBatch.Proofs.Reader.Pauses

/-
  Workers sharing one reader deal out its lines once.

  However the steps of the workers interleave, wherever the run is
  cancelled and whatever the source fails with, the sections the
  claims hand out are, in order, the accepted lines before the
  reader's offset: a failed claim hands out nothing and leaves them as
  they were. Every line handed out is given to a processor, left out
  by a filter, abandoned by a worker that stopped on a fatal error, or
  still held by the worker that claimed it (`Crew.Dealt`). So no line
  reaches a processor twice, and once every worker is done and one of
  them stopped normally, every accepted line was handed out and each
  one reached a processor, was left out by a filter, or was abandoned
  by a worker that stopped as failed.

  Main declarations:
    * `Worker.BusyRuns`, `Worker.Ending`, `Worker.Moves.reads`
    * `Crew.Dealt`, `Crew.Dealt.apply`, `Crew.Dealt.run`
    * `Crew.shared_reader_deals_lines_once`
-/

------------------------------------------------------------
-- Workers
------------------------------------------------------------

namespace LineBatch

open List

/- Whether a worker that goes on by `k` is busy with a section it claimed. -/
def Resume.busy : Resume → Bool
  | .refusals _ _ => true
  | .filter _ => true
  | .lines _ _ => true
  | _ => false

/- Whether a worker that goes on by `k` works on the last section. -/
def Resume.onLast : Resume → Bool
  | .refusals _ sec => sec.last
  | .filter last => last
  | .lines _ last => last
  | .complete last => last
  | _ => false

/- Whether a worker is busy with a section it claimed. -/
def Phase.busy : Phase → Bool
  | .refusals _ _ => true
  | .filter _ => true
  | .lines _ _ => true
  | .checking k => k.busy
  | .exceeding k => k.busy
  | _ => false

/- Whether a worker is working on the last section. -/
def Phase.onLast : Phase → Bool
  | .refusals _ sec => sec.last
  | .filter sec => sec.last
  | .lines _ last => last
  | .complete last => last
  | .checking k => k.onLast
  | .exceeding k => k.onLast
  | _ => false

/- A claim on a cooling reader hands out what the reader below it hands out. -/
theorem CoolingReader.readSection_reader
    {σ : Type} [ByteSource σ]
    (c : CoolingReader σ) :
    (SectionReader.readSection c).1 = c.reader.readSection.1 ∧
      (SectionReader.readSection c).2.2.reader = c.reader.readSection.2 := by
  show c.readSection.1 = _ ∧ c.readSection.2.2.reader = _
  unfold CoolingReader.readSection CoolingReader.countRead
  rcases c.reader.readSection with ⟨res, r⟩
  cases res with
  | error e => by_cases hPer : c.cooldown.perLine <;> simp [hPer]
  | ok sec => by_cases hPer : c.cooldown.perLine <;> simp [hPer]

namespace Worker

/- A worker busy with a section is running. -/
def BusyRuns (w : Worker) : Prop := w.phase.busy = true → w.status = .running

/- A worker that stopped normally, or works on the last section. -/
def Ending (w : Worker) : Prop := w.status = .stopped ∨ w.phase.onLast = true

section Steps

variable {ρ π : Type} [SectionReader ρ]
variable {p : Processor π} {w w' : Worker} {s s' : π} {sh sh' : Shared ρ} {e : Error} {k : Resume}

/- Going on leaves a worker busy with a section only while it runs. -/
theorem resume_busyRuns (w : Worker) (k : Resume) : (w.resume k).BusyRuns := by
  intro hBusy
  rcases resume_cases w k with ⟨hRun, h⟩ | ⟨-, h⟩ <;> rw [h] at hBusy ⊢
  · cases k <;> simp_all [Phase.busy, Resume.onward, Resume.endsLast]
  · cases k <;> simp [Phase.busy, Resume.halted] at hBusy

/- A worker that no longer runs keeps its status as it goes on. -/
theorem resume_status_of_stopped (w : Worker) (k : Resume) (h : w.status ≠ .running) :
    (w.resume k).status = w.status := by
  rcases resume_cases w k with ⟨hRun, -⟩ | ⟨-, hGo⟩
  · exact absurd hRun h
  · rw [hGo]

/-
  A worker that goes on by `k` ends only if it had stopped normally, or
  `k` is on the last section: a running worker stops normally only by
  ending the last section.
-/
theorem resume_ending (w : Worker) (k : Resume) (hEnding : (w.resume k).Ending) :
    w.status = .stopped ∨ k.onLast = true := by
  rcases resume_cases w k with ⟨hRun, h⟩ | ⟨-, h⟩ <;> rw [h] at hEnding <;>
    rcases hEnding with h' | h'
  · right
    cases k <;> simp_all [Resume.endsLast, Resume.onLast]
  · right
    cases k <;> simp_all [Phase.onLast, Resume.onward, Resume.onLast]
  · exact .inl h'
  · right
    cases k <;> simp_all [Phase.onLast, Resume.halted, Resume.onLast]

/- Stopping a worker that no longer runs leaves it as it is. -/
theorem stop_of_stopped (h : w.status ≠ .running) : w.stop = w := by
  simp [stop, h]

/- Failing keeps a worker busy with a section running, when `k` is busy only after a busy phase. -/
theorem FailsTo.busyRuns
    (h : FailsTo w e k w')
    (hBusy : w.BusyRuns)
    (hk : k.busy = true → w.phase.busy = true) :
    w'.BusyRuns := by
  cases h with
  | stops => exact resume_busyRuns _ _
  | checks =>
    intro hB
    exact hBusy (hk (by simpa [Phase.busy] using hB))
  | goesOn => exact resume_busyRuns _ _

/- A worker that failed stays failed. -/
theorem FailsTo.failed_stays (h : FailsTo w e k w') (hFailed : w.status = .failed) :
    w'.status = .failed := by
  have hStopped : w.status ≠ .running := by simp [hFailed]
  cases h with
  | stops => rw [stop_of_stopped hStopped, resume_status_of_stopped w k hStopped, hFailed]
  | checks => exact hFailed
  | goesOn => rw [resume_status_of_stopped w k hStopped, hFailed]

/-
  Failing ends a worker only if it was ending, when `k` is on the last
  section as the phase was: stopping fails a running worker and leaves
  any other as it is.
-/
theorem FailsTo.ending
    (h : FailsTo w e k w')
    (hEnding : w'.Ending)
    (hk : k.onLast = w.phase.onLast) :
    w.Ending := by
  cases h with
  | stops =>
    rcases resume_ending _ _ hEnding with h | h
    · by_cases hRun : w.status = .running
      · simp [stop, hRun] at h
      · rw [stop_of_stopped hRun] at h
        exact .inl h
    · exact .inr (hk ▸ h)
  | checks =>
    rcases hEnding with h | h
    · exact .inl h
    · exact .inr (by simpa [Phase.onLast, hk] using h)
  | goesOn =>
    rcases resume_ending _ _ hEnding with h | h
    · exact .inl h
    · exact .inr (hk ▸ h)

/- A worker busy with a section runs until it leaves the section. -/
theorem Moves.busyRuns
    (hMoves : Moves p w s sh w' s' sh')
    (hBusy : w.BusyRuns) :
    w'.BusyRuns := by
  cases hMoves with
  | cancel hPhase _ _ hW | claimFails hPhase _ _ _ hW | completeFails hPhase _ _ hW =>
    exact hW.busyRuns hBusy (by simp [Resume.busy])
  | refuse hPhase hW | filterFails hPhase _ _ _ hW | lineFails hPhase _ _ hW =>
    exact hW.busyRuns hBusy fun _ => by simp [hPhase, Phase.busy]
  | claim _ hStatus => exact fun _ => hStatus
  | complete | checkUnder | exceed => exact resume_busyRuns _ _
  | checkOver hPhase =>
    intro hB
    exact hBusy (by simpa [hPhase, Phase.busy] using hB)
  | refused hPhase | unfiltered hPhase | filtered hPhase | process hPhase =>
    exact fun _ => hBusy (by simp [hPhase, Phase.busy])
  | leave | processed | finish => intro hB; simp [Phase.busy] at hB
  | done => exact hBusy

/- A worker that failed stays failed. -/
theorem Moves.failed_stays
    (hMoves : Moves p w s sh w' s' sh')
    (hFailed : w.status = .failed) :
    w'.status = .failed := by
  have hStopped : w.status ≠ .running := by simp [hFailed]
  cases hMoves with
  | cancel _ _ _ hW | claimFails _ _ _ _ hW | refuse _ hW | filterFails _ _ _ _ hW
  | lineFails _ _ _ hW | completeFails _ _ _ hW => exact hW.failed_stays hFailed
  | complete | checkUnder => rw [resume_status_of_stopped _ _ hStopped, hFailed]
  | exceed =>
    rw [stop_of_stopped hStopped, resume_status_of_stopped _ _ hStopped, hFailed]
  | _ => exact hFailed

/-
  Only a worker that stops as failed abandons lines: a refused or
  failed line abandons the rest of the section when it stops the
  worker, a worker reading the count runs and keeps what it holds, and
  the skip-limit error abandons what a running worker holds.
-/
theorem Moves.abandoned_failed
    (hMoves : Moves p w s sh w' s' sh')
    (hBusy : w.BusyRuns)
    (hAbandoned : w.abandonedBy w' ≠ []) :
    w'.status = .failed := by
  cases hMoves with
  | refuse hPhase hW | lineFails hPhase _ _ hW =>
    have hRun : w.status = .running := hBusy (by simp [hPhase, Phase.busy])
    cases hW with
    | stops => rw [resume_status_of_stopped _ _ (stop_status w)]; simp [stop, hRun]
    | checks => simp [abandonedBy, hPhase] at hAbandoned
    | goesOn =>
      simp [abandonedBy, hPhase, resume_phase_of_running _ hRun, Resume.onward] at hAbandoned
  | @checkUnder k hPhase =>
    rcases resume_cases w k with ⟨-, hGo⟩ | ⟨hStop, hGo⟩ <;> rw [hGo] at hAbandoned
    · cases k <;> simp [abandonedBy, hPhase, Resume.onward, Resume.holding] at hAbandoned
    · cases k <;> simp [abandonedBy, hPhase, Resume.halted, Resume.holding] at hAbandoned <;>
        exact absurd (hBusy (by simp [hPhase, Phase.busy, Resume.busy])) hStop
  | @exceed k _ hPhase =>
    have hRun : w.status = .running := by
      cases k <;> simp [abandonedBy, hPhase, Resume.holding] at hAbandoned <;>
        exact hBusy (by simp [hPhase, Phase.busy, Resume.busy])
    rw [resume_status_of_stopped _ _ (stop_status w)]
    simp [stop, hRun]
  | cancel hPhase _ _ hW | claimFails hPhase _ _ _ hW | filterFails hPhase _ _ _ hW
  | completeFails hPhase _ _ hW =>
    rcases hW.phase with h | h | h <;>
      simp [abandonedBy, hPhase, h, Resume.onward, Resume.halted] at hAbandoned
  | @complete last _ _ hPhase =>
    rcases resume_phase w (.complete last) with h | h <;>
      simp [abandonedBy, hPhase, h, Resume.onward, Resume.halted] at hAbandoned
  | _ => simp_all [abandonedBy]

/- A step that keeps the status and what the phase says about the last section. -/
theorem Ending.of_same
    (hEnding : w'.Ending)
    (hStatus : w'.status = w.status)
    (hLast : w'.phase.onLast = w.phase.onLast) :
    w.Ending := by
  rcases hEnding with h | h
  · exact .inl (hStatus ▸ h)
  · exact .inr (hLast ▸ h)

/-
  A worker comes to its end only from a step of a worker that was
  already ending, or by claiming the last section. The skip-limit
  error, like any stop, fails a running worker and leaves any other as
  it is.
-/
theorem Moves.ending
    (hMoves : Moves p w s sh w' s' sh')
    (hEnding : w'.Ending) :
    w.Ending ∨ ∃ sec, (SectionReader.readSection sh.reader).1 = .ok sec ∧ sec.last = true ∧
      sh'.reader = (SectionReader.readSection sh.reader).2.2 := by
  cases hMoves with
  | cancel hPhase _ _ hW | claimFails hPhase _ _ _ hW | refuse hPhase hW
  | filterFails hPhase _ _ _ hW | lineFails hPhase _ _ hW | completeFails hPhase _ _ hW =>
    exact .inl (hW.ending hEnding (by simp [hPhase, Phase.onLast, Resume.onLast]))
  | claim hPhase hStatus _ hRead hReader =>
    rcases hEnding with h | h
    · simp [hStatus] at h
    · exact .inr ⟨_, hRead, by simpa [Phase.onLast] using h, hReader⟩
  | complete hPhase | checkUnder hPhase =>
    rcases resume_ending _ _ hEnding with h | h
    · exact .inl (.inl h)
    · exact .inl (.inr (by simpa [hPhase, Phase.onLast, Resume.onLast] using h))
  | exceed hPhase =>
    rcases resume_ending _ _ hEnding with h | h
    · by_cases hRun : w.status = .running
      · simp [stop, hRun] at h
      · rw [stop_of_stopped hRun] at h
        exact .inl (.inl h)
    · exact .inl (.inr (by simpa [hPhase, Phase.onLast] using h))
  | checkOver hPhase | refused hPhase | unfiltered hPhase | filtered hPhase | processed hPhase
  | process hPhase =>
    exact .inl (Ending.of_same hEnding rfl (by simp [hPhase, Phase.onLast]))
  | leave | finish =>
    rcases hEnding with h | h
    · exact .inl (.inl h)
    · simp [Phase.onLast] at h
  | done => exact .inl hEnding

end Steps

section Reading

variable {σ π : Type} [ByteSource σ] {C : Bytes} {S : Serves σ C}
variable {p : Processor π} {w w' : Worker} {s s' : π} {sh sh' : Shared (CoolingReader σ)}

/- A step that leaves the reader alone and claims nothing. -/
theorem reads_of_reader
    (hT : Reader.Tracks S sh.reader.reader)
    (hReader : sh'.reader = sh.reader)
    (hClaimed : w.claimedBy w' = []) :
    Reader.Tracks S sh'.reader.reader ∧ Reader.SameSetup sh.reader.reader sh'.reader.reader ∧
      sh.reader.reader.acceptedBefore C sh.reader.reader.offset ++ (w.claimedBy w').flatten =
        sh.reader.reader.acceptedBefore C sh'.reader.reader.offset ∧
      sh.reader.reader.offset ≤ sh'.reader.reader.offset := by
  rw [hReader, hClaimed]
  exact ⟨hT, Reader.SameSetup.rfl' _, by simp, Nat.le_refl _⟩

/-
  What a step does to the reader: only a claim reads, and the section
  it hands out extends the accepted lines before the offset.
-/
theorem Moves.reads
    (hMoves : Moves p w s sh w' s' sh')
    (hT : Reader.Tracks S sh.reader.reader) :
    Reader.Tracks S sh'.reader.reader ∧ Reader.SameSetup sh.reader.reader sh'.reader.reader ∧
      sh.reader.reader.acceptedBefore C sh.reader.reader.offset ++ (w.claimedBy w').flatten =
        sh.reader.reader.acceptedBefore C sh'.reader.reader.offset ∧
      sh.reader.reader.offset ≤ sh'.reader.reader.offset := by
  cases hMoves with
  | claimFails hPhase _ _ hRead hW hReader =>
    obtain ⟨hRes, hNext⟩ := sh.reader.readSection_reader
    obtain ⟨hT', hSame, hAcc⟩ := Reader.readSection_spec hT
    rw [hReader, hNext]
    refine ⟨hT', hSame, ?_, (Reader.readSection_progress hT).1⟩
    rw [← hAcc, ← hRes, hRead]
    rcases hW.phase with h | h | h <;>
      simp [claimedBy, hPhase, h, Reader.sectionLines, Resume.onward, Resume.halted]
  | claim hPhase _ _ hRead hReader =>
    obtain ⟨hRes, hNext⟩ := sh.reader.readSection_reader
    obtain ⟨hT', hSame, hAcc⟩ := Reader.readSection_spec hT
    rw [hReader, hNext]
    refine ⟨hT', hSame, ?_, (Reader.readSection_progress hT).1⟩
    rw [← hAcc, ← hRes, hRead]
    simp [claimedBy, hPhase, Reader.sectionLines]
  | cancel hPhase _ _ hW hReader =>
    rcases hW.phase with h | h | h <;>
      exact reads_of_reader hT hReader (by simp [claimedBy, hPhase, h, Resume.onward, Resume.halted])
  | refuse hPhase _ hReader | filterFails hPhase _ _ _ _ hReader
  | lineFails hPhase _ _ _ hReader | completeFails hPhase _ _ _ hReader | exceed hPhase hReader
  | finish hPhase _ hReader =>
    exact reads_of_reader hT hReader (by simp [claimedBy, hPhase])
  | leave hPhase | refused hPhase | unfiltered hPhase | filtered hPhase | processed hPhase
  | process hPhase | complete hPhase | done hPhase | checkUnder hPhase | checkOver hPhase =>
    exact reads_of_reader hT rfl (by simp [claimedBy, hPhase])

end Reading

end Worker

------------------------------------------------------------
-- Crews
------------------------------------------------------------

/- Replacing one element of a list replaces its part of a flattened map. -/
theorem flatMap_set_perm
    {α β : Type}
    [DecidableEq β]
    {l : List α}
    {i : Nat}
    {a : α}
    (hGet : l[i]? = some a)
    (f : α → List β)
    (b : α) :
    l.flatMap f ++ f b ~ (l.set i b).flatMap f ++ f a := by
  induction l generalizing i with
  | nil => simp at hGet
  | cons x xs ih =>
    cases i with
    | zero =>
      simp only [List.getElem?_cons_zero, Option.some.injEq] at hGet
      subst hGet
      refine List.perm_iff_count.2 fun y => ?_
      simp only [List.flatMap_cons, List.set_cons_zero, List.count_append]
      omega
    | succ i =>
      simp only [List.getElem?_cons_succ] at hGet
      simpa [List.flatMap_cons, List.set_cons_succ, List.append_assoc]
        using (ih hGet).append_left (f x)

namespace Crew

variable {σ π : Type} [ByteSource σ]
variable {C : Bytes}

/-
  A crew dealing out the lines of `C`, from a reader set up as `r₀`: the
  reader tracks the content, the sections handed out are the accepted
  lines before its offset, and those lines with the lines the filters
  added were each given to a processor, left out by a filter,
  abandoned, or are still held by a worker. A worker busy with a
  section runs; a worker that ends has seen the reader at the end;
  every abandoned line was abandoned by a worker that failed.
-/
structure Dealt
    (S : Serves σ C)
    (r₀ : Reader σ)
    (c : Crew (CoolingReader σ) π)
    (L : Ledger) : Prop where
  tracks : Reader.Tracks S c.shared.reader.reader
  setup : Reader.SameSetup r₀ c.shared.reader.reader
  handed : L.handed.flatten = r₀.acceptedBefore C c.shared.reader.reader.offset
  balance :
    L.handed.flatten ++ L.added ~
      L.fed ++ L.filtered ++ L.abandoned.map (·.2) ++ c.workers.toList.flatMap Worker.holding
  busy : ∀ w ∈ c.workers, w.BusyRuns
  ended : ∀ w ∈ c.workers, w.Ending → c.shared.reader.reader.offset = C.length
  blame : ∀ a ∈ L.abandoned, ∃ w, c.workers[a.1]? = some w ∧ w.status = .failed

section Dealing

variable {S : Serves σ C} {r₀ : Reader σ} {c : Crew (CoolingReader σ) π} {L : Ledger}

/-
  The lines stay balanced when worker `i` moves: every line is counted
  on both sides, with what worker `i` held added to each.
-/
theorem Dealt.balance_step
    {i : Nat}
    {w w' : Worker}
    {p : Processor π}
    {s' : π}
    {sh' : Shared (CoolingReader σ)}
    (h : Dealt S r₀ c L)
    (hw : c.workers[i]? = some w)
    (hMoves : Worker.Moves p w c.procState c.shared w' s' sh') :
    (L.note i w w').handed.flatten ++ (L.note i w w').added ~
      (L.note i w w').fed ++ (L.note i w w').filtered ++ (L.note i w w').abandoned.map (·.2) ++
        (c.workers.set! i w').toList.flatMap Worker.holding := by
  have hLocal := Worker.balance hMoves
  have hGet : c.workers.toList[i]? = some w := by simpa using hw
  have hMove := flatMap_set_perm hGet Worker.holding w'
  rw [← List.perm_append_right_iff w.holding, List.perm_iff_count]
  intro y
  have h₁ := h.balance.count_eq y
  have h₂ := hLocal.count_eq y
  have h₃ := hMove.count_eq y
  simp only [Ledger.note, Array.set!_eq_setIfInBounds, Array.toList_setIfInBounds,
    List.flatten_append, List.map_append, List.map_map, List.count_append] at h₁ h₂ h₃ ⊢
  have h₄ : ((Prod.snd ∘ fun l => (i, l)) : Line → Line) = id := rfl
  simp only [h₄, List.map_id] at h₁ h₂ h₃ ⊢
  omega

/- Workers that ended still see the reader at the end when worker `i` moves. -/
theorem Dealt.ended_step
    {i : Nat}
    {w w' : Worker}
    {p : Processor π}
    {s' : π}
    {sh' : Shared (CoolingReader σ)}
    (h : Dealt S r₀ c L)
    (hw : c.workers[i]? = some w)
    (hMoves : Worker.Moves p w c.procState c.shared w' s' sh') :
    ∀ v ∈ c.workers.set! i w', v.Ending → sh'.reader.reader.offset = C.length := by
  have hMem : w ∈ c.workers := Array.mem_of_getElem? hw
  obtain ⟨hT', -, -, hLe⟩ := hMoves.reads h.tracks
  have hBound : sh'.reader.reader.offset ≤ C.length := hT'.lineStart.1
  intro v hv hEnding
  rcases mem_set_cases hv with rfl | hOld
  · rcases hMoves.ending hEnding with hEnding₀ | ⟨sec, hRead, hLast, hReader⟩
    · have hAtEnd := h.ended w hMem hEnding₀
      omega
    · obtain ⟨hRes, hNext⟩ := c.shared.reader.readSection_reader
      rw [hReader, hNext]
      exact (Reader.readSection_progress h.tracks).2 sec (hRes ▸ hRead) hLast
  · have hAtEnd := h.ended v hOld hEnding
    omega

/- Abandoned lines stay blamed on failed workers when worker `i` moves. -/
theorem Dealt.blame_step
    {i : Nat}
    {w w' : Worker}
    {p : Processor π}
    {s' : π}
    {sh' : Shared (CoolingReader σ)}
    (h : Dealt S r₀ c L)
    (hw : c.workers[i]? = some w)
    (hMoves : Worker.Moves p w c.procState c.shared w' s' sh') :
    ∀ a ∈ (L.note i w w').abandoned,
      ∃ v, (c.workers.set! i w')[a.1]? = some v ∧ v.status = .failed := by
  have hSize : i < c.workers.size := (Array.getElem?_eq_some_iff.1 hw).1
  have hSelf : (c.workers.set! i w')[i]? = some w' := by simp [hSize]
  intro a ha
  simp only [Ledger.note, List.mem_append, List.mem_map] at ha
  rcases ha with hOld | ⟨l, hl, rfl⟩
  · obtain ⟨v, hv, hFailed⟩ := h.blame a hOld
    by_cases hi : a.1 = i
    · rw [hi] at hv ⊢
      rw [hw, Option.some.injEq] at hv
      subst hv
      exact ⟨w', hSelf, hMoves.failed_stays hFailed⟩
    · refine ⟨v, ?_, hFailed⟩
      simp [Ne.symm hi, hv]
  · have hAbandoned : w.abandonedBy w' ≠ [] := List.ne_nil_of_mem hl
    exact ⟨w', hSelf,
      hMoves.abandoned_failed (h.busy w (Array.mem_of_getElem? hw)) hAbandoned⟩

/-
  A step of worker `i` keeps the crew dealing: the section a claim
  hands out extends the accepted lines before the offset.
-/
theorem Dealt.step
    {i : Nat}
    {w w' : Worker}
    {p : Processor π}
    {s' : π}
    {sh' : Shared (CoolingReader σ)}
    (h : Dealt S r₀ c L)
    (hw : c.workers[i]? = some w)
    (hMoves : Worker.Moves p w c.procState c.shared w' s' sh') :
    Dealt S r₀ { c with shared := sh', workers := c.workers.set! i w', procState := s' }
      (L.note i w w') := by
  have hMem : w ∈ c.workers := Array.mem_of_getElem? hw
  obtain ⟨hT', hSame, hAcc, -⟩ := hMoves.reads h.tracks
  refine ⟨hT', h.setup.trans hSame, ?_, h.balance_step hw hMoves, ?_,
    h.ended_step hw hMoves, h.blame_step hw hMoves⟩
  · simp only [Ledger.note, List.flatten_append, h.handed]
    rw [← h.setup.acceptedBefore_eq, hAcc]
  · intro v hv
    rcases mem_set_cases hv with rfl | hOld
    · exact hMoves.busyRuns (h.busy w hMem)
    · exact h.busy v hOld

/- Every event keeps the crew dealing. -/
theorem Dealt.apply
    (h : Dealt S r₀ c L)
    (e : Event) :
    Dealt S r₀ (c.apply e) (c.note L e) := by
  refine apply_of_steps (Dealt S r₀) h
    ⟨h.tracks, h.setup, h.handed, h.balance, h.busy, h.ended, h.blame⟩ ?_ e
  intro i k w p hw hk hp
  rw [act_of_get hw hk hp]
  exact h.step hw (Worker.step_moves p w c.procState c.shared)

/- Every run of events keeps the crew dealing. -/
theorem Dealt.run
    (h : Dealt S r₀ c L)
    (evs : List Event) :
    Dealt S r₀ (c.runEvents evs) (c.ledger L evs) := by
  induction evs generalizing c L with
  | nil => exact h
  | cons e es ih => exact ih (h.apply e)

/- Fresh workers on a reader at the start of the content deal from nothing. -/
theorem dealt_start
    (hT : Reader.Tracks S c.shared.reader.reader)
    (hOff : c.shared.reader.reader.offset = 0)
    (hFresh : ∀ w ∈ c.workers, w.phase = .claim ∧ w.status = .running) :
    Dealt S c.shared.reader.reader c {} := by
  have hIdle : c.workers.toList.flatMap Worker.holding = [] := by
    refine List.flatMap_eq_nil_iff.2 fun w hw => ?_
    simp [Worker.holding, (hFresh w (Array.mem_toList_iff.1 hw)).1]
  refine ⟨hT, Reader.SameSetup.rfl' _, by simp [hOff, Reader.acceptedBefore_zero],
    by simp [hIdle], ?_, ?_, by simp⟩
  · intro w hw hBusy
    simp [(hFresh w hw).1, Phase.busy] at hBusy
  · intro w hw hEnding
    rcases hEnding with h | h
    · simp [(hFresh w hw).2] at h
    · simp [(hFresh w hw).1, Phase.onLast] at h

end Dealing

/- With filters that keep some of their lines, an event keeps them so and adds no line. -/
theorem added_of_keeps
    {c : Crew (CoolingReader σ) π}
    {L : Ledger}
    (hKeeps : ∀ p ∈ c.processors, p.KeepsLines)
    (evs : List Event) :
    (c.ledger L evs).added = L.added := by
  induction evs generalizing c L with
  | nil => rfl
  | cons e es ih =>
    have hStep : (∀ p ∈ (c.apply e).processors, p.KeepsLines) ∧ (c.note L e).added = L.added := by
      refine apply_of_steps (fun c' L' => (∀ p ∈ c'.processors, p.KeepsLines) ∧ L'.added = L.added)
        ⟨hKeeps, rfl⟩ ⟨hKeeps, rfl⟩ ?_ e
      intro i k w p hw hk hp
      rw [act_of_get hw hk hp]
      refine ⟨hKeeps, ?_⟩
      have hNone := Worker.addedBy_of_keeps (Worker.step_moves p w c.procState c.shared)
        (hKeeps p (Array.mem_of_getElem? hp))
      simp [Ledger.note, hNone]
    exact (ih hStep.1).trans hStep.2

omit [ByteSource σ] in
/- Workers that are all done hold no lines. -/
theorem holding_of_allDone
    {c : Crew (CoolingReader σ) π}
    (hDone : c.allDone = true) :
    c.workers.toList.flatMap Worker.holding = [] := by
  refine List.flatMap_eq_nil_iff.2 fun w hw => ?_
  have hPhase := Array.all_eq_true_iff_forall_mem.1 hDone w (Array.mem_toList_iff.1 hw)
  cases h : w.phase <;> simp_all [Phase.isDone, Worker.holding]

/-
  Workers sharing one reader deal out its lines once. Take a reader
  opened on a source serving `C` under any schedule of faults, shared
  by fresh workers with any processors, and any interleaving of their
  steps with cancellations. Then the sections handed out are, in order,
  the accepted lines before the reader's offset, so a failed claim
  costs no line; what reached the processors is part of the input with
  the lines the filters added; and once every worker is done and one
  stopped normally, every accepted line was handed out, and the
  accepted lines with the added ones each reached a processor, were
  left out by a filter, or were abandoned by a worker that ended as
  failed. Filters that keep some of the lines they are given add none,
  so then no line reaches the processors more often than the input
  holds it.
-/
theorem shared_reader_deals_each_line_once
    (S : Serves σ C)
    (src : σ)
    (opts : ReaderOptions)
    {r : Reader σ}
    {src' : σ}
    (hSrc : S.inv src)
    (hOpen : Reader.open src opts = (.ok r, src'))
    (c : Crew (CoolingReader σ) π)
    (hReader : c.shared.reader.reader = r)
    (hFresh : ∀ w ∈ c.workers, w.phase = .claim ∧ w.status = .running)
    (evs : List Event) :
    let L := c.ledger {} evs
    let c' := c.runEvents evs
    let all := (rawLines C).filterMap r.accepted
    L.handed.flatten = r.acceptedBefore C c'.shared.reader.reader.offset ∧
      L.fed <+~ all ++ L.added ∧
      (c'.allDone = true → (∃ w ∈ c'.workers, w.status = .stopped) →
        L.handed.flatten = all ∧
        all ++ L.added ~ L.fed ++ L.filtered ++ L.abandoned.map (·.2) ∧
        ∀ a ∈ L.abandoned, ∃ w, c'.workers[a.1]? = some w ∧ w.status = .failed) ∧
      ((∀ p ∈ c.processors, p.KeepsLines) → L.added = []) := by
  intro L c' all
  obtain ⟨hT, hOff, -⟩ := Reader.open_spec hSrc hOpen
  subst hReader
  have h := (dealt_start hT hOff hFresh).run evs
  have hPrefix := Reader.acceptedBefore_prefix c.shared.reader.reader h.tracks.lineStart
  refine ⟨h.handed, ?_, ?_, fun hKeeps => added_of_keeps hKeeps evs⟩
  · have hFed : L.fed <+ L.fed ++ L.filtered ++ L.abandoned.map (·.2) ++
        c'.workers.toList.flatMap Worker.holding := by
      simp only [List.append_assoc]
      exact List.sublist_append_left _ _
    refine hFed.subperm.trans (h.balance.symm.subperm.trans ?_)
    rw [h.handed]
    exact (hPrefix.sublist.append_right _).subperm
  · intro hDone ⟨w, hw, hStopped⟩
    have hAtEnd : c'.shared.reader.reader.offset = C.length := h.ended w hw (.inl hStopped)
    have hAll : L.handed.flatten = all := by
      rw [h.handed, hAtEnd, Reader.acceptedBefore_length]
    have hBalance := h.balance
    rw [holding_of_allDone hDone, List.append_nil, hAll] at hBalance
    exact ⟨hAll, hBalance, h.blame⟩

/-
  Two workers share a reader on a source whose first stream fails after
  two octets and whose second open fails, with a processor that accepts
  every line; the run is cancelled after three steps.
-/
theorem shared_reader_deals_each_line_once_two_workers :
    (ScriptedSource.serves [97, 10, 98, 10]).inv
        ⟨BlobSource.make (Bucket.empty.put "input.txt" [97, 10, 98, 10]) "input.txt",
          { openErrors := [none, some .other], flakyOpens := 1, flakyAfter := 2 }, []⟩ ∧
      ∃ r src', Reader.open
          (⟨BlobSource.make (Bucket.empty.put "input.txt" [97, 10, 98, 10]) "input.txt",
            { openErrors := [none, some .other], flakyOpens := 1, flakyAfter := 2 }, []⟩ :
            ScriptedSource)
          { sectionSize := 1 } = (.ok r, src') ∧
        ∃ c : Crew (CoolingReader ScriptedSource) Unit, c.shared.reader.reader = r ∧
          (∀ w ∈ c.workers, w.phase = .claim ∧ w.status = .running) ∧
          let evs := [.step 0, .step 1, .step 0, .cancel, .step 1, .step 0]
          let L := c.ledger {} evs
          let c' := c.runEvents evs
          let all := (rawLines [97, 10, 98, 10]).filterMap r.accepted
          L.handed.flatten = r.acceptedBefore [97, 10, 98, 10] c'.shared.reader.reader.offset ∧
            L.fed <+~ all ++ L.added ∧
            (c'.allDone = true → (∃ w ∈ c'.workers, w.status = .stopped) →
              L.handed.flatten = all ∧
              all ++ L.added ~ L.fed ++ L.filtered ++ L.abandoned.map (·.2) ∧
              ∀ a ∈ L.abandoned, ∃ w, c'.workers[a.1]? = some w ∧ w.status = .failed) ∧
            ((∀ p ∈ c.processors, p.KeepsLines) → L.added = []) := by
  have hInv : (ScriptedSource.serves [97, 10, 98, 10]).inv
      ⟨BlobSource.make (Bucket.empty.put "input.txt" [97, 10, 98, 10]) "input.txt",
        { openErrors := [none, some .other], flakyOpens := 1, flakyAfter := 2 }, []⟩ :=
    ⟨_, Bucket.get?_put_self _ _ _, rfl⟩
  refine ⟨hInv, _, _, rfl,
    { shared :=
        { reader := CoolingReader.make _ 0 true []
          progress := { total := 1, policy := .lines, charset := Charset.utf8 } }
      workers := #[Worker.make "worker-0" 0, Worker.make "worker-1" 0]
      uses := #[0, 0]
      processors := #[⟨fun _ s => (.ok, s), fun s => (.ok, s), fun s => (.ok, s), none⟩]
      procState := () },
    rfl, by simp [Worker.make], ?_⟩
  exact shared_reader_deals_each_line_once (ScriptedSource.serves [97, 10, 98, 10]) _
    { sectionSize := 1 } hInv rfl _ rfl (by simp [Worker.make]) _

/-
  A filter that hands on every line of its section twice: one worker
  reading "a\n" gives the line a to its processor twice, though the
  input holds it once.
-/
theorem duplicating_filter_feeds_a_line_twice :
    ∃ r src', Reader.open (BlobSource.make (Bucket.empty.put "input.txt" [97, 10]) "input.txt")
        {} = (.ok r, src') ∧
      ∃ c : Crew (CoolingReader BlobSource) Unit, c.shared.reader.reader = r ∧
        (∀ w ∈ c.workers, w.phase = .claim ∧ w.status = .running) ∧
        let L := c.ledger {} [.step 0, .step 0, .step 0, .step 0, .step 0]
        let all := (rawLines [97, 10]).filterMap r.accepted
        all.map (·.text) = [[97]] ∧ L.fed.map (·.text) = [[97], [97]] ∧ ¬ L.fed <+~ all := by
  refine ⟨_, _, rfl,
    { shared :=
        { reader := CoolingReader.make _ 0 true []
          progress := { total := 1, policy := .lines, charset := Charset.utf8 } }
      workers := #[Worker.make "worker-0" 0]
      uses := #[0]
      processors := #[⟨fun _ s => (.ok, s), fun s => (.ok, s), fun s => (.ok, s),
        some fun ls s => ((ls ++ ls, .ok), s)⟩]
      procState := () },
    rfl, by simp [Worker.make], ?_⟩
  intro L all
  have hAll : all.map (·.text) = [[97]] := by decide +kernel
  have hFed : L.fed.map (·.text) = [[97], [97]] := by decide +kernel
  refine ⟨hAll, hFed, fun hSub => ?_⟩
  have hLength := hSub.length_le
  have hOne := congrArg List.length hAll
  have hTwo := congrArg List.length hFed
  simp only [List.length_map, List.length_cons, List.length_nil] at hOne hTwo
  omega

end Crew

end LineBatch
