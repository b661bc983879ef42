import Mathlib.Logic.Function.Iterate
import LineBatch.Proofs.Reader.Rollback

/-
  How often a reader tries, and what it reports when it gives up.

  One raw-line read asks for a chunk at most the retries plus one
  times. Each try that fails drops the stream, and the next one opens
  the source again at the offset where the line starts; a failure that
  says the source is missing, shorter than the offset or changed stops
  the tries at once. The tries a read makes are the first ones of
  `Reader.trials`, the chunks that tries in a row would get if none of
  them stopped, and the read succeeds exactly when one of those tries
  gets a chunk before any try meets a failure that is final.

  A read that fails reports a fatal coded error that says what failed
  (`Reader.Classified`): not found, failed to open, or failed reading
  after the retries plus one tries. Opening a reader reports its
  failure the same way, after one try. A closed reader refuses every
  request and stays as it is.

  Main declarations:
    * `Failure.has_unique`, `Reader.Classified`, `Reader.classify_classified`
    * `Reader.trials`, `Reader.attempt_trials`, `Reader.readRaw_trials`
    * `Reader.reads_retry_then_classify`
-/

namespace LineBatch

------------------------------------------------------------
-- One Condition per Failure
------------------------------------------------------------

/- A cause wraps at most one condition. -/
theorem Cause.has_unique
    {k : Cause}
    {c d : Condition}
    (hc : k.has c = true)
    (hd : k.has d = true) :
    c = d := by
  induction k with
  | text _ => simp [Cause.has] at hc
  | condition e =>
    simp only [Cause.has, beq_iff_eq] at hc hd
    rw [hc, hd]
  | wrap _ i _ ih => exact ih hc hd
  | within _ i _ ih => exact ih hc hd

/- A failure wraps at most one condition. -/
theorem Failure.has_unique
    {f : Failure}
    {c d : Condition}
    (hc : f.has c = true)
    (hd : f.has d = true) :
    c = d := by
  induction f with
  | cause k => exact Cause.has_unique hc hd
  | coded e =>
    simp only [Failure.has, Error.has] at hc hd
    split at hc
    · rename_i k hk
      rw [hk] at hd
      exact Cause.has_unique hc hd
    · cases hc
  | wrap _ i _ ih => exact ih hc hd

namespace Reader

variable {σ : Type}

------------------------------------------------------------
-- Classified Failures
------------------------------------------------------------

/-
  What the coded error `e` of a read of the input `name` that failed
  with `f` says: it is fatal; its code is "not found" exactly when `f`
  says the source is missing, and "failed to open" exactly when `f`
  says it is shorter than the offset or changed; otherwise it is the
  error of reading that failed after `tries` tries.
-/
structure Classified
    (name : String)
    (f : Failure)
    (tries : Nat)
    (e : Error) : Prop where
  fatal : e.isFatal = true
  notFound : e.code = Error.codeNotFound ↔ f.has .sourceNotFound = true
  openFailed :
    e.code = Error.codeOpenFailed ↔
      f.has .sourceTruncated = true ∨ f.has .sourceChanged = true
  readFailed : f.isFinal = false → e = Error.readFailed name tries f.asCause

/-
  The coded error of a failed read is classified by its failure; a
  missing source has no other condition.
-/
theorem classify_classified
    (r : Reader σ)
    (f : Failure)
    (tries : Nat) :
    Classified r.name f tries (r.classify f tries) := by
  have hCodes : Error.codeOpenFailed ≠ Error.codeNotFound ∧
      Error.codeReadFailed ≠ Error.codeNotFound ∧
      Error.codeReadFailed ≠ Error.codeOpenFailed := by
    simp [Error.codeOpenFailed, Error.codeNotFound, Error.codeReadFailed]
  by_cases hNot : f.has .sourceNotFound = true
  · have hTrunc : f.has .sourceTruncated = false := by
      cases h : f.has .sourceTruncated
      · rfl
      · cases Failure.has_unique hNot h
    have hChanged : f.has .sourceChanged = false := by
      cases h : f.has .sourceChanged
      · rfl
      · cases Failure.has_unique hNot h
    refine ⟨by simp [classify, hNot, Error.notFound, Error.isFatal], ?_, ?_, ?_⟩
    · simp [classify, hNot, Error.notFound]
    · simp [classify, hNot, Error.notFound, hTrunc, hChanged, hCodes.1.symm]
    · simp [Failure.isFinal, hNot]
  · by_cases hOpen : f.has .sourceTruncated = true ∨ f.has .sourceChanged = true
    · have hOr : (f.has .sourceTruncated || f.has .sourceChanged) = true := by
        simpa using hOpen
      refine ⟨by simp [classify, hNot, hOr, Error.openFailed, Error.isFatal], ?_, ?_, ?_⟩
      · simp [classify, hNot, hOr, Error.openFailed, hCodes.1]
      · simp [classify, hNot, hOr, Error.openFailed, hOpen]
      · intro hFinal
        rcases hOpen with h | h <;> simp [Failure.isFinal, h] at hFinal
    · have hOr : (f.has .sourceTruncated || f.has .sourceChanged) = false := by
        simpa using hOpen
      refine ⟨by simp [classify, hNot, hOr, Error.readFailed, Error.isFatal], ?_, ?_, ?_⟩
      · simp [classify, hNot, hOr, Error.readFailed, hCodes.2.1]
      · simp only [classify, hNot, hOr, Error.readFailed]
        simp [hCodes.2.2, hOpen]
      · intro _
        simp [classify, hNot, hOr]


------------------------------------------------------------
-- Tries in a Row
------------------------------------------------------------

variable [ByteSource σ]

/-
  The chunks that `n` tries in a row get: each asks for the next chunk,
  and a fault drops the stream, so that the next try opens the source
  again at the same offset. A chunk that is not a fault ends the tries.
-/
def trials (r : Reader σ) : Nat → List Chunk
  | 0 => []
  | n + 1 =>
    match r.nextChunk with
    | (.fault f, r') => .fault f :: r'.drop.trials n
    | (c, _) => [c]

theorem length_trials_le
    (r : Reader σ)
    (n : Nat) :
    (r.trials n).length ≤ n := by
  induction n generalizing r with
  | zero => simp [trials]
  | succ n ih =>
    unfold trials
    split
    · simpa using ih _
    · simp

/- Opening again: what it gives and keeps, from the opening of the source at the offset. -/
theorem reset_shape (r : Reader σ) :
    r.reset.1 =
        (match (ByteSource.openAt r.source r.offset).1 with
          | .error f => some f
          | .ok _ => none) ∧
      r.reset.2.source = (ByteSource.openAt r.source r.offset).2 ∧
      r.reset.2.stream = (ByteSource.openAt r.source r.offset).1.toOption ∧
      r.reset.2.offset = r.offset := by
  rcases hOpen : ByteSource.openAt r.source r.offset with ⟨res, src⟩
  cases res with
  | error f => simp [reset, drop, hOpen, Except.toOption]
  | ok st =>
    simp only [reset, drop, hOpen]
    split <;> simp [log, Except.toOption]

/- Opening again depends on nothing but the source and the offset. -/
theorem reset_congr
    {r r' : Reader σ}
    (hSrc : r'.source = r.source)
    (hOff : r'.offset = r.offset) :
    r'.reset.1 = r.reset.1 ∧ r'.reset.2.source = r.reset.2.source ∧
      r'.reset.2.stream = r.reset.2.stream ∧ r'.reset.2.offset = r.reset.2.offset := by
  obtain ⟨h1, h2, h3, h4⟩ := reset_shape r
  obtain ⟨h1', h2', h3', h4'⟩ := reset_shape r'
  rw [hSrc, hOff] at h1' h2' h3'
  rw [hOff] at h4'
  exact ⟨h1'.trans h1.symm, h2'.trans h2.symm, h3'.trans h3.symm, h4'.trans h4.symm⟩

/- The next chunk depends on nothing but the source, the stream and the offset. -/
theorem nextChunk_congr
    {r r' : Reader σ}
    (hSrc : r'.source = r.source)
    (hStream : r'.stream = r.stream)
    (hOff : r'.offset = r.offset) :
    r'.nextChunk.1 = r.nextChunk.1 ∧ r'.nextChunk.2.source = r.nextChunk.2.source ∧
      r'.nextChunk.2.stream = r.nextChunk.2.stream ∧
      r'.nextChunk.2.offset = r.nextChunk.2.offset := by
  obtain ⟨h1, h2, h3, h4⟩ := reset_congr hSrc hOff
  unfold nextChunk
  rw [hStream]
  cases hs : r.stream with
  | some s => exact ⟨rfl, hSrc, rfl, hOff⟩
  | none =>
    dsimp only
    rcases hR : r.reset with ⟨res, r₁⟩
    rcases hR' : r'.reset with ⟨res', r₁'⟩
    rw [hR, hR'] at h1 h2 h3 h4
    dsimp only at h1 h2 h3 h4
    subst h1
    cases res' with
    | some f => exact ⟨rfl, h2, h3, h4⟩
    | none =>
      dsimp only
      rw [h3]
      cases r₁.stream with
      | some s => exact ⟨rfl, h2, rfl, h4⟩
      | none => exact ⟨rfl, h2, h3, h4⟩

/- So do the trials. -/
theorem trials_congr
    {r r' : Reader σ}
    (hSrc : r'.source = r.source)
    (hStream : r'.stream = r.stream)
    (hOff : r'.offset = r.offset)
    (n : Nat) :
    r'.trials n = r.trials n := by
  induction n generalizing r r' with
  | zero => rfl
  | succ n ih =>
    obtain ⟨h1, h2, -, h4⟩ := nextChunk_congr hSrc hStream hOff
    unfold trials
    rcases hc : r.nextChunk with ⟨c, r₁⟩
    rcases hc' : r'.nextChunk with ⟨c', r₁'⟩
    rw [hc, hc'] at h1 h2 h4
    dsimp only at h1 h2 h4
    subst h1
    cases c' with
    | fault f => simp only [@ih r₁.drop r₁'.drop h2 rfl h4]
    | line b => rfl
    | last b => rfl

/- Reading a chunk opens the source again at most once, at the offset, which it keeps. -/
theorem nextChunk_source
    (r : Reader σ) :
    r.nextChunk.2.offset = r.offset ∧
      ∃ m ≤ 1, r.nextChunk.2.source = (fun s => (ByteSource.openAt s r.offset).2)^[m] r.source := by
  have hReset : r.reset.2.offset = r.offset ∧
      r.reset.2.source = (ByteSource.openAt r.source r.offset).2 :=
    ⟨(reset_shape r).2.2.2, (reset_shape r).2.1⟩
  unfold nextChunk
  split
  · exact ⟨rfl, 0, by omega, rfl⟩
  · split
    · rename_i f r' hR
      rw [hR] at hReset
      exact ⟨hReset.1, 1, Nat.le_refl _, hReset.2⟩
    · rename_i r' hR
      rw [hR] at hReset
      split
      · exact ⟨hReset.1, 1, Nat.le_refl _, hReset.2⟩
      · exact ⟨hReset.1, 1, Nat.le_refl _, hReset.2⟩

/-
  A try that meets a fault that is not final, with tries left: the
  read goes on as a read with one more try done, from a reader that
  dropped its stream and is otherwise the one after the fault.
-/
theorem attempt_retry
    {r r' : Reader σ}
    {start tries fuel : Nat}
    {f : Failure}
    (hc : r.nextChunk = (.fault f, r'))
    (hGo : (f.isFinal || decide (tries > r'.retries)) = false) :
    ∃ r'', r''.source = r'.source ∧ r''.stream = none ∧ r''.offset = r'.offset ∧
      Keeps r' r'' ∧ attempt start tries (fuel + 1) r = attempt start (tries + 1) fuel r'' := by
  simp only [attempt, hc]
  rw [if_neg (by simp [hGo])]
  refine ⟨_, ?_, ?_, ?_, ?_, rfl⟩
  · rfl
  · rfl
  · rfl
  · exact (keeps_log _ _ _ _).trans (keeps_drop _)


theorem trials_fault
    {r r' : Reader σ}
    {f : Failure}
    (hc : r.nextChunk = (.fault f, r'))
    (n : Nat) :
    r.trials (n + 1) = .fault f :: r'.drop.trials n := by
  simp [trials, hc]

theorem trials_chunk
    {r r' : Reader σ}
    {c : Chunk}
    (hc : r.nextChunk = (c, r'))
    (hNo : ∀ f, c ≠ .fault f)
    (n : Nat) :
    r.trials (n + 1) = [c] := by
  rcases c with b | b | f
  · simp [trials, hc]
  · simp [trials, hc]
  · exact absurd rfl (hNo f)

/- A try that gets a chunk ends the read, which does not fail. -/
theorem attempt_settles
    {r r' : Reader σ}
    {start tries fuel : Nat}
    {c : Chunk}
    (hc : r.nextChunk = (c, r'))
    (hNo : ∀ f, c ≠ .fault f) :
    (∀ e, (attempt start tries (fuel + 1) r).1 ≠ .failed e) ∧
      (attempt start tries (fuel + 1) r).2.source = r'.source := by
  rcases c with b | (_ | ⟨x, xs⟩) | f
  · simp [attempt, hc]
  · simp [attempt, hc]
  · simp [attempt, hc]
  · exact absurd rfl (hNo f)

/-
  A try that meets a final fault, or the last try allowed meeting a
  fault, ends the read with the coded error of that fault.
-/
theorem attempt_gives_up
    {r r' : Reader σ}
    {start tries fuel : Nat}
    {f : Failure}
    (hc : r.nextChunk = (.fault f, r'))
    (hStop : (f.isFinal || decide (tries > r'.retries)) = true) :
    (attempt start tries (fuel + 1) r).1 = .failed (r.classify f tries) ∧
      (attempt start tries (fuel + 1) r).2.source = r'.source := by
  have hKeeps := keeps_nextChunk r
  rw [hc] at hKeeps
  simp only [attempt, hc]
  rw [if_pos hStop]
  exact ⟨by rw [classify_eq (hKeeps.trans (keeps_log _ _ _ _))], rfl⟩

/-
  A read from the offset, with `tries` the number of its first try and
  `fuel` the tries it may still make, the two adding up to the retries
  plus two. It makes `k` tries, which get the first `k` chunks of the
  trials, all but the last one faults that are not final, and it opens
  the source again at the offset at most `k` times. If the last try got
  a fault, that fault is final or the try was the last one allowed, and
  the read fails with the coded error of the fault; otherwise the read
  does not fail.
-/
theorem attempt_trials
    {r : Reader σ}
    {tries fuel : Nat}
    (hFuel : tries + fuel = r.retries + 2)
    (hPos : 0 < fuel) :
    ∃ k c, 1 ≤ k ∧ k ≤ fuel ∧ (r.trials fuel)[k - 1]? = some c ∧
      (∀ i < k - 1, ∃ f, (r.trials fuel)[i]? = some (.fault f) ∧ f.isFinal = false) ∧
      (∃ m ≤ k, (attempt r.offset tries fuel r).2.source =
        (fun s => (ByteSource.openAt s r.offset).2)^[m] r.source) ∧
      ((∃ f, c = .fault f ∧ (f.isFinal = true ∨ k = fuel) ∧
          (attempt r.offset tries fuel r).1 = .failed (r.classify f (tries + k - 1))) ∨
        ((∀ f, c ≠ .fault f) ∧ ∀ e, (attempt r.offset tries fuel r).1 ≠ .failed e)) := by
  induction fuel generalizing tries r with
  | zero => omega
  | succ fuel ih =>
    obtain ⟨hOff₀, m₀, hm₀, hSrc₀⟩ := nextChunk_source r
    have hKeeps₀ := keeps_nextChunk r
    rcases hc : r.nextChunk with ⟨c₀, r'⟩
    rw [hc] at hOff₀ hSrc₀ hKeeps₀
    dsimp only at hOff₀ hSrc₀ hKeeps₀
    by_cases hFault : ∃ f, c₀ = .fault f
    · obtain ⟨f, rfl⟩ := hFault
      have hTrials := trials_fault hc fuel
      by_cases hStop : (f.isFinal || decide (tries > r'.retries)) = true
      · obtain ⟨hFail, hSrc⟩ := @attempt_gives_up σ _ r r' r.offset tries fuel f hc hStop
        have hLast : f.isFinal = true ∨ 1 = fuel + 1 := by
          simp only [Bool.or_eq_true, decide_eq_true_eq] at hStop
          rw [hKeeps₀.retries] at hStop
          rcases hStop with hFinal | hOver
          · exact .inl hFinal
          · exact .inr (by omega)
        refine ⟨1, .fault f, Nat.le_refl _, by omega, by simp [hTrials], by simp,
          ⟨m₀, by omega, by rw [hSrc, hSrc₀]⟩, .inl ⟨f, rfl, hLast, by simpa using hFail⟩⟩
      · have hGo : (f.isFinal || decide (tries > r'.retries)) = false := by simpa using hStop
        have hNotFinal : f.isFinal = false := by
          simp only [Bool.or_eq_false_iff] at hGo
          exact hGo.1
        obtain ⟨r'', hSrc'', hStream'', hOff'', hKeeps'', hEq⟩ :=
          @attempt_retry σ _ r r' r.offset tries fuel f hc hGo
        have hRetries : r''.retries = r.retries := hKeeps''.retries.trans hKeeps₀.retries
        have hPos' : 0 < fuel := by
          simp only [Bool.or_eq_false_iff, decide_eq_false_iff_not] at hGo
          rw [hKeeps₀.retries] at hGo
          omega
        obtain ⟨k, c, hk₁, hk, hAt, hBefore, ⟨m, hm, hSrc⟩, hOut⟩ :=
          @ih r'' (tries + 1) (by omega) hPos'
        obtain ⟨k, rfl⟩ : ∃ j, k = j + 1 := ⟨k - 1, by omega⟩
        have hSame : r''.trials fuel = r'.drop.trials fuel :=
          @trials_congr σ _ r'.drop r'' hSrc'' hStream'' hOff'' fuel
        have hOff : r''.offset = r.offset := hOff''.trans hOff₀
        rw [hSame] at hAt hBefore
        rw [hOff] at hSrc hOut
        rw [hEq]
        refine ⟨k + 2, c, by omega, by omega, by simpa [hTrials] using hAt, ?_,
          ⟨m + m₀, by omega, ?_⟩, ?_⟩
        · intro i hi
          cases i with
          | zero => exact ⟨f, by simp [hTrials], hNotFinal⟩
          | succ i => simpa [hTrials] using hBefore i (by omega)
        · rw [hSrc, hSrc'', hSrc₀, Function.iterate_add_apply]
        · rcases hOut with ⟨f', hc', hLast, hFail⟩ | hOk
          · refine .inl ⟨f', hc', hLast.imp_right fun h => by omega, ?_⟩
            rw [hFail, classify_eq (hKeeps₀.trans hKeeps'')]
            congr 2
            omega
          · exact .inr hOk
    · have hNo : ∀ f, c₀ ≠ .fault f := fun f h => hFault ⟨f, h⟩
      obtain ⟨hOk, hSrc⟩ := @attempt_settles σ _ r r' r.offset tries fuel c₀ hc hNo
      refine ⟨1, c₀, Nat.le_refl _, by omega, by simp [trials_chunk hc hNo], by simp,
        ⟨m₀, by omega, by rw [hSrc, hSrc₀]⟩, .inr ⟨hNo, hOk⟩⟩


/- A raw-line read: its tries are numbered from one, and it may make the retries plus one. -/
theorem readRaw_trials
    {r : Reader σ}
    (hEnd : r.atEnd = false) :
    ∃ k c, 1 ≤ k ∧ k ≤ r.retries + 1 ∧ (r.trials (r.retries + 1))[k - 1]? = some c ∧
      (∀ i < k - 1, ∃ f, (r.trials (r.retries + 1))[i]? = some (.fault f) ∧ f.isFinal = false) ∧
      (∃ m ≤ k, r.readRaw.2.source = (fun s => (ByteSource.openAt s r.offset).2)^[m] r.source) ∧
      ((∃ f, c = .fault f ∧ (f.isFinal = true ∨ k = r.retries + 1) ∧
          r.readRaw.1 = .failed (r.classify f k)) ∨
        ((∀ f, c ≠ .fault f) ∧ ∀ e, r.readRaw.1 ≠ .failed e)) := by
  have hRaw : r.readRaw = attempt r.offset 1 (r.retries + 1) r := by
    simp [readRaw, hEnd]
  obtain ⟨k, c, hk₁, hk, hAt, hBefore, hSrc, hOut⟩ :=
    @attempt_trials σ _ r 1 (r.retries + 1) (by omega) (by omega)
  rw [hRaw]
  refine ⟨k, c, hk₁, hk, hAt, hBefore, hSrc, ?_⟩
  rcases hOut with ⟨f, hc, hLast, hFail⟩ | hOk
  · exact .inl ⟨f, hc, hLast, by rw [hFail, Nat.add_sub_cancel_left]⟩
  · exact .inr hOk

/-
  A raw-line read succeeds when one of its trials gets a chunk before
  any of them meets a final fault.
-/
theorem readRaw_of_trials
    {r : Reader σ}
    (hEnd : r.atEnd = false)
    {j : Nat}
    {c : Chunk}
    (hAt : (r.trials (r.retries + 1))[j]? = some c)
    (hNo : ∀ f, c ≠ .fault f)
    (hBefore : ∀ i < j, ∀ f, (r.trials (r.retries + 1))[i]? = some (.fault f) → f.isFinal = false) :
    ∀ e, r.readRaw.1 ≠ .failed e := by
  obtain ⟨k, c', -, hk, hAt', hFaults, -, hOut⟩ := readRaw_trials hEnd
  rcases hOut with ⟨f, rfl, hLast, -⟩ | ⟨-, hOk⟩
  · exfalso
    rcases Nat.lt_trichotomy j (k - 1) with hLt | hEq | hGt
    · obtain ⟨f', hf', -⟩ := hFaults j hLt
      rw [hAt] at hf'
      exact hNo f' (Option.some.inj hf')
    · rw [hEq, hAt'] at hAt
      exact hNo f (Option.some.inj hAt).symm
    · have hFinal := hBefore (k - 1) hGt f hAt'
      have hAll : k = r.retries + 1 := by simpa [hFinal] using hLast
      have hLen := length_trials_le r (r.retries + 1)
      have hNone : (r.trials (r.retries + 1))[j]? = none :=
        List.getElem?_eq_none (by omega)
      rw [hNone] at hAt
      cases hAt
  · exact hOk

/-
  A raw-line read that fails fails with the fault of its last try: the
  first of its trials that is a final fault, or its last allowed trial,
  all trials before it faults that are not final. Its error is
  classified by that fault after the retries plus one tries.
-/
theorem readRaw_failed_classified
    {r : Reader σ}
    (hEnd : r.atEnd = false)
    {e : Error}
    (hFail : r.readRaw.1 = .failed e) :
    ∃ k f, 1 ≤ k ∧ (r.trials (r.retries + 1))[k - 1]? = some (.fault f) ∧
      (∀ i < k - 1, ∃ f', (r.trials (r.retries + 1))[i]? = some (.fault f') ∧
        f'.isFinal = false) ∧
      (f.isFinal = true ∨ k = r.retries + 1) ∧ Classified r.name f (r.retries + 1) e := by
  obtain ⟨k, c, hk₁, -, hAt, hBefore, -, hOut⟩ := readRaw_trials hEnd
  rcases hOut with ⟨f, rfl, hLast, hFailed⟩ | ⟨-, hOk⟩
  · rw [hFail] at hFailed
    cases hFailed
    have hClass := classify_classified r f k
    refine ⟨k, f, hk₁, hAt, hBefore, hLast,
      hClass.fatal, hClass.notFound, hClass.openFailed, fun hFinal => ?_⟩
    rw [hClass.readFailed hFinal]
    rcases hLast with hF | hK
    · rw [hFinal] at hF
      cases hF
    · rw [hK]
  · exact absurd hFail (hOk e)

------------------------------------------------------------
-- Opening and Closing
------------------------------------------------------------

/-
  A reader that cannot be set up on a valid configuration failed its
  first opening, at offset 0: its failure is the classified error of
  that opening, after one try.
-/
theorem open_failed_classified
    {src src' : σ}
    {opts : ReaderOptions}
    {fl : Failure}
    (hSize : 0 < opts.sectionSize)
    (hLookup : ∃ cs, Charset.lookup opts.encoding = .ok cs)
    (hOpen : Reader.open src opts = (.error fl, src')) :
    ∃ f e, (ByteSource.openAt src 0).1 = .error f ∧ fl = .coded e ∧
      Classified (ByteSource.name src) f 1 e := by
  obtain ⟨cs, hCs⟩ := hLookup
  unfold Reader.open at hOpen
  rw [if_neg (by omega), hCs] at hOpen
  dsimp only at hOpen
  split at hOpen
  · rename_i f r₁ hReset
    simp only [Prod.mk.injEq, Except.error.injEq] at hOpen
    have hName : r₁.name = ByteSource.name src := (Keeps.of_reset hReset).name
    have hFirst : (ByteSource.openAt src 0).1 = .error f := by
      have hShape := congrArg Prod.fst hReset
      rw [(reset_shape _).1] at hShape
      revert hShape
      cases (ByteSource.openAt src 0).1 <;> simp
    refine ⟨f, _, hFirst, hOpen.1.symm, ?_⟩
    rw [← hName]
    exact classify_classified r₁ f 1
  · simp at hOpen

theorem close_closed (r : Reader σ) : r.close.2.closed = true ∧ r.close.2.name = r.name := by
  rw [close_snd]
  split
  · rename_i hc
    exact ⟨hc, rfl⟩
  · exact ⟨rfl, rfl⟩

theorem readSection_of_closed
    {r : Reader σ}
    (h : r.closed = true) :
    r.readSection = (.error (Error.closed r.name), r) := by
  simp [readSection, h]

theorem readLine_of_closed
    {r : Reader σ}
    (h : r.closed = true) :
    r.readLine = (.error (Error.closed r.name), r) := by
  simp [readLine, h]

theorem close_of_closed
    {r : Reader σ}
    (h : r.closed = true) :
    r.close = (none, r) := by
  simp [close, h]

/- A closed reader hands out nothing and stays as it is, whatever is asked of it. -/
theorem session_of_closed
    {r : Reader σ}
    (h : r.closed = true)
    (calls : List Call) :
    r.session calls = ([], r) := by
  induction calls with
  | nil => rfl
  | cons c cs ih =>
    have hCall : r.call c = ([], r) := by
      cases c with
      | readSection => simp [call, readSection_of_closed h, sectionLines]
      | readLine => simp [call, readLine_of_closed h, lineHanded]
      | close => simp [call, close_of_closed h]
    simp [session, hCall, ih]


------------------------------------------------------------
-- Retries and Their Errors
------------------------------------------------------------

/-
  One raw-line read of a reader not at the end, whatever its source
  fails with, and the reader's opening and closing. With `cs` the
  trials of the retries plus one tries:
  the read makes `k` tries, at most the retries plus one, which get the
  first `k` chunks of `cs`, all but the last one faults that are not
  final; it opens the source again only at the offset where the line
  starts, at most `k` times; it fails, with the coded error of the last
  fault after `k` tries, exactly when that fault is final or the tries
  ran out. It succeeds whenever a trial gets a chunk before any meets a
  final fault. A read that fails reports an error classified, after the
  retries plus one tries, by the fault of its last try. A reader whose
  opening fails reports it classified, after one try, by the failure of
  opening the source at offset 0. After closing, every
  request is refused as made on a closed input, nothing changes, and
  closing again does nothing.
-/
theorem reads_retry_then_classify
    (r : Reader σ)
    (hEnd : r.atEnd = false) :
    let cs := r.trials (r.retries + 1)
    (∃ k c, 1 ≤ k ∧ k ≤ r.retries + 1 ∧ cs[k - 1]? = some c ∧
      (∀ i < k - 1, ∃ f, cs[i]? = some (.fault f) ∧ f.isFinal = false) ∧
      (∃ m ≤ k, r.readRaw.2.source = (fun s => (ByteSource.openAt s r.offset).2)^[m] r.source) ∧
      ((∃ f, c = .fault f ∧ (f.isFinal = true ∨ k = r.retries + 1) ∧
          r.readRaw.1 = .failed (r.classify f k)) ∨
        ((∀ f, c ≠ .fault f) ∧ ∀ e, r.readRaw.1 ≠ .failed e))) ∧
    (∀ (j : Nat) (c : Chunk), cs[j]? = some c → (∀ f, c ≠ .fault f) →
      (∀ i < j, ∀ f, cs[i]? = some (.fault f) → f.isFinal = false) →
      ∀ e, r.readRaw.1 ≠ .failed e) ∧
    (∀ e, r.readRaw.1 = .failed e →
      ∃ k f, 1 ≤ k ∧ cs[k - 1]? = some (.fault f) ∧
        (∀ i < k - 1, ∃ f', cs[i]? = some (.fault f') ∧ f'.isFinal = false) ∧
        (f.isFinal = true ∨ k = r.retries + 1) ∧ Classified r.name f (r.retries + 1) e) ∧
    (∀ (src src' : σ) (opts : ReaderOptions) (fl : Failure), 0 < opts.sectionSize →
      (∃ cs, Charset.lookup opts.encoding = .ok cs) →
      Reader.open src opts = (.error fl, src') →
      ∃ f e, (ByteSource.openAt src 0).1 = .error f ∧ fl = .coded e ∧
        Classified (ByteSource.name src) f 1 e) ∧
    (r.close.2.readSection = (.error (Error.closed r.name), r.close.2) ∧
      r.close.2.readLine = (.error (Error.closed r.name), r.close.2) ∧
      (∀ calls, r.close.2.session calls = ([], r.close.2)) ∧
      r.close.2.close = (none, r.close.2) ∧
      (Error.closed r.name).code = Error.codeClosed ∧
      (Error.closed r.name).has .readerClosed = true) := by
  intro cs
  obtain ⟨hClosed, hName⟩ := close_closed r
  refine ⟨readRaw_trials hEnd, fun j c hAt hNo hBefore => readRaw_of_trials hEnd hAt hNo hBefore,
    fun e hFail => readRaw_failed_classified hEnd hFail, fun src src' opts fl hSize hLookup hOpen =>
      open_failed_classified hSize hLookup hOpen, ?_⟩
  rw [← hName]
  exact ⟨readSection_of_closed hClosed, readLine_of_closed hClosed, session_of_closed hClosed,
    close_of_closed hClosed, rfl, rfl⟩


/-
  A line read with two retries through a source whose first stream
  fails at once and whose next opening fails: the first two trials are
  faults, the third gets the line, and the read makes three tries.
-/
theorem reads_retry_then_classify_flaky :
    ∃ r src', Reader.open
        (⟨BlobSource.make (Bucket.empty.put "input.txt" [97, 10]) "input.txt",
          { openErrors := [none, some .other], flakyOpens := 1, flakyAfter := 0 }, []⟩ :
          ScriptedSource)
        { retries := 2, parser := ⟨fun raw => .ok ⟨raw, "", [raw]⟩⟩ } = (.ok r, src') ∧
      r.atEnd = false ∧ (r.trials 3).map Chunk.size = [0, 0, 2] ∧ r.readRaw.2.offset = 2 ∧
      ∃ k c, 1 ≤ k ∧ k ≤ r.retries + 1 ∧ (r.trials (r.retries + 1))[k - 1]? = some c ∧
        (∀ i < k - 1, ∃ f, (r.trials (r.retries + 1))[i]? = some (.fault f) ∧ f.isFinal = false) ∧
        (∃ m ≤ k, r.readRaw.2.source = (fun s => (ByteSource.openAt s r.offset).2)^[m] r.source) ∧
        ((∃ f, c = .fault f ∧ (f.isFinal = true ∨ k = r.retries + 1) ∧
            r.readRaw.1 = .failed (r.classify f k)) ∨
          ((∀ f, c ≠ .fault f) ∧ ∀ e, r.readRaw.1 ≠ .failed e)) := by
  refine ⟨_, _, rfl, rfl, by decide +kernel, by decide +kernel, ?_⟩
  exact (reads_retry_then_classify _ rfl).1

end Reader

end LineBatch
