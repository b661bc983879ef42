import LineBatch.Proofs.Reader.Sections

/-
  A failed request gives its section back whole.

  Whatever fails in a request for a section (opening the source again,
  or a stream inside a line; on the first try or after retries; after
  any number of its lines were read), the reader is left as it was:
  the offset where the request started, no stream held, the end flag
  and the closed flag as they were. Once the source stops failing, the
  next request hands out the section that a request at that offset
  hands out when nothing fails (`Reader.readSection_of_quiet`), its
  refusals included. A request for one line that fails reading stops
  at the start of the raw line it failed on, having passed over only
  skipped blank lines.

  Main declarations:
    * `Quiet`, `Reader.Calm`, `Reader.readSection_of_quiet`
    * `Reader.Shut`, `Reader.nextLine_failed`
    * `Reader.failed_requests_roll_back`
-/

namespace LineBatch

------------------------------------------------------------
-- Sources That Stopped Failing
------------------------------------------------------------

/-
  A source of the content `C` that has stopped failing: while `quiet`
  holds, it opens at every offset within the content with a stream
  that never fails, and it stays quiet.
-/
structure Quiet
    (σ : Type) [ByteSource σ]
    (C : Bytes) where
  quiet : σ → Prop
  openAt_ok :
    ∀ s n, quiet s → n ≤ C.length →
      ∃ st, (ByteSource.openAt s n).1 = .ok st ∧ st.budget = none
  openAt_quiet : ∀ s n, quiet s → n ≤ C.length → quiet (ByteSource.openAt s n).2

namespace Stream

/- A stream without a budget never fails, and gets no budget. -/
theorem next_unbudgeted
    (s : Stream)
    (h : s.budget = none) :
    (∀ f, s.next.1 ≠ .fault f) ∧ s.next.2.budget = none := by
  have hAllows (n : Nat) : s.allows n = true := by simp [allows, h]
  unfold next
  split <;> simp [hAllows, h]

end Stream

namespace Reader

variable {σ : Type} [ByteSource σ] {C : Bytes}

/- A reader whose source has stopped failing, and whose stream, if any, never fails. -/
def Calm
    (Q : Quiet σ C)
    (r : Reader σ) : Prop :=
  Q.quiet r.source ∧ ∀ s, r.stream = some s → s.budget = none

------------------------------------------------------------
-- Calm Readers Never Fail
------------------------------------------------------------

section Calm

variable {Q : Quiet σ C}

/- Opening a quiet source again gives a stream that never fails. -/
theorem reset_calm
    {r : Reader σ}
    (hQ : Q.quiet r.source)
    (hLe : r.offset ≤ C.length) :
    r.reset.1 = none ∧ r.reset.2.stream.isSome ∧ Calm Q r.reset.2 := by
  obtain ⟨st, hOk, hBudget⟩ := Q.openAt_ok r.source r.offset hQ hLe
  have hQuiet := Q.openAt_quiet r.source r.offset hQ hLe
  rcases hOpen : ByteSource.openAt r.source r.offset with ⟨res, src⟩
  rw [hOpen] at hOk hQuiet
  dsimp only at hOk hQuiet
  subst hOk
  simp only [reset, drop, hOpen]
  split
  · exact ⟨rfl, rfl, hQuiet, by simp [log, hBudget]⟩
  · exact ⟨rfl, rfl, hQuiet, by simp [hBudget]⟩

/- Reading a chunk from a calm reader never fails, and leaves it calm. -/
theorem nextChunk_calm
    {r : Reader σ}
    (hC : Calm Q r)
    (hLe : r.offset ≤ C.length) :
    (∀ f, r.nextChunk.1 ≠ .fault f) ∧ Calm Q r.nextChunk.2 := by
  unfold nextChunk
  split
  · rename_i s hs
    obtain ⟨hNo, hBudget⟩ := s.next_unbudgeted (hC.2 s hs)
    exact ⟨hNo, hC.1, by simp [hBudget]⟩
  · obtain ⟨hNone, hSome, hC'⟩ := reset_calm hC.1 hLe
    split
    · rename_i f r' hR
      rw [hR] at hNone
      cases hNone
    · rename_i r' hR
      rw [hR] at hSome hC'
      split
      · rename_i s hs
        obtain ⟨hNo, hBudget⟩ := s.next_unbudgeted (hC'.2 s hs)
        exact ⟨hNo, hC'.1, by simp [hBudget]⟩
      · rename_i hs
        simp [hs] at hSome

/- A try on a calm reader finds a line or the end: it never fails. -/
theorem attempt_calm
    {r : Reader σ}
    {start tries fuel : Nat}
    (hC : Calm Q r)
    (hLe : r.offset ≤ C.length)
    (hPos : 0 < fuel) :
    (∀ e, (attempt start tries fuel r).1 ≠ .failed e) ∧
      Calm Q (attempt start tries fuel r).2 := by
  cases fuel with
  | zero => omega
  | succ fuel =>
    obtain ⟨hNo, hC'⟩ := nextChunk_calm hC hLe
    simp only [attempt]
    rcases hc : r.nextChunk with ⟨c, r'⟩
    rw [hc] at hNo hC'
    rcases c with b | (_ | ⟨x, xs⟩) | f
    · exact ⟨by simp, hC'⟩
    · exact ⟨by simp, hC'⟩
    · exact ⟨by simp, hC'⟩
    · exact absurd rfl (hNo f)

/- Reading a line from a calm reader never fails. -/
theorem readOneLine_calm
    {r : Reader σ}
    (hC : Calm Q r)
    (hLe : r.offset ≤ C.length) :
    (∀ e, r.readOneLine.1 ≠ .failed e) ∧ Calm Q r.readOneLine.2 := by
  have hRaw : (∀ e, r.readRaw.1 ≠ .failed e) ∧ Calm Q r.readRaw.2 := by
    unfold readRaw
    split
    · exact ⟨by simp, hC⟩
    · exact attempt_calm hC hLe (by omega)
  unfold readOneLine
  rcases hR : r.readRaw with ⟨res, r'⟩
  rw [hR] at hRaw
  cases res with
  | line b => exact ⟨by simp, hRaw.2⟩
  | finished => exact hRaw
  | failed e => exact absurd rfl (hRaw.1 e)

/- Filling a section on a calm reader never fails. -/
theorem fill_calm
    {S : Serves σ C}
    {r : Reader σ}
    {sec : Section}
    {start fuel : Nat}
    (hT : Tracks S r)
    (hC : Calm Q r) :
    ∀ e, (fill start fuel sec r).1 ≠ .error e := by
  induction fuel generalizing sec r with
  | zero => simp [fill]
  | succ fuel ih =>
    unfold fill
    split
    · simp
    · obtain ⟨hNo, hC'⟩ := readOneLine_calm hC hT.lineStart.1
      obtain ⟨hT', -, -⟩ := readOneLine_spec hT
      rcases hR : r.readOneLine with ⟨res, r'⟩
      rw [hR] at hNo hC' hT'
      cases res with
      | failed e => exact absurd rfl (hNo e)
      | finished => simp
      | line t =>
        dsimp only
        split
        · exact ih hT' hC'
        · split
          · exact ih hT' hC'
          · exact ih hT' hC'

/-
  A request on a calm reader hands out the section that a request at
  its offset hands out when nothing fails.
-/
theorem readSection_of_quiet
    {S : Serves σ C}
    {r : Reader σ}
    (hT : Tracks S r)
    (hSized : S.Sized)
    (hC : Calm Q r)
    (hOpen : r.closed = false) :
    r.readSection.1 = .ok (r.sectionAt C r.offset) := by
  have hNo : ∀ e, r.readSection.1 ≠ .error e := by
    unfold readSection
    rw [if_neg (by simp [hOpen])]
    exact fill_calm hT hC
  cases h : r.readSection.1 with
  | error e => exact absurd h (hNo e)
  | ok sec =>
    have hFill := (readSection_ok hT hSized hOpen).1 sec h
    simp [sectionAt, hFill]

end Calm

------------------------------------------------------------
-- What a Failed Request Leaves
------------------------------------------------------------

/- Reading single lines leaves alone what reading leaves alone. -/
theorem keeps_nextLine
    (fuel : Nat)
    (r : Reader σ) :
    Keeps r (nextLine fuel r).2 := by
  induction fuel generalizing r with
  | zero => exact Keeps.rfl' r
  | succ fuel ih =>
    have hRead := keeps_readOneLine r
    unfold nextLine
    rcases hR : r.readOneLine with ⟨res, r'⟩
    rw [hR] at hRead
    cases res with
    | failed e => exact hRead
    | finished => exact hRead
    | line t =>
      dsimp only
      split
      · exact hRead.trans (ih r')
      · split <;> exact hRead

theorem keeps_readLine (r : Reader σ) : Keeps r r.readLine.2 := by
  unfold readLine
  split
  · exact Keeps.rfl' r
  · exact keeps_nextLine _ r

omit [ByteSource σ] in
/- Readers with the same setup and size hand out the same sections when nothing fails. -/
theorem sectionAt_eq
    {r r' : Reader σ}
    (hSame : SameSetup r r')
    (hKeeps : Keeps r r') :
    r'.sectionAt = r.sectionAt := by
  funext C n
  simp [sectionAt, hKeeps.sectionSize, hSame.itemsFrom_eq]

omit [ByteSource σ] in
/- The coded error of a failure names the reader, and nothing else of it. -/
theorem classify_eq
    {r r' : Reader σ}
    (hKeeps : Keeps r r') :
    r'.classify = r.classify := by
  funext f k
  simp [classify, hKeeps.name]

/- A read that fails gives the coded error of some failure after some tries. -/
theorem attempt_failed
    {r : Reader σ}
    {start tries fuel : Nat}
    {e : Error}
    (h : (attempt start tries fuel r).1 = .failed e) :
    ∃ f k, e = r.classify f k := by
  induction fuel generalizing tries r with
  | zero => simp [attempt] at h
  | succ fuel ih =>
    have hNext := keeps_nextChunk r
    simp only [attempt] at h
    rcases hc : r.nextChunk with ⟨c, r'⟩
    rw [hc] at h hNext
    rcases c with b | (_ | ⟨x, xs⟩) | f
    · simp at h
    · simp at h
    · simp at h
    · dsimp only at h
      split at h
      · simp only [RawRead.failed.injEq] at h
        exact ⟨f, tries, by rw [← h, classify_eq (hNext.trans (keeps_log _ _ _ _))]⟩
      · obtain ⟨f', k, hk⟩ := ih h
        refine ⟨f', k, ?_⟩
        rw [hk, classify_eq (hNext.trans ((keeps_log _ _ _ _).trans (keeps_drop _)))]

theorem readOneLine_failed
    {r : Reader σ}
    {e : Error}
    (h : r.readOneLine.1 = .failed e) :
    ∃ f k, e = r.classify f k := by
  unfold readOneLine at h
  rcases hR : r.readRaw with ⟨res, r'⟩
  rw [hR] at h
  cases res with
  | line b => simp at h
  | finished => simp at h
  | failed e' =>
    simp only [RawRead.failed.injEq] at h
    subst h
    unfold readRaw at hR
    split at hR
    · simp at hR
    · exact attempt_failed (by rw [hR])

/- A line read at a line start is the first raw line from there, decoded. -/
theorem readOneLine_line
    {S : Serves σ C}
    {r : Reader σ}
    {t : Bytes}
    (hT : Tracks S r)
    (h : r.readOneLine.1 = .line t) :
    ∃ b, t = r.charset.decode (trimEol b) ∧
      rawLines (C.drop r.offset) = b :: rawLines (C.drop r.readOneLine.2.offset) ∧
      r.readOneLine.2.offset = r.offset + b.length := by
  obtain ⟨hT', -, hOut⟩ := readOneLine_spec hT
  rw [h] at hOut
  obtain ⟨b, rfl, hOne, hNe, hDrop, hOff⟩ := hOut
  refine ⟨b, rfl, ?_, hOff⟩
  have hLines := hT.lineStart.rawLines_drop (hOff ▸ hT'.lineStart) hOne (hOff ▸ hDrop) hNe
  rwa [← hOff] at hLines

/-
  A request for one line that fails either failed reading, at the start
  of a raw line after only skipped ones and with no stream left, or met
  a raw line the parser refused after only skipped ones, and moved past
  it.
-/
theorem nextLine_failed
    {S : Serves σ C}
    {r : Reader σ}
    {fuel : Nat}
    {e : Error}
    (hT : Tracks S r)
    (h : (nextLine fuel r).1 = .error e) :
    ∃ m, (∀ i ∈ (r.itemsFrom C r.offset).take m, i = .skipped) ∧
      (((nextLine fuel r).2.offset =
            r.offset + ((rawLines (C.drop r.offset)).take m).flatten.length ∧
          (nextLine fuel r).2.stream = none ∧ ∃ f k, e = r.classify f k) ∨
        ((r.itemsFrom C r.offset)[m]? = some (.rejected e) ∧
          (nextLine fuel r).2.offset =
            r.offset + ((rawLines (C.drop r.offset)).take (m + 1)).flatten.length)) := by
  induction fuel generalizing r with
  | zero => simp [nextLine] at h
  | succ fuel ih =>
    obtain ⟨hT', hSame, hOut⟩ := readOneLine_spec hT
    have hKeeps := keeps_readOneLine r
    have hLine := @readOneLine_line _ _ _ S r
    unfold nextLine at h ⊢
    rcases hR : r.readOneLine with ⟨res, r'⟩
    rw [hR] at h hT' hSame hOut hKeeps hLine
    cases res with
    | failed e' =>
      obtain ⟨hOff, hStream, -⟩ := hOut
      dsimp only at h hOff hStream ⊢
      simp only [Except.error.injEq] at h
      subst h
      obtain ⟨f, k, hk⟩ := readOneLine_failed (by rw [hR])
      exact ⟨0, by simp, .inl ⟨by simpa using hOff, hStream, f, k, hk⟩⟩
    | finished => simp at h
    | line t =>
      obtain ⟨b, rfl, hLines, hOff⟩ := hLine hT rfl
      have hItems : r.itemsFrom C r.offset = r.item b :: r.itemsFrom C r'.offset := by
        simp [itemsFrom, hLines]
      have hFlat (m : Nat) :
          ((rawLines (C.drop r.offset)).take (m + 1)).flatten.length =
            b.length + ((rawLines (C.drop r'.offset)).take m).flatten.length := by
        simp [hLines]
      dsimp only at h ⊢
      by_cases hSkip : r'.skips (r.charset.decode (trimEol b)) = true
      · rw [if_pos hSkip] at h ⊢
        have hItem : r.item b = .skipped := by
          rw [item_eq, ← hSame.skips_eq, if_pos hSkip]
        obtain ⟨m, hSkipped, hCase⟩ := ih hT' h
        rw [hSame.itemsFrom_eq, classify_eq hKeeps] at *
        refine ⟨m + 1, ?_, ?_⟩
        · rw [hItems, List.take_succ_cons, hItem]
          intro i hi
          rcases List.mem_cons.1 hi with rfl | hi
          · rfl
          · exact hSkipped i hi
        · rcases hCase with ⟨hO, hS, hk⟩ | ⟨hAt, hO⟩
          · exact .inl ⟨by rw [hO, hFlat, hOff]; omega, hS, hk⟩
          · exact .inr ⟨by simpa [hItems] using hAt, by rw [hO, hFlat, hOff]; omega⟩
      · rw [if_neg hSkip] at h ⊢
        cases hParse : r'.parser.parse (r.charset.decode (trimEol b)) with
        | error f =>
          rw [hParse] at h
          dsimp only at h ⊢
          simp only [Except.error.injEq] at h
          subst h
          have hItem : r.item b = .rejected (f.asLineError (r.charset.decode (trimEol b))) := by
            rw [item_eq, ← hSame.skips_eq, if_neg hSkip, ← hSame.parser, hParse]
          refine ⟨0, by simp, .inr ⟨by simp [hItems, hItem], ?_⟩⟩
          rw [hFlat, hOff]
          simp
        | ok l =>
          rw [hParse] at h
          simp at h

/- A closed reader holds no stream. -/
def Shut (r : Reader σ) : Prop := r.closed = true → r.stream = none

/- Every request keeps a closed reader without a stream. -/
theorem Shut.call
    {r : Reader σ}
    (h : Shut r)
    (c : Call) :
    Shut (r.call c).2 := by
  intro hClosed
  cases c with
  | readSection =>
    cases hc : r.closed
    · rw [show (r.call .readSection).2 = r.readSection.2 from rfl,
        (keeps_readSection r).closed, hc] at hClosed
      cases hClosed
    · simp [Reader.call, readSection, hc, h hc]
  | readLine =>
    cases hc : r.closed
    · rw [show (r.call .readLine).2 = r.readLine.2 from rfl,
        (keeps_readLine r).closed, hc] at hClosed
      cases hClosed
    · simp [Reader.call, readLine, hc, h hc]
  | close =>
    show r.close.2.stream = none
    rw [close_snd]
    split
    · rename_i hc
      exact h hc
    · rfl

theorem Shut.session
    {r : Reader σ}
    (h : Shut r)
    (calls : List Call) :
    Shut (r.session calls).2 := by
  induction calls generalizing r with
  | nil => exact h
  | cons c cs ih => exact ih (h.call c)

theorem readLine_of_open
    {r : Reader σ}
    (hOpen : r.closed = false) :
    r.readLine = nextLine r.lineBound r := by
  simp [readLine, hOpen]


------------------------------------------------------------
-- Failed Requests Roll Back
------------------------------------------------------------

/-
  Requests on a reader reached by any requests after opening, whatever
  the source fails with. A request for a section that fails leaves the
  offset, the end flag and the closed flag as they were, and holds no
  stream; once the source is quiet, the next request hands out the
  section that a request at that offset hands out when nothing fails
  (`readSection_of_quiet`). A request for one line that fails was made
  on a closed reader; or it passed over `m` skipped raw lines and then
  either failed reading, with a coded error of the failure and the
  offset at the start of the next raw line and no stream, or met a raw
  line the parser refused and moved past it.
-/
theorem failed_requests_roll_back
    (S : Serves σ C)
    (Q : Quiet σ C)
    (hSized : S.Sized)
    (src : σ)
    (opts : ReaderOptions)
    {r₀ : Reader σ}
    {src' : σ}
    (hSrc : S.inv src)
    (hOpen : Reader.open src opts = (.ok r₀, src'))
    (calls : List Call) :
    let r := (r₀.session calls).2
    (∀ e, r.readSection.1 = .error e →
      r.readSection.2.offset = r.offset ∧ r.readSection.2.stream = none ∧
        r.readSection.2.atEnd = r.atEnd ∧ r.readSection.2.closed = r.closed ∧
        (r.closed = false → Q.quiet r.readSection.2.source →
          r.readSection.2.readSection.1 = .ok (r.sectionAt C r.offset))) ∧
    (∀ e, r.readLine.1 = .error e →
      (r.closed = true ∧ e = Error.closed r.name) ∨
        ∃ m, (∀ i ∈ (r.itemsFrom C r.offset).take m, i = .skipped) ∧
          ((r.readLine.2.offset = r.offset + ((rawLines (C.drop r.offset)).take m).flatten.length ∧
              r.readLine.2.stream = none ∧ ∃ f k, e = r.classify f k) ∨
            ((r.itemsFrom C r.offset)[m]? = some (.rejected e) ∧
              r.readLine.2.offset =
                r.offset + ((rawLines (C.drop r.offset)).take (m + 1)).flatten.length))) := by
  intro r
  obtain ⟨hT₀, -, -, -, -⟩ := open_spec hSrc hOpen
  obtain ⟨-, -, hFresh⟩ := open_fresh hOpen
  have hT : Tracks S r := (session_spec hT₀ calls).1
  have hShut : Shut r := Shut.session (fun h => by simp [hFresh] at h) calls
  refine ⟨fun e hFail => ?_, fun e hFail => ?_⟩
  · cases hc : r.closed
    · obtain ⟨hOff, hStream, hEnd⟩ := (readSection_ok hT hSized hc).2 e hFail
      have hKeeps := keeps_readSection r
      obtain ⟨hT', hSame, -⟩ := readSection_spec hT
      refine ⟨hOff, hStream, hEnd, hKeeps.closed.trans hc, fun _ hQ => ?_⟩
      rw [readSection_of_quiet hT' hSized ⟨hQ, by simp [hStream]⟩ (hKeeps.closed.trans hc), hOff,
        sectionAt_eq hSame hKeeps]
    · have hRefuse : r.readSection = (.error (Error.closed r.name), r) := by
        simp [readSection, hc]
      rw [hRefuse]
      exact ⟨rfl, hShut hc, rfl, hc, fun h => by simp at h⟩
  · cases hc : r.closed
    · rw [readLine_of_open hc] at hFail ⊢
      exact .inr (nextLine_failed hT hFail)
    · refine .inl ⟨rfl, ?_⟩
      simpa [readLine, hc] using hFail.symm

end Reader

------------------------------------------------------------
-- Scripted Sources Quieten
------------------------------------------------------------

namespace BlobSource

/-
  An object that is there and has not changed since it was first seen
  opens at every offset within it, with a stream that never fails.
-/
theorem openAt_found
    {s : BlobSource}
    {b : Blob}
    {n : Nat}
    (hGet : s.bucket.get? s.key = some b)
    (hSeen : s.seen = none ∨ s.seen = some b.stamp)
    (hLe : n ≤ b.data.length) :
    s.openAt n = (.ok (Stream.ofBytes (b.data.drop n)), { s with seen := some b.stamp }) := by
  unfold openAt openBlob
  rw [hGet]
  rcases hSeen with h | h
  · simp [h, Nat.not_lt.2 hLe]
  · obtain ⟨bucket, key, name, seen, missing⟩ := s
    dsimp only at h
    subst h
    simp [Nat.not_lt.2 hLe]

end BlobSource

namespace ScriptedSource

/-
  A scripted source whose script has no fault left, over an object that
  holds `C` and has not changed since it was first seen.
-/
def Calmed
    (C : Bytes)
    (s : ScriptedSource) : Prop :=
  (s.inner.bucket.get? s.inner.key).map (·.data) = some C ∧
    s.faults.openErrors.all Option.isNone = true ∧ s.faults.flakyOpens = 0 ∧
    (s.inner.seen = none ∨ s.inner.seen = (s.inner.bucket.get? s.inner.key).map (·.stamp))

instance (C : Bytes) : DecidablePred (Calmed C) := fun s => by
  unfold Calmed
  infer_instance

/- A calmed source opens within its object, never fails, and stays calmed. -/
theorem openAt_calmed
    {C : Bytes}
    {s : ScriptedSource}
    {n : Nat}
    (h : Calmed C s)
    (hLe : n ≤ C.length) :
    Calmed C (s.openAt n).2 ∧ ∃ st, (s.openAt n).1 = .ok st ∧ st.budget = none := by
  obtain ⟨hData, hErrors, hFlaky, hSeen⟩ := h
  obtain ⟨b, hGet, rfl⟩ : ∃ b, s.inner.bucket.get? s.inner.key = some b ∧ b.data = C := by
    cases hb : s.inner.bucket.get? s.inner.key with
    | none => simp [hb] at hData
    | some b => exact ⟨b, rfl, by simpa [hb] using hData⟩
  rw [hGet] at hSeen
  have hOpen := BlobSource.openAt_found hGet (by simpa using hSeen) hLe
  refine ⟨?_, Stream.ofBytes (b.data.drop n), ?_, rfl⟩
  · unfold openAt
    cases hE : s.faults.openErrors with
    | nil => simp [Calmed, hE, hOpen, hFlaky, hGet]
    | cons f rest =>
      obtain ⟨hf, hRest⟩ : f = none ∧ rest.all Option.isNone = true := by
        simpa [hE] using hErrors
      simp [Calmed, hE, hf, hOpen, hFlaky, hGet, hRest]
  · unfold openAt
    cases hE : s.faults.openErrors with
    | nil => simp [hE, hOpen, hFlaky]
    | cons f rest =>
      obtain ⟨hf, -⟩ : f = none ∧ rest.all Option.isNone = true := by simpa [hE] using hErrors
      simp [hE, hf, hOpen, hFlaky]

/- Scripted sources are quiet once calmed. -/
def quiet (C : Bytes) : Quiet ScriptedSource C where
  quiet := Calmed C
  openAt_ok _ _ h hLe := (openAt_calmed h hLe).2
  openAt_quiet _ _ h hLe := (openAt_calmed h hLe).1

end ScriptedSource

namespace Reader

/-
  The content "\n" then "a\n", read in sections of two without retries,
  through a source whose first stream fails after one octet: both the
  first request for a section and the first request for a line pass
  over the blank line and then fail, and the source is quiet after the
  failed section.
-/
theorem failed_requests_roll_back_flaky :
    (ScriptedSource.serves [10, 97, 10]).Sized ∧
      (ScriptedSource.serves [10, 97, 10]).inv
        ⟨BlobSource.make (Bucket.empty.put "input.txt" [10, 97, 10]) "input.txt",
          { flakyOpens := 1, flakyAfter := 1 }, []⟩ ∧
      ∃ r₀ src', Reader.open
          (⟨BlobSource.make (Bucket.empty.put "input.txt" [10, 97, 10]) "input.txt",
            { flakyOpens := 1, flakyAfter := 1 }, []⟩ : ScriptedSource)
          { sectionSize := 2, retries := 0, parser := ⟨fun raw => .ok ⟨raw, "", [raw]⟩⟩ } =
            (.ok r₀, src') ∧
        r₀.readSection.1.isOk = false ∧ r₀.closed = false ∧
        (ScriptedSource.quiet [10, 97, 10]).quiet r₀.readSection.2.source ∧
        r₀.readLine.1.isOk = false ∧
        let r := (r₀.session []).2
        (∀ e, r.readSection.1 = .error e →
          r.readSection.2.offset = r.offset ∧ r.readSection.2.stream = none ∧
            r.readSection.2.atEnd = r.atEnd ∧ r.readSection.2.closed = r.closed ∧
            (r.closed = false → (ScriptedSource.quiet [10, 97, 10]).quiet r.readSection.2.source →
              r.readSection.2.readSection.1 = .ok (r.sectionAt [10, 97, 10] r.offset))) ∧
        (∀ e, r.readLine.1 = .error e →
          (r.closed = true ∧ e = Error.closed r.name) ∨
            ∃ m, (∀ i ∈ (r.itemsFrom [10, 97, 10] r.offset).take m, i = .skipped) ∧
              ((r.readLine.2.offset =
                    r.offset + ((rawLines ([10, 97, 10].drop r.offset)).take m).flatten.length ∧
                  r.readLine.2.stream = none ∧ ∃ f k, e = r.classify f k) ∨
                ((r.itemsFrom [10, 97, 10] r.offset)[m]? = some (.rejected e) ∧
                  r.readLine.2.offset =
                    r.offset + ((rawLines ([10, 97, 10].drop r.offset)).take (m + 1)).flatten.length))) := by
  have hInv : (ScriptedSource.serves [10, 97, 10]).inv
      ⟨BlobSource.make (Bucket.empty.put "input.txt" [10, 97, 10]) "input.txt",
        { flakyOpens := 1, flakyAfter := 1 }, []⟩ :=
    ⟨_, Bucket.get?_put_self _ _ _, rfl⟩
  refine ⟨ScriptedSource.serves_sized _, hInv, _, _, rfl, by decide +kernel, rfl, ?_, by decide +kernel,
    failed_requests_roll_back (ScriptedSource.serves [10, 97, 10]) (ScriptedSource.quiet _)
      (ScriptedSource.serves_sized _) _
      { sectionSize := 2, retries := 0, parser := ⟨fun raw => .ok ⟨raw, "", [raw]⟩⟩ } hInv rfl []⟩
  show ScriptedSource.Calmed _ _
  decide +kernel

end Reader

end LineBatch
