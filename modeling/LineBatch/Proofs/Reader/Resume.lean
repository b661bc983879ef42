import LineBatch.Proofs.Reader.RawLines
import LineBatch.Source.Scripted

/-
  Readers neither lose nor repeat lines, whatever fails.

  The content is fixed; the source serving it may refuse to open and
  its streams may fail after any number of octets. A reader then keeps
  its offset at the end of a whole raw line, and the lines handed out
  by the calls that succeeded are exactly the accepted lines of the
  raw lines before that offset, in order: a failed section gives its
  lines back, a retried line is read from its start again, and a
  skipped or rejected line is passed over once.

  The invariant `Reader.Tracks` ties the offset, the open stream and
  the end flag to the content. Every reading function keeps it, and
  says how far it moved (`RawOutcome`); the calls a client makes then
  extend the accepted lines before the offset by what they hand out.

  Main declarations:
    * `Serves`, `Reader.Tracks`, `Reader.SameSetup`
    * `Reader.attempt_spec`, `Reader.fill_spec`, `Reader.nextLine_spec`
    * `Reader.Call`, `Reader.session`, `Reader.session_spec`
-/

------------------------------------------------------------
-- Sources Serving a Content
------------------------------------------------------------

namespace LineBatch

/-
  A source serving the content `C`. While `inv` holds, a stream it
  opens at an offset holds the content from that offset on; opening
  and closing keep `inv`. When opening fails, and after how many octets
  a stream fails, is left open: that is the schedule of faults.
-/
structure Serves
    (σ : Type) [ByteSource σ]
    (C : Bytes) where
  inv : σ → Prop
  openAt_inv : ∀ s n, inv s → inv (ByteSource.openAt s n).2
  openAt_rest :
    ∀ s n st, inv s → (ByteSource.openAt s n).1 = .ok st → st.rest = C.drop n
  close_inv : ∀ s, inv s → inv (ByteSource.close s).2

/- The octets a chunk takes from its stream. -/
def Chunk.size : Chunk → Nat
  | .line b => b.length
  | .last b => b.length
  | .fault _ => 0

/-
  A chunk read at offset `n` agrees with the content: a line is the
  next raw line, closed by its line feed, and the last piece is all
  that is left.
-/
def ChunkFits
    (C : Bytes)
    (n : Nat) : Chunk → Prop
  | .line b =>
    b.getLast? = some 10 ∧ rawLines b = [b] ∧ C.drop n = b ++ C.drop (n + b.length)
  | .last b => C.drop n = b ∧ 10 ∉ b
  | .fault _ => True

namespace Stream

/- What one request to a stream gives. -/
theorem next_cases (s : Stream) :
    (∃ j, s.rest.idxOf? 10 = some j ∧
      s.next.1 = .line (s.rest.take (j + 1)) ∧
      s.next.2.rest = s.rest.drop (j + 1)) ∨
    (s.rest.idxOf? 10 = none ∧ s.next.1 = .last s.rest ∧ s.next.2.rest = []) ∨
    (∃ f, s.next.1 = .fault f ∧ s.next.2 = s) := by
  unfold next
  split
  · rename_i j hj
    split
    · exact .inl ⟨j, hj, rfl, rfl⟩
    · exact .inr (.inr ⟨_, rfl, rfl⟩)
  · rename_i hj
    split
    · exact .inr (.inl ⟨hj, rfl, rfl⟩)
    · exact .inr (.inr ⟨_, rfl, rfl⟩)

/-
  A stream holding the content from `n` on gives a chunk that agrees
  with the content, and keeps the content from the end of that chunk.
-/
theorem next_fits
    {C : Bytes}
    {n : Nat}
    (s : Stream)
    (hRest : s.rest = C.drop n) :
    ChunkFits C n s.next.1 ∧ s.next.2.rest = C.drop (n + s.next.1.size) := by
  rcases next_cases s with ⟨j, hj, hLine, hAfter⟩ | ⟨hNone, hLast, hAfter⟩ | ⟨f, hFault, hSame⟩
  · have hLen : (s.rest.take (j + 1)).length = j + 1 := by
      obtain ⟨hLt, -⟩ := List.idxOf?_eq_some_iff.1 hj
      simp only [List.length_take]
      omega
    obtain ⟨Z, hZ, hTake⟩ := take_idxOf_lf hj
    rw [hLine, hAfter]
    refine ⟨⟨by simp [hTake], by rw [hTake, rawLines_lf_end hZ], ?_⟩, ?_⟩
    · rw [hLen, ← List.drop_drop, ← hRest, List.take_append_drop]
    · simp only [Chunk.size]
      rw [hLen, hRest, List.drop_drop]
  · rw [hLast, hAfter]
    refine ⟨⟨hRest.symm, by simpa using hNone⟩, ?_⟩
    simp [Chunk.size, hRest]
    omega
  · rw [hFault, hSame]
    exact ⟨trivial, by simp [Chunk.size, hRest]⟩

end Stream

------------------------------------------------------------
-- The Tracking Invariant
------------------------------------------------------------

namespace Reader

variable {σ : Type}
variable {C : Bytes}

/-
  Two readers with the same setup make the same items of raw lines,
  and allow the same number of retries.
-/
structure SameSetup
    (r r' : Reader σ) : Prop where
  charset : r'.charset = r.charset
  ignoreEmpty : r'.ignoreEmpty = r.ignoreEmpty
  parser : r'.parser = r.parser
  retries : r'.retries = r.retries

theorem SameSetup.rfl' (r : Reader σ) : SameSetup r r := ⟨rfl, rfl, rfl, rfl⟩

theorem SameSetup.trans
    {r r' r'' : Reader σ}
    (h : SameSetup r r')
    (h' : SameSetup r' r'') :
    SameSetup r r'' :=
  ⟨h'.charset.trans h.charset, h'.ignoreEmpty.trans h.ignoreEmpty,
    h'.parser.trans h.parser, h'.retries.trans h.retries⟩

theorem SameSetup.skips_eq
    {r r' : Reader σ}
    (h : SameSetup r r') :
    r'.skips = r.skips := by
  funext t
  simp [skips, h.ignoreEmpty]

theorem SameSetup.accepted_eq
    {r r' : Reader σ}
    (h : SameSetup r r') :
    r'.accepted = r.accepted := by
  funext raw
  simp [accepted, item, h.charset, h.ignoreEmpty, h.parser]

theorem sameSetup_drop (r : Reader σ) : SameSetup r r.drop := ⟨rfl, rfl, rfl, rfl⟩

theorem sameSetup_log
    (r : Reader σ)
    (level : Level)
    (message : String)
    (attrs : List (String × String)) :
    SameSetup r (r.log level message attrs) :=
  ⟨rfl, rfl, rfl, rfl⟩

variable [ByteSource σ]

/-
  A reader tracks the content served by `S`: its offset is a line
  start, an open stream holds the content from the offset on, the end
  flag is raised only at the end, and the source is still serving.
-/
structure Tracks
    (S : Serves σ C)
    (r : Reader σ) : Prop where
  lineStart : LineStart C r.offset
  stream_rest : ∀ s, r.stream = some s → s.rest = C.drop r.offset
  atEnd_offset : r.atEnd = true → r.offset = C.length
  source_inv : S.inv r.source

------------------------------------------------------------
-- Opening and Reading Chunks
------------------------------------------------------------

section Chunks

variable {S : Serves σ C}

/- Writing a record changes nothing a reader tracks. -/
theorem Tracks.log
    {r : Reader σ}
    (hT : Tracks S r)
    (level : Level)
    (message : String)
    (attrs : List (String × String)) :
    Tracks S (r.log level message attrs) :=
  ⟨hT.1, hT.2, hT.3, hT.4⟩

/- Opening again keeps the offset, and gives a stream unless it fails. -/
theorem reset_spec
    {r : Reader σ}
    (hT : Tracks S r) :
    Tracks S r.reset.2 ∧ SameSetup r r.reset.2 ∧
      r.reset.2.offset = r.offset ∧ r.reset.2.atEnd = r.atEnd ∧
      (r.reset.1 = none → r.reset.2.stream ≠ none) := by
  rcases hOpen : ByteSource.openAt r.source r.offset with ⟨res, src⟩
  have hInv : S.inv src := by
    simpa [hOpen] using S.openAt_inv r.source r.offset hT.source_inv
  cases res with
  | error f =>
    simp only [reset, drop, hOpen]
    exact ⟨⟨hT.lineStart, by simp, hT.atEnd_offset, hInv⟩, ⟨rfl, rfl, rfl, rfl⟩, by simp,
      by simp, by simp⟩
  | ok st =>
    have hRest : st.rest = C.drop r.offset :=
      S.openAt_rest r.source r.offset st hT.source_inv (by simp [hOpen])
    have hTracks : Tracks S { r with stream := some st, source := src } :=
      ⟨hT.lineStart, by simp [hRest], hT.atEnd_offset, hInv⟩
    simp only [reset, drop, hOpen]
    split
    · exact ⟨hTracks.log _ _ _, ⟨rfl, rfl, rfl, rfl⟩, rfl, rfl, by simp [log]⟩
    · exact ⟨hTracks, ⟨rfl, rfl, rfl, rfl⟩, rfl, rfl, by simp⟩

/-
  The next chunk agrees with the content at the offset, and whatever
  stream is left holds the content from the end of the chunk on.
-/
theorem nextChunk_spec
    {r : Reader σ}
    (hT : Tracks S r) :
    ChunkFits C r.offset r.nextChunk.1 ∧
      (∀ s, r.nextChunk.2.stream = some s →
        s.rest = C.drop (r.offset + r.nextChunk.1.size)) ∧
      SameSetup r r.nextChunk.2 ∧ r.nextChunk.2.offset = r.offset ∧
      r.nextChunk.2.atEnd = r.atEnd ∧ S.inv r.nextChunk.2.source := by
  unfold nextChunk
  split
  · rename_i s hs
    obtain ⟨hFits, hAfter⟩ := Stream.next_fits s (hT.stream_rest s hs)
    rcases hNext : s.next with ⟨c, s'⟩
    rw [hNext] at hFits hAfter
    dsimp only at hFits hAfter ⊢
    exact ⟨hFits, by simp [hAfter], ⟨rfl, rfl, rfl, rfl⟩, rfl, rfl, hT.source_inv⟩
  · obtain ⟨hT', hSame, hOff, hEnd, hStream⟩ := reset_spec hT
    split
    · rename_i f r' hReset
      rw [hReset] at hT' hSame hOff hEnd
      dsimp only at hT' hSame hOff hEnd
      refine ⟨trivial, ?_, hSame, hOff, hEnd, hT'.source_inv⟩
      intro s hs
      simpa [Chunk.size, hOff] using hT'.stream_rest s hs
    · rename_i r' hReset
      rw [hReset] at hT' hSame hOff hEnd hStream
      dsimp only at hT' hSame hOff hEnd hStream
      split
      · rename_i s hs
        obtain ⟨hFits, hAfter⟩ := Stream.next_fits s (hT'.stream_rest s hs)
        rcases hNext : s.next with ⟨c, s'⟩
        rw [hNext, hOff] at hFits hAfter
        dsimp only at hFits hAfter ⊢
        exact ⟨hFits, by simp [hAfter],
          ⟨hSame.charset, hSame.ignoreEmpty, hSame.parser, hSame.retries⟩, hOff, hEnd,
          hT'.source_inv⟩
      · rename_i hNone
        exact absurd hNone (hStream rfl)

end Chunks

------------------------------------------------------------
-- Reading One Raw Line
------------------------------------------------------------

/-
  What reading one raw line from offset `n` did, with `view` applied to
  the line read: it read the next raw line `b` and moved past it, found
  the end, or failed and left the offset where it was.
-/
def RawOutcome
    (C : Bytes)
    (n : Nat)
    (view : Bytes → Bytes)
    (r' : Reader σ) : RawRead → Prop
  | .line t =>
    ∃ b, t = view b ∧ rawLines b = [b] ∧ b ≠ [] ∧
      C.drop n = b ++ C.drop r'.offset ∧ r'.offset = n + b.length
  | .finished => n = C.length ∧ r'.offset = n
  | .failed _ => r'.offset = n ∧ r'.stream = none ∧ r'.atEnd = false

section Raw

variable {S : Serves σ C}

/-
  One try and its retries. Each failed try drops the stream and the next
  one opens the source again at the same offset; the tries left always
  cover the retries still allowed, so the tries never run out before a
  read succeeds, finds the end, or fails for good.
-/
theorem attempt_spec
    {r : Reader σ}
    {start tries fuel : Nat}
    (hT : Tracks S r)
    (hStart : r.offset = start)
    (hEnd : r.atEnd = false)
    (hFuel : tries + fuel = r.retries + 2)
    (hPos : 0 < fuel) :
    Tracks S (attempt start tries fuel r).2 ∧
      SameSetup r (attempt start tries fuel r).2 ∧
      RawOutcome C start trimEol (attempt start tries fuel r).2
        (attempt start tries fuel r).1 := by
  induction fuel generalizing tries r with
  | zero => omega
  | succ fuel ih =>
    subst hStart
    obtain ⟨hFits, hAfter, hSame, hOff, hEndSame, hInv⟩ := nextChunk_spec hT
    simp only [attempt]
    rcases hc : r.nextChunk with ⟨c, r'⟩
    rw [hc] at hFits hAfter hSame hOff hEndSame hInv
    dsimp only at hFits hAfter hSame hOff hEndSame hInv
    have hSame' (r'' : Reader σ) (h : SameSetup r' r'') : SameSetup r r'' := hSame.trans h
    rcases c with b | b | f
    · dsimp only
      obtain ⟨hLast, hOne, hDrop⟩ := hFits
      have hNe : b ≠ [] := by
        rintro rfl
        simp at hLast
      refine ⟨⟨hT.lineStart.advance hDrop (.inl hLast), hAfter, ?_, hInv⟩,
        hSame' _ ⟨rfl, rfl, rfl, rfl⟩, ⟨b, rfl, hOne, hNe, hDrop, rfl⟩⟩
      intro h
      simp [hEndSame, hEnd] at h
    · rcases b with _ | ⟨x, xs⟩
      · dsimp only
        have hAtEnd : r.offset = C.length := by
          have hLe := hT.lineStart.1
          have := congrArg List.length hFits.1
          simp at this
          omega
        refine ⟨⟨by rw [hOff]; exact hT.lineStart, ?_, fun _ => by simp [hOff, hAtEnd], hInv⟩,
          hSame' _ ⟨rfl, rfl, rfl, rfl⟩, ⟨hAtEnd, hOff⟩⟩
        intro s hs
        simpa [hOff, Chunk.size] using hAfter s hs
      · dsimp only
        obtain ⟨hDrop, hLf⟩ := hFits
        have hLen : r.offset + (x :: xs).length = C.length := by
          have hLe := hT.lineStart.1
          have := congrArg List.length hDrop
          simp at this
          simp
          omega
        have hDrop' : C.drop r.offset = (x :: xs) ++ [] := by simpa using hDrop
        refine ⟨⟨hT.lineStart.advance hDrop' (.inr rfl), hAfter,
            fun _ => hLen, hInv⟩, hSame' _ ⟨rfl, rfl, rfl, rfl⟩,
          ⟨x :: xs, rfl, rawLines_of_lf_not_mem hLf (by simp), by simp, ?_, rfl⟩⟩
        rw [hLen]
        simp [hDrop]
    · dsimp only
      have hRetries : r'.retries = r.retries := hSame.retries
      split
      · dsimp only [drop, log]
        refine ⟨⟨by rw [hOff]; exact hT.lineStart, by simp, ?_, hInv⟩,
          hSame' _ ⟨rfl, rfl, rfl, rfl⟩, ⟨hOff, rfl, by simp [hEndSame, hEnd]⟩⟩
        intro h
        simp [hEndSame, hEnd] at h
      · rename_i hRetry
        have hTries : tries ≤ r'.retries := by
          simp only [Bool.or_eq_true, decide_eq_true_eq, not_or] at hRetry
          omega
        have hT' : Tracks S (r'.log .warn "will retry reading"
            [("try", toString (tries + 1)), ("retries", toString r'.retries),
              ("offset", toString r.offset), ("delay", Duration.compact r'.delay),
              ("error", failureText f)]).drop :=
          ⟨by rw [drop, log, hOff]; exact hT.lineStart, by simp [drop], by
            simp [drop, log, hEndSame, hEnd], hInv⟩
        obtain ⟨hT'', hSame'', hOut⟩ := @ih _ (tries + 1) hT' (by simp [drop, log, hOff])
          (by simp [drop, log, hEndSame, hEnd])
          (by simp only [drop, log]; omega) (by omega)
        exact ⟨hT'', hSame' _ ((sameSetup_log r' _ _ _).trans
          ((sameSetup_drop _).trans hSame'')), hOut⟩

/- Reading a raw line: the end flag stops reading at once. -/
theorem readRaw_spec
    {r : Reader σ}
    (hT : Tracks S r) :
    Tracks S r.readRaw.2 ∧ SameSetup r r.readRaw.2 ∧
      RawOutcome C r.offset trimEol r.readRaw.2 r.readRaw.1 := by
  unfold readRaw
  split
  · rename_i hEnd
    exact ⟨hT, SameSetup.rfl' r, hT.atEnd_offset hEnd, rfl⟩
  · rename_i hEnd
    exact attempt_spec hT rfl (by simpa using hEnd) (by omega) (by omega)

/- Reading a raw line and decoding it. -/
theorem readOneLine_spec
    {r : Reader σ}
    (hT : Tracks S r) :
    Tracks S r.readOneLine.2 ∧ SameSetup r r.readOneLine.2 ∧
      RawOutcome C r.offset (fun b => r.charset.decode (trimEol b)) r.readOneLine.2
        r.readOneLine.1 := by
  obtain ⟨hT', hSame, hOut⟩ := readRaw_spec hT
  unfold readOneLine
  rcases hRaw : r.readRaw with ⟨res, r'⟩
  rw [hRaw] at hT' hSame hOut
  dsimp only at hT' hSame hOut
  cases res with
  | line t =>
    obtain ⟨b, rfl, hOne, hNe, hDrop, hOff⟩ := hOut
    exact ⟨⟨hT'.1, hT'.2, hT'.3, hT'.4⟩,
      ⟨hSame.charset, hSame.ignoreEmpty, hSame.parser, hSame.retries⟩,
      ⟨b, by rw [hSame.charset], hOne, hNe, hDrop, hOff⟩⟩
  | finished => exact ⟨hT', hSame, hOut⟩
  | failed e => exact ⟨hT', hSame, hOut⟩

end Raw

------------------------------------------------------------
-- Accepted Lines Before the Offset
------------------------------------------------------------

/- The accepted lines of the raw lines of `C` before offset `n`. -/
def acceptedBefore
    (r : Reader σ)
    (C : Bytes)
    (n : Nat) : List Line :=
  (rawLines (C.take n)).filterMap r.accepted

omit [ByteSource σ] in
theorem SameSetup.acceptedBefore_eq
    {r r' : Reader σ}
    (h : SameSetup r r') :
    r'.acceptedBefore = r.acceptedBefore := by
  funext C n
  simp [acceptedBefore, h.accepted_eq]

omit [ByteSource σ] in
theorem acceptedBefore_zero (r : Reader σ) (C : Bytes) : r.acceptedBefore C 0 = [] := by
  simp [acceptedBefore]

omit [ByteSource σ] in
/- At the end of the content, every accepted line comes before the offset. -/
theorem acceptedBefore_length (r : Reader σ) (C : Bytes) :
    r.acceptedBefore C C.length = (rawLines C).filterMap r.accepted := by
  simp [acceptedBefore]

omit [ByteSource σ] in
/- The accepted lines before a line start are the first accepted lines of the content. -/
theorem acceptedBefore_prefix
    (r : Reader σ)
    {C : Bytes}
    {n : Nat}
    (h : LineStart C n) :
    r.acceptedBefore C n <+: (rawLines C).filterMap r.accepted := by
  rw [h.split, List.filterMap_append]
  exact List.prefix_append _ _

/-
  Reading the next raw line from a line start adds its accepted line, if
  it has one, to those before the offset.
-/
omit [ByteSource σ] in
theorem acceptedBefore_advance
    (r : Reader σ)
    {C b X : Bytes}
    {n : Nat}
    (h : LineStart C n)
    (hOne : rawLines b = [b])
    (hDrop : C.drop n = b ++ X)
    (hNe : b ≠ []) :
    r.acceptedBefore C (n + b.length) = r.acceptedBefore C n ++ (r.accepted b).toList := by
  simp only [acceptedBefore, h.take_add hOne hDrop hNe, List.filterMap_append,
    List.filterMap_cons, List.filterMap_nil]
  cases r.accepted b <;> rfl

/- A raw line is accepted when it is not skipped and it parses. -/
omit [ByteSource σ] in
theorem accepted_eq
    (r : Reader σ)
    (b : Bytes) :
    r.accepted b =
      if r.skips (r.charset.decode (trimEol b)) then none
      else (r.parser.parse (r.charset.decode (trimEol b))).toOption := by
  simp only [accepted, item, lineItem, skips]
  by_cases hSkip : (r.ignoreEmpty && Blank.isBlankLine (r.charset.decode (trimEol b))) = true
  · simp [hSkip, Item.line?]
  · rcases hParse : r.parser.parse (r.charset.decode (trimEol b)) with f | l <;>
      simp [hSkip, Item.line?, Except.toOption]

------------------------------------------------------------
-- Sections and Single Lines
------------------------------------------------------------

/- The lines a request for a section hands out. -/
def sectionLines : Except Error Section → List Line
  | .ok sec => sec.lines.toList
  | .error _ => []

/- The line a request for one line hands out. -/
def lineHanded : Except Error (Option Line) → List Line
  | .ok (some l) => [l]
  | _ => []

section Requests

variable {S : Serves σ C}

/-
  Filling a section from the line start `start`: the lines gathered so
  far are the accepted lines read since `start`. A full or finished
  section hands them out and keeps the offset past them; a failure gives
  them back, and the offset returns to `start`. A blank line is skipped,
  and a line the parser refuses is rejected.
-/
theorem fill_spec
    {r : Reader σ}
    {sec : Section}
    {start fuel : Nat}
    (hT : Tracks S r)
    (hStart : LineStart C start)
    (hSec : r.acceptedBefore C start ++ sec.lines.toList = r.acceptedBefore C r.offset) :
    Tracks S (fill start fuel sec r).2 ∧ SameSetup r (fill start fuel sec r).2 ∧
      r.acceptedBefore C start ++ sectionLines (fill start fuel sec r).1 =
        r.acceptedBefore C (fill start fuel sec r).2.offset := by
  induction fuel generalizing sec r with
  | zero => exact ⟨hT, SameSetup.rfl' r, hSec⟩
  | succ fuel ih =>
    unfold fill
    split
    · exact ⟨hT, SameSetup.rfl' r, hSec⟩
    · obtain ⟨hT', hSame, hOut⟩ := readOneLine_spec hT
      rcases hRead : r.readOneLine with ⟨res, r'⟩
      rw [hRead] at hT' hSame hOut
      dsimp only at hT' hSame hOut
      have hAcc := hSame.acceptedBefore_eq
      cases res with
      | failed e =>
        obtain ⟨-, -, hEnd⟩ := hOut
        dsimp only
        refine ⟨⟨hStart, by simp [drop], by simp [drop, hEnd], hT'.source_inv⟩,
          ⟨hSame.charset, hSame.ignoreEmpty, hSame.parser, hSame.retries⟩, ?_⟩
        simp [sectionLines]
      | finished =>
        obtain ⟨-, hOff⟩ := hOut
        dsimp only
        exact ⟨hT', hSame, by simpa [sectionLines, hOff] using hSec⟩
      | line t =>
        obtain ⟨b, rfl, hOne, hNe, hDrop, hOff⟩ := hOut
        have hMore : r.acceptedBefore C r'.offset =
            r.acceptedBefore C r.offset ++ (r.accepted b).toList := by
          rw [hOff]
          exact acceptedBefore_advance r hT.lineStart hOne (hOff ▸ hDrop) hNe
        have hStep (sec' : Section)
            (hLines : sec'.lines.toList = sec.lines.toList ++ (r.accepted b).toList) :
            Tracks S (fill start fuel sec' r').2 ∧ SameSetup r (fill start fuel sec' r').2 ∧
              r.acceptedBefore C start ++ sectionLines (fill start fuel sec' r').1 =
                r.acceptedBefore C (fill start fuel sec' r').2.offset := by
          obtain ⟨hT'', hSame'', hEq⟩ := @ih r' sec' hT'
            (by rw [hAcc, hLines, hMore, ← hSec, List.append_assoc])
          exact ⟨hT'', hSame.trans hSame'', by rwa [hAcc] at hEq⟩
        dsimp only
        split
        · rename_i hSkip
          apply hStep sec
          rw [accepted_eq, ← hSame.skips_eq, hSkip]
          simp
        · rename_i hSkip
          split
          · rename_i f hParse
            apply hStep _
            rw [accepted_eq, ← hSame.skips_eq, if_neg hSkip, ← hSame.parser, hParse]
            simp [Except.toOption]
          · rename_i l hParse
            apply hStep _
            rw [accepted_eq, ← hSame.skips_eq, if_neg hSkip, ← hSame.parser, hParse]
            simp [Except.toOption]

/-
  Reading single lines: blank lines are passed over, and the first line
  that is not is handed out, or refused with an error after the offset
  moved past it.
-/
theorem nextLine_spec
    {r : Reader σ}
    {fuel : Nat}
    (hT : Tracks S r) :
    Tracks S (nextLine fuel r).2 ∧ SameSetup r (nextLine fuel r).2 ∧
      r.acceptedBefore C r.offset ++ lineHanded (nextLine fuel r).1 =
        r.acceptedBefore C (nextLine fuel r).2.offset := by
  induction fuel generalizing r with
  | zero => exact ⟨hT, SameSetup.rfl' r, by simp [nextLine, lineHanded]⟩
  | succ fuel ih =>
    unfold nextLine
    obtain ⟨hT', hSame, hOut⟩ := readOneLine_spec hT
    rcases hRead : r.readOneLine with ⟨res, r'⟩
    rw [hRead] at hT' hSame hOut
    dsimp only at hT' hSame hOut
    have hAcc := hSame.acceptedBefore_eq
    cases res with
    | failed e =>
      obtain ⟨hOff, -, -⟩ := hOut
      exact ⟨hT', hSame, by simp [lineHanded, hOff]⟩
    | finished =>
      obtain ⟨-, hOff⟩ := hOut
      exact ⟨hT', hSame, by simp [lineHanded, hOff]⟩
    | line t =>
      obtain ⟨b, rfl, hOne, hNe, hDrop, hOff⟩ := hOut
      have hMore : r.acceptedBefore C r'.offset =
          r.acceptedBefore C r.offset ++ (r.accepted b).toList := by
        rw [hOff]
        exact acceptedBefore_advance r hT.lineStart hOne (hOff ▸ hDrop) hNe
      dsimp only
      split
      · rename_i hSkip
        obtain ⟨hT'', hSame'', hEq⟩ := ih hT'
        refine ⟨hT'', hSame.trans hSame'', ?_⟩
        rw [hAcc] at hEq
        rw [← hEq, hMore, accepted_eq, ← hSame.skips_eq, hSkip]
        simp
      · rename_i hSkip
        split
        · rename_i f hParse
          refine ⟨hT', hSame, ?_⟩
          rw [hMore, accepted_eq, ← hSame.skips_eq, if_neg hSkip, ← hSame.parser, hParse]
          simp [lineHanded, Except.toOption]
        · rename_i l hParse
          refine ⟨hT', hSame, ?_⟩
          rw [hMore, accepted_eq, ← hSame.skips_eq, if_neg hSkip, ← hSame.parser, hParse]
          simp [lineHanded, Except.toOption]

/- A request for a section, on an open reader or a closed one. -/
theorem readSection_spec
    {r : Reader σ}
    (hT : Tracks S r) :
    Tracks S r.readSection.2 ∧ SameSetup r r.readSection.2 ∧
      r.acceptedBefore C r.offset ++ sectionLines r.readSection.1 =
        r.acceptedBefore C r.readSection.2.offset := by
  unfold readSection
  split
  · exact ⟨hT, SameSetup.rfl' r, by simp [sectionLines]⟩
  · exact fill_spec hT hT.lineStart (by simp)

omit [ByteSource σ] in
/- A raw read never moves the offset back. -/
theorem RawOutcome.le_offset
    {n : Nat}
    {view : Bytes → Bytes}
    {r' : Reader σ}
    {res : RawRead}
    (h : RawOutcome C n view r' res) :
    n ≤ r'.offset := by
  cases res with
  | line t =>
    obtain ⟨b, -, -, -, -, hOff⟩ := h
    omega
  | finished => exact Nat.le_of_eq h.2.symm
  | failed e => exact Nat.le_of_eq h.1.symm

/-
  Filling a section never leaves the offset before its start, and a
  section marked last ends at the end of the content: only finding the
  end marks it.
-/
theorem fill_progress
    {r : Reader σ}
    {sec : Section}
    {start fuel : Nat}
    (hT : Tracks S r)
    (hStart : start ≤ r.offset)
    (hLast : sec.last = false) :
    start ≤ (fill start fuel sec r).2.offset ∧
      ∀ sec', (fill start fuel sec r).1 = .ok sec' → sec'.last = true →
        (fill start fuel sec r).2.offset = C.length := by
  induction fuel generalizing sec r with
  | zero =>
    refine ⟨hStart, fun sec' h hl => ?_⟩
    simp only [fill, Except.ok.injEq] at h
    simp [← h, hLast] at hl
  | succ fuel ih =>
    unfold fill
    split
    · refine ⟨hStart, fun sec' h hl => ?_⟩
      simp only [Except.ok.injEq] at h
      simp [← h, hLast] at hl
    · obtain ⟨hT', -, hOut⟩ := readOneLine_spec hT
      rcases hRead : r.readOneLine with ⟨res, r'⟩
      rw [hRead] at hT' hOut
      dsimp only at hT' hOut
      have hLe : start ≤ r'.offset := Nat.le_trans hStart hOut.le_offset
      cases res with
      | failed e => exact ⟨Nat.le_refl _, fun sec' h => by simp at h⟩
      | finished =>
        obtain ⟨hEnd, hOff⟩ := hOut
        exact ⟨hLe, fun _ _ _ => hOff.trans hEnd⟩
      | line t =>
        dsimp only
        split
        · exact ih hT' hLe hLast
        · split
          · exact ih hT' hLe hLast
          · exact ih hT' hLe hLast

/-
  A request for a section never moves the offset back, and a section
  marked last leaves the reader at the end of the content.
-/
theorem readSection_progress
    {r : Reader σ}
    (hT : Tracks S r) :
    r.offset ≤ r.readSection.2.offset ∧
      ∀ sec, r.readSection.1 = .ok sec → sec.last = true →
        r.readSection.2.offset = C.length := by
  unfold readSection
  split
  · exact ⟨Nat.le_refl _, fun sec h => by simp at h⟩
  · exact fill_progress hT (Nat.le_refl _) rfl

/- A request for one line, on an open reader or a closed one. -/
theorem readLine_spec
    {r : Reader σ}
    (hT : Tracks S r) :
    Tracks S r.readLine.2 ∧ SameSetup r r.readLine.2 ∧
      r.acceptedBefore C r.offset ++ lineHanded r.readLine.1 =
        r.acceptedBefore C r.readLine.2.offset := by
  unfold readLine
  split
  · exact ⟨hT, SameSetup.rfl' r, by simp [lineHanded]⟩
  · exact nextLine_spec hT

/- Closing drops the stream and keeps the offset. -/
theorem close_spec
    {r : Reader σ}
    (hT : Tracks S r) :
    Tracks S r.close.2 ∧ SameSetup r r.close.2 ∧ r.close.2.offset = r.offset := by
  rw [close_snd]
  split
  · exact ⟨hT, SameSetup.rfl' r, rfl⟩
  · have hInv : S.inv (ByteSource.close r.source).2 := S.close_inv r.source hT.source_inv
    exact ⟨⟨hT.lineStart, by simp, hT.atEnd_offset, hInv⟩, ⟨rfl, rfl, rfl, rfl⟩, rfl⟩

/- Opening a fresh reader at offset 0. -/
theorem reset_fresh
    {r₀ r₁ : Reader σ}
    {res : Option Failure}
    (hReset : r₀.reset = (res, r₁))
    (hOff : r₀.offset = 0)
    (hStream : r₀.stream = none)
    (hEnd : r₀.atEnd = false)
    (hSrc : S.inv r₀.source) :
    Tracks S r₁ ∧ SameSetup r₀ r₁ ∧ r₁.offset = 0 := by
  have hT₀ : Tracks S r₀ :=
    ⟨hOff ▸ lineStart_zero C, by simp [hStream], by simp [hEnd], hSrc⟩
  obtain ⟨hT, hSame, hOff', -, -⟩ := reset_spec hT₀
  rw [hReset] at hT hSame hOff'
  exact ⟨hT, hSame, hOff'.trans hOff⟩

/-
  A reader set up on a source that starts out serving the content tracks
  it: it opened the source at offset 0, and its setup is the one the
  options ask for.
-/
theorem open_spec
    {src src' : σ}
    {opts : ReaderOptions}
    {r : Reader σ}
    (hSrc : S.inv src)
    (hOpen : Reader.open src opts = (.ok r, src')) :
    Tracks S r ∧ r.offset = 0 ∧ r.ignoreEmpty = opts.ignoreEmpty ∧
      r.parser = opts.parser ∧ Charset.lookup opts.encoding = .ok r.charset := by
  unfold Reader.open at hOpen
  split at hOpen
  · simp at hOpen
  · split at hOpen
    · simp at hOpen
    · rename_i cs hLookup
      dsimp only at hOpen
      split at hOpen
      · simp at hOpen
      · rename_i r₁ hReset
        obtain ⟨hT, hSame, hOff⟩ := reset_fresh hReset rfl rfl rfl hSrc
        simp only [Prod.mk.injEq, Except.ok.injEq] at hOpen
        obtain ⟨rfl, -⟩ := hOpen
        exact ⟨(hT.log _ _ _).log _ _ _, hOff, hSame.ignoreEmpty, hSame.parser,
          by simp [log, hLookup, hSame.charset]⟩

end Requests

------------------------------------------------------------
-- Sessions
------------------------------------------------------------

/- A request a client makes of a reader. -/
inductive Call where
  | readSection
  | readLine
  | close

/- Makes a request, giving the lines it handed out. -/
def call (r : Reader σ) : Call → List Line × Reader σ
  | .readSection => (sectionLines r.readSection.1, r.readSection.2)
  | .readLine => (lineHanded r.readLine.1, r.readLine.2)
  | .close => ([], r.close.2)

/- Makes requests in turn, giving every line they handed out, in order. -/
def session (r : Reader σ) : List Call → List Line × Reader σ
  | [] => ([], r)
  | c :: cs =>
    let now := r.call c
    let later := now.2.session cs
    (now.1 ++ later.1, later.2)

section Sessions

variable {S : Serves σ C}

theorem call_spec
    {r : Reader σ}
    (hT : Tracks S r)
    (c : Call) :
    Tracks S (r.call c).2 ∧ SameSetup r (r.call c).2 ∧
      r.acceptedBefore C r.offset ++ (r.call c).1 =
        r.acceptedBefore C (r.call c).2.offset := by
  cases c with
  | readSection => exact readSection_spec hT
  | readLine => exact readLine_spec hT
  | close =>
    obtain ⟨hT', hSame, hOff⟩ := close_spec hT
    exact ⟨hT', hSame, by simp [call, hOff]⟩

/-
  Every session keeps the reader tracking the content, and extends the
  accepted lines before the offset by exactly the lines it handed out.
-/
theorem session_spec
    {r : Reader σ}
    (hT : Tracks S r)
    (calls : List Call) :
    Tracks S (r.session calls).2 ∧ SameSetup r (r.session calls).2 ∧
      r.acceptedBefore C r.offset ++ (r.session calls).1 =
        r.acceptedBefore C (r.session calls).2.offset := by
  induction calls generalizing r with
  | nil => exact ⟨hT, SameSetup.rfl' r, by simp [session]⟩
  | cons c cs ih =>
    obtain ⟨hT', hSame, hNow⟩ := call_spec hT c
    obtain ⟨hT'', hSame'', hLater⟩ := ih hT'
    refine ⟨hT'', hSame.trans hSame'', ?_⟩
    rw [hSame.acceptedBefore_eq] at hLater
    simp only [session]
    rw [← List.append_assoc, hNow, hLater]

end Sessions

------------------------------------------------------------
-- No Line Lost, None Repeated
------------------------------------------------------------

/-
  Whatever the faults, after any requests the offset of a reader is the
  end of the first `j` raw lines of the content, for some `j`, and the
  lines handed out by the requests that succeeded are, in order, exactly
  the accepted lines among those `j` raw lines: none is lost and none is
  handed out twice. The items are those of the options' setup; the
  encoding is the one the reader looked up (`open_spec`).
-/
theorem session_hands_out_accepted_prefix
    (S : Serves σ C)
    (src : σ)
    (opts : ReaderOptions)
    {r : Reader σ}
    {src' : σ}
    (hSrc : S.inv src)
    (hOpen : Reader.open src opts = (.ok r, src'))
    (calls : List Call) :
    ∃ j, (r.session calls).2.offset = ((rawLines C).take j).flatten.length ∧
      (r.session calls).1 = ((rawLines C).take j).filterMap fun raw =>
        (lineItem r.charset opts.ignoreEmpty opts.parser raw).line? := by
  obtain ⟨hT, hOff, hIgnore, hParser, -⟩ := open_spec hSrc hOpen
  obtain ⟨hT', -, hLines⟩ := session_spec hT calls
  obtain ⟨hTake, hLen⟩ := hT'.lineStart.eq_flatten_take
  refine ⟨(rawLines (C.take (r.session calls).2.offset)).length, by rw [hTake, hLen], ?_⟩
  have hAccepted :
      (fun raw => (lineItem r.charset r.ignoreEmpty r.parser raw).line?) = r.accepted := rfl
  rw [hTake, ← hIgnore, ← hParser, hAccepted]
  simpa [hOff, acceptedBefore_zero, acceptedBefore] using hLines

end Reader

------------------------------------------------------------
-- Scripted Sources Serve Their Object
------------------------------------------------------------

namespace BlobSource

/- Opening leaves the bucket and the key as they were. -/
theorem openAt_bucket
    (s : BlobSource)
    (n : Nat) :
    (s.openAt n).2.bucket = s.bucket ∧ (s.openAt n).2.key = s.key := by
  unfold openAt openBlob
  split
  · simp
  · split
    · split
      · simp
      · split <;> simp
    · split <;> simp

/- A stream opened on a found object holds its bytes from the offset on. -/
theorem openAt_rest
    {s : BlobSource}
    {b : Blob}
    {n : Nat}
    {st : Stream}
    (hGet : s.bucket.get? s.key = some b)
    (hOk : (s.openAt n).1 = .ok st) :
    st.rest = b.data.drop n := by
  unfold openAt openBlob at hOk
  rw [hGet] at hOk
  dsimp only at hOk
  split at hOk
  · split at hOk
    · simp at hOk
    · split at hOk
      · simp at hOk
      · simp only [Except.ok.injEq] at hOk
        rw [← hOk]
        rfl
  · split at hOk
    · simp at hOk
    · simp only [Except.ok.injEq] at hOk
      rw [← hOk]
      rfl

end BlobSource

namespace ScriptedSource

/-
  Opening a scripted source opens its blob source or reports a scripted
  fault; a stream it gives is the blob's, perhaps with a budget.
-/
theorem openAt_inner
    (s : ScriptedSource)
    (n : Nat) :
    ((s.openAt n).2.inner = s.inner ∨ (s.openAt n).2.inner = (s.inner.openAt n).2) ∧
      ∀ st, (s.openAt n).1 = .ok st →
        ∃ st₀, (s.inner.openAt n).1 = .ok st₀ ∧ st.rest = st₀.rest := by
  unfold openAt
  dsimp only
  split
  · exact ⟨.inl rfl, by simp⟩
  · rcases hOpen : s.inner.openAt n with ⟨res, inner⟩
    dsimp only
    cases res with
    | error e => exact ⟨.inr rfl, by simp⟩
    | ok st₀ =>
      dsimp only
      split
      · exact ⟨.inr rfl, by simp⟩
      · exact ⟨.inr rfl, by simp⟩

/- A scripted source whose object holds `C` serves `C`, whatever its script. -/
def serves (C : Bytes) : Serves ScriptedSource C where
  inv s := ∃ b, s.inner.bucket.get? s.inner.key = some b ∧ b.data = C
  openAt_inv s n := by
    rintro ⟨b, hGet, hData⟩
    refine ⟨b, ?_, hData⟩
    show (s.openAt n).2.inner.bucket.get? (s.openAt n).2.inner.key = some b
    rcases (openAt_inner s n).1 with hSame | hOpened
    · rw [hSame, hGet]
    · rw [hOpened, (s.inner.openAt_bucket n).1, (s.inner.openAt_bucket n).2, hGet]
  openAt_rest s n st := by
    rintro ⟨b, hGet, rfl⟩ hOk
    obtain ⟨st₀, hOk₀, hRest⟩ := (openAt_inner s n).2 st hOk
    rw [hRest, BlobSource.openAt_rest hGet hOk₀]
  close_inv _ h := h

end ScriptedSource

namespace Reader

/-
  Two lines read in sections of one line, through a source that gives a
  stream failing after two octets, then refuses to open once, and then
  opens normally: the second section fails after its retry, and the
  third one hands out the second line.
-/
theorem session_hands_out_accepted_prefix_flaky :
    (ScriptedSource.serves [97, 10, 98, 10]).inv
        ⟨BlobSource.make (Bucket.empty.put "input.txt" [97, 10, 98, 10]) "input.txt",
          { openErrors := [none, some .other], flakyOpens := 1, flakyAfter := 2 }, []⟩ ∧
      ∃ r src', Reader.open
          (⟨BlobSource.make (Bucket.empty.put "input.txt" [97, 10, 98, 10]) "input.txt",
            { openErrors := [none, some .other], flakyOpens := 1, flakyAfter := 2 }, []⟩ :
            ScriptedSource)
          { sectionSize := 1, parser := ⟨fun raw => .ok ⟨raw, "", [raw]⟩⟩ } = (.ok r, src') ∧
        ∃ j, (r.session [.readSection, .readSection, .readSection]).2.offset =
            ((rawLines [97, 10, 98, 10]).take j).flatten.length ∧
          (r.session [.readSection, .readSection, .readSection]).1 =
            ((rawLines [97, 10, 98, 10]).take j).filterMap fun raw =>
              (lineItem r.charset true ⟨fun raw => .ok ⟨raw, "", [raw]⟩⟩ raw).line? := by
  have hInv : (ScriptedSource.serves [97, 10, 98, 10]).inv
      ⟨BlobSource.make (Bucket.empty.put "input.txt" [97, 10, 98, 10]) "input.txt",
        { openErrors := [none, some .other], flakyOpens := 1, flakyAfter := 2 }, []⟩ :=
    ⟨_, Bucket.get?_put_self _ _ _, rfl⟩
  exact ⟨hInv, _, _, rfl,
    session_hands_out_accepted_prefix (ScriptedSource.serves [97, 10, 98, 10]) _
      { sectionSize := 1, parser := ⟨fun raw => .ok ⟨raw, "", [raw]⟩⟩ } hInv rfl _⟩

end Reader

end LineBatch
