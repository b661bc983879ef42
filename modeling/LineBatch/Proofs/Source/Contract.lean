import LineBatch.Proofs.Http.Contract
import LineBatch.Source.Blob

/-
  The contract of opening a source, met by a source on an object of a
  bucket and by a source over HTTP.

  A source on an object opens on the object's bytes from the offset on.
  It fails as a missing source exactly when the object is not there, as
  a changed one exactly when the object's stamp is not the one it kept,
  and as a truncated one exactly when the object is shorter than the
  offset; it keeps the stamp of the first object it opens, and keeps it
  whatever later happens to the object. At the object's size it opens
  on nothing.

  A source over HTTP meets the contract of `Http.Source.Contract` over
  every server. Over a server that tells the truth about what it holds,
  it opens on the bytes from the offset on, opens at the size on nothing
  by way of the refused GET and the HEAD after it, and fails as
  truncated exactly when the resource is shorter than the offset. Over a
  server whose HEAD reports more bytes than the offset its GET refused,
  it fails as truncated too.

  Main declarations:
    * `BlobSource.Contract`, `BlobSource.openAt_contract`, `BlobSource.seen_replay`
    * `Http.Origin`, `Http.Source.openAt_origin`
    * `sources_honour_the_open_contract`
-/

namespace LineBatch

------------------------------------------------------------
-- Sources on an Object
------------------------------------------------------------

namespace BlobSource

/- An object whose stamp is not the one the source kept. -/
def Stale (s : BlobSource) (b : Blob) : Prop := ∃ first, s.seen = some first ∧ b.stamp ≠ first

/- A source that kept no stamp, or the object's, keeps the object's. -/
theorem seen_or_of_fresh {s : BlobSource} {b : Blob} (hFresh : ¬s.Stale b) :
    s.seen.or (some b.stamp) = some b.stamp := by
  cases hSeen : s.seen with
  | none => rfl
  | some first =>
    have hSame : b.stamp = first := by
      by_contra hNe
      exact hFresh ⟨first, hSeen, hNe⟩
    simp [hSame]

/- What opening a source at `offset` may do: what it returns, and the stamp `seen` kept
after. -/
structure Contract (s : BlobSource) (offset : Nat) (res : Except Failure Stream)
    (seen : Option Nat) : Prop where
  stream : ∀ st, res = .ok st →
    ∃ b, s.bucket.get? s.key = some b ∧ st = Stream.ofBytes (b.data.drop offset)
  notFound : FailsWith res .sourceNotFound ↔ s.bucket.get? s.key = none
  changed : FailsWith res .sourceChanged ↔ ∃ b, s.bucket.get? s.key = some b ∧ s.Stale b
  /- The stamp of the first object opened is kept, and a kept stamp stays. -/
  pinned : seen = s.seen.or ((s.bucket.get? s.key).map (·.stamp))
  truncated : FailsWith res .sourceTruncated ↔
    ∃ b, s.bucket.get? s.key = some b ∧ ¬s.Stale b ∧ b.data.length < offset
  atSize : ∀ b, s.bucket.get? s.key = some b → ¬s.Stale b → offset = b.data.length →
    res = .ok (Stream.ofBytes [])

/- The ways an opening goes: the object is missing, or stale, or shorter than the offset,
or it opens on the bytes from the offset on; a found object that is not stale has its
stamp kept, before the size is checked, so either way. -/
theorem openAt_cases (s : BlobSource) (offset : Nat) :
    (s.bucket.get? s.key = none ∧ s.openAt offset = (.error s.notFound, s)) ∨
    (∃ b, s.bucket.get? s.key = some b ∧ s.Stale b ∧
      ∃ f, s.openAt offset = (.error f, s) ∧ ∀ k, f.has k = (k == .sourceChanged)) ∨
    (∃ b, s.bucket.get? s.key = some b ∧ ¬s.Stale b ∧ (s.openAt offset).2.seen = some b.stamp ∧
      ((b.data.length < offset ∧
          ∃ f, (s.openAt offset).1 = .error f ∧ ∀ k, f.has k = (k == .sourceTruncated)) ∨
        (offset ≤ b.data.length ∧
          (s.openAt offset).1 = .ok (Stream.ofBytes (b.data.drop offset))))) := by
  rcases hGet : s.bucket.get? s.key with _ | b
  · exact .inl ⟨rfl, by simp [openAt, hGet]⟩
  · by_cases hStale : s.Stale b
    · obtain ⟨first, hSeen, hNe⟩ := hStale
      refine .inr (.inl ⟨b, rfl, ⟨first, hSeen, hNe⟩, ?_⟩)
      unfold openAt
      rw [hGet, hSeen]
      dsimp only
      rw [if_pos hNe]
      exact ⟨_, rfl, fun k => rfl⟩
    · have hOpen : s.openAt offset = { s with seen := some b.stamp }.openBlob b offset := by
        have hKeep := seen_or_of_fresh hStale
        unfold openAt
        rw [hGet]
        cases hSeen : s.seen with
        | none => rfl
        | some first =>
          rw [hSeen] at hKeep
          cases hKeep
          simp only [ne_eq, not_true_eq_false, if_false]
          rw [← hSeen]
      refine .inr (.inr ⟨b, rfl, hStale, ?_, ?_⟩)
      · rw [hOpen]
        unfold openBlob
        split <;> rfl
      · rw [hOpen]
        unfold openBlob
        by_cases hShort : b.data.length < offset
        · rw [if_pos hShort]
          exact .inl ⟨hShort, _, rfl, fun k => rfl⟩
        · rw [if_neg hShort]
          exact .inr ⟨Nat.not_lt.1 hShort, rfl⟩

/- Every opening of a source on an object meets the contract. -/
theorem openAt_contract (s : BlobSource) (offset : Nat) :
    s.Contract offset (s.openAt offset).1 (s.openAt offset).2.seen := by
  rcases openAt_cases s offset with ⟨hGet, hOpen⟩ | ⟨b, hGet, hStale, f, hOpen, hHas⟩ |
    ⟨b, hGet, hFresh, hSeen, (⟨hShort, f, hRes, hHas⟩ | ⟨hWithin, hRes⟩)⟩
  · rw [hOpen]
    refine ⟨(fun _ h => by cases h), ?_, ?_, by simp [hGet], ?_, ?_⟩
    · simp [notFound, Failure.has, Cause.has, hGet]
    · simp [notFound, Failure.has, Cause.has, hGet]
    · simp [notFound, Failure.has, Cause.has, hGet]
    · intro b hGet'
      rw [hGet] at hGet'
      cases hGet'
  · obtain ⟨first, hSeen, hNe⟩ := hStale
    rw [hOpen]
    refine ⟨(fun _ h => by cases h), ?_, ?_, by simp [hGet, hSeen], ?_, ?_⟩
    · simp [hHas, hGet]
    · simp only [failsWith_error, hHas, beq_self_eq_true, true_iff]
      exact ⟨b, hGet, first, hSeen, hNe⟩
    · simp only [failsWith_error, hHas, reduceCtorEq, beq_iff_eq, false_iff]
      rintro ⟨b', hGet', hFresh, -⟩
      rw [hGet] at hGet'
      cases hGet'
      exact hFresh ⟨first, hSeen, hNe⟩
    · intro b' hGet' hFresh
      rw [hGet] at hGet'
      cases hGet'
      exact absurd ⟨first, hSeen, hNe⟩ hFresh
  · rw [hRes, hSeen]
    refine ⟨(fun _ h => by cases h), ?_, ?_, by simp [hGet, seen_or_of_fresh hFresh], ?_, ?_⟩
    · simp [hHas, hGet]
    · simp [hHas, hGet, hFresh]
    · simp only [failsWith_error, hHas, beq_self_eq_true, true_iff]
      exact ⟨b, hGet, hFresh, hShort⟩
    · intro b' hGet' _ hSize
      rw [hGet] at hGet'
      cases hGet'
      omega
  · rw [hRes, hSeen]
    refine ⟨?_, by simp [hGet], by simp [hGet, hFresh], by simp [hGet, seen_or_of_fresh hFresh],
      ?_, ?_⟩
    · rintro st ⟨⟩
      exact ⟨b, hGet, rfl⟩
    · simp only [failsWith_ok, false_iff]
      rintro ⟨b', hGet', -, hShort⟩
      rw [hGet] at hGet'
      cases hGet'
      omega
    · intro b' hGet' _ hSize
      rw [hGet] at hGet'
      cases hGet'
      simp [hSize]

------------------------------------------------------------
-- Histories of a Source on an Object
------------------------------------------------------------

/- What happens to a source: it is opened at an offset, or its object is rewritten or
deleted. -/
inductive Event where
  | opened (offset : Nat)
  | rewritten (data : Bytes)
  | deleted

/- A source after an event. -/
def Event.apply (s : BlobSource) : Event → BlobSource
  | .opened offset => (s.openAt offset).2
  | .rewritten data => s.rewrite data
  | .deleted => s.delete

/- A source after a history of events, the oldest first. -/
def replay (s : BlobSource) (events : List Event) : BlobSource := events.foldl Event.apply s

/- A kept stamp stays through every event. -/
theorem seen_apply {s : BlobSource} {first : Nat} (hSeen : s.seen = some first) (e : Event) :
    (Event.apply s e).seen = some first := by
  cases e with
  | opened offset =>
    rw [Event.apply, (openAt_contract s offset).pinned, hSeen]
    rfl
  | rewritten data => exact hSeen
  | deleted => exact hSeen

/- A kept stamp stays through every history, as each event keeps it. -/
theorem seen_replay {s : BlobSource} {first : Nat} (hSeen : s.seen = some first)
    (events : List Event) : (s.replay events).seen = some first := by
  induction events generalizing s with
  | nil => exact hSeen
  | cons e rest ih => exact ih (seen_apply hSeen e)

end BlobSource

------------------------------------------------------------
-- A Server that Tells the Truth
------------------------------------------------------------

namespace Http

/- A server that holds a resource and answers every request about it truthfully: a HEAD
with its size and tag, a GET from an offset inside it with the rest of it, and a GET from
its end or beyond with 416. -/
structure Origin where
  content : Bytes
  etag : String

instance : Server Origin where
  answer o req :=
    match req with
    | .head => (.response { status := 200, etag := o.etag, contentLength := o.content.length }, o)
    | .getFrom offset =>
      if offset < o.content.length then
        (.response { status := 206, etag := o.etag, body := Stream.ofBytes (o.content.drop offset) },
          o)
      else (.response { status := 416 }, o)
  bound o := o.content.length

/- What a server that tells the truth answers a GET. -/
theorem Origin.answer_getFrom (o : Origin) (offset : Nat) :
    Server.answer o (.getFrom offset) =
      if offset < o.content.length then
        (.response { status := 206, etag := o.etag, body := Stream.ofBytes (o.content.drop offset) },
          o)
      else (.response { status := 416 }, o) := rfl

/- What a server that tells the truth answers a HEAD. -/
theorem Origin.answer_head (o : Origin) :
    Server.answer o .head =
      (.response { status := 200, etag := o.etag, contentLength := o.content.length }, o) := rfl

variable {τ : Type} [Server τ]

/- A retry count that is not negative allows an attempt. -/
theorem Options.attempts_pos {o : Options} (h : 0 ≤ o.retryAttempts) : 0 < o.attempts := by
  unfold Options.attempts
  omega

/- A request whose first attempt is answered with a response not tried again settles on
it. -/
theorem send_of_answer {α : Type} {what : String} {o : Options} {req : Request}
    {settle : Response → Except Cause α} {srv srv' : τ} {r : Response} (hAttempts : 0 < o.attempts)
    (hAnswer : Server.answer srv req = (.response r, srv')) (hStatus : r.status < 500) :
    send what o req settle srv = (settle r, srv') := by
  obtain ⟨n, hn⟩ : ∃ n, o.attempts = n + 1 := ⟨o.attempts - 1, by omega⟩
  simp [send, hn, retry, hAnswer, Nat.not_le.2 hStatus]

namespace Source

/- An opening whose GET is refused as out of range and whose HEAD then succeeds with a
tag that agrees: it opens on nothing when the size the HEAD reports is the offset and fails
as truncated otherwise, and either way it keeps the tag and the server the HEAD left. -/
theorem openAt_of_refused_then_head {s : Source τ} {offset : Nat} {srv₁ srv₂ : τ} {h : Response}
    (hAttempts : 0 < s.options.attempts)
    (hGet : Server.answer s.server (.getFrom offset) = (.response { status := 416 }, srv₁))
    (hHead : Server.answer srv₁ .head = (.response h, srv₂)) (hOk : h.status = 200)
    (hAgree : ¬Conflicts s.etag (cleanETag h.etag)) :
    s.openAt offset =
      (if h.contentLength = offset then .ok (Stream.ofBytes [])
        else .error (s.truncated h.contentLength offset),
        { s with etag := pin s.etag (cleanETag h.etag), server := srv₂ }) := by
  unfold openAt getFrom
  rw [send_of_answer hAttempts hGet (by simp)]
  have hRange : (Cause.condition .rangeNotSatisfiable).has .rangeNotSatisfiable = true := rfl
  simp only [settleGet, show (416 : Nat) ≠ 206 by decide, show (416 : Nat) ≠ 200 by decide,
    if_false, if_true, hRange]
  unfold openAtEnd head
  rw [send_of_answer hAttempts hHead (by omega)]
  simp only [settleHead, checkStatus, checkETag_eq, hOk,
    show (200 : Nat) ≤ 200 ∧ 200 < 300 by decide, and_self, if_true]
  rw [if_neg hAgree]
  dsimp only
  by_cases hSize : h.contentLength = offset
  · simp [hSize]
  · simp [hSize, truncated]

/- Over a server that tells the truth, a source whose tag agrees opens on the bytes from
the offset on when the offset is within the resource, and fails as truncated when the
resource is shorter than the offset. At the size the GET is refused, and the HEAD after it
opens on nothing. -/
theorem openAt_origin (s : Source Origin) (offset : Nat) (hRetries : 0 ≤ s.options.retryAttempts)
    (hAgree : ¬Conflicts s.etag (cleanETag s.server.etag)) :
    (s.openAt offset).1 =
      if offset ≤ s.server.content.length then .ok (Stream.ofBytes (s.server.content.drop offset))
      else .error (s.truncated s.server.content.length offset) := by
  have hAnswer := Origin.answer_getFrom s.server offset
  by_cases hWithin : offset < s.server.content.length
  · rw [if_pos hWithin] at hAnswer
    unfold openAt getFrom
    rw [send_of_answer (Options.attempts_pos hRetries) hAnswer (by simp)]
    simp [settleGet, checkETag_eq, hAgree, Nat.le_of_lt hWithin]
  · rw [if_neg hWithin] at hAnswer
    rw [openAt_of_refused_then_head (Options.attempts_pos hRetries) hAnswer
      (Origin.answer_head s.server) rfl hAgree]
    by_cases hEnd : offset = s.server.content.length
    · subst hEnd
      simp
    · have hLen : (s.server.content.length : Int) ≠ offset := by omega
      have hBeyond : ¬offset ≤ s.server.content.length := by omega
      simp [hLen, hBeyond]

/- At its size or beyond, an opening over a server that tells the truth asks for the
range and, refused, for the metadata. -/
theorem openAt_origin_falls_back (s : Source Origin) (offset : Nat)
    (hRetries : 0 ≤ s.options.retryAttempts) (hAgree : ¬Conflicts s.etag (cleanETag s.server.etag))
    (hEnd : s.server.content.length ≤ offset) :
    (s.logged.openAt offset).2.server.log.map Prod.fst = [.getFrom offset, .head] := by
  have hGet : Server.answer s.logged.server (.getFrom offset) =
      (.response { status := 416 },
        ⟨s.server, [(.getFrom offset, .response { status := 416 })]⟩) := by
    simp only [logged, Logged.answer_eq, Origin.answer_getFrom, if_neg (Nat.not_lt.2 hEnd)]
    rfl
  have hHead := Logged.answer_eq ⟨s.server, [(.getFrom offset, .response { status := 416 })]⟩ .head
  rw [openAt_of_refused_then_head (s := s.logged) (Options.attempts_pos hRetries) hGet hHead rfl
    hAgree]
  rfl

end Source

------------------------------------------------------------
-- A Server that Refuses a Range Inside the Resource
------------------------------------------------------------

/- A server that gives a fixed run of answers, whatever it is asked, and fails the
connection once they run out. -/
structure Replay where
  answers : List Answer

instance : Server Replay where
  answer p _ :=
    match p.answers with
    | [] => (.failed "connection refused", p)
    | a :: rest => (a, ⟨rest⟩)
  bound p := p.answers.foldr (fun
    | .response r, n => r.body.rest.length + n
    | .failed _, n => n) 0

/- A resource of three bytes whose server refuses a GET from offset 1 as out of range,
and whose HEAD then reports the three bytes: the opening fails as a truncated source of
size 3 at offset 1, though the size is above the offset. -/
theorem Source.open_reports_truncation_above_offset :
    let s : Source Replay :=
      { url := "http://SERVER/input.txt", options := {},
        server := ⟨[.response { status := 416 }, .response { status := 200, contentLength := 3 }]⟩ }
    (s.logged.openAt 1).2.server.log =
        [(.getFrom 1, .response { status := 416 }),
          (.head, .response { status := 200, contentLength := 3 })] ∧
      (s.openAt 1).1 = .error (s.truncated 3 1) := by
  intro s
  exact ⟨rfl, rfl⟩

end Http

------------------------------------------------------------
-- Both Sources
------------------------------------------------------------

/-
  Opening a source on an object meets its contract, and the stamp it
  keeps stays through every history of openings, rewrites and
  deletions. Opening a source over HTTP meets its contract over every
  server, read off the exchanges it made, and a tag it keeps stays
  through every later opening. Over a server that tells the truth, a
  source over HTTP opens on the bytes from the offset on, is truncated
  exactly beyond the resource's size, and at the size or beyond asks
  for the range and then for the metadata.
-/
theorem sources_honour_the_open_contract (b : BlobSource) (events : List BlobSource.Event)
    {τ : Type} [Http.Server τ] (h : Http.Source τ) (offsets : List Nat)
    (o : Http.Source Http.Origin) (offset : Nat) :
    b.Contract offset (b.openAt offset).1 (b.openAt offset).2.seen ∧
    (∀ first, b.seen = some first → (b.replay events).seen = some first) ∧
    Http.Source.Contract h.options h.etag offset (h.logged.openAt offset).2.server.log
      (h.openAt offset).1 (h.openAt offset).2.etag ∧
    (h.etag ≠ "" → (h.opens offsets).etag = h.etag) ∧
    (0 ≤ o.options.retryAttempts → ¬Http.Source.Conflicts o.etag (Http.cleanETag o.server.etag) →
      (o.openAt offset).1 =
          (if offset ≤ o.server.content.length then
            .ok (Stream.ofBytes (o.server.content.drop offset))
          else .error (o.truncated o.server.content.length offset)) ∧
        (o.server.content.length ≤ offset →
          (o.logged.openAt offset).2.server.log.map Prod.fst = [.getFrom offset, .head])) :=
  ⟨BlobSource.openAt_contract b offset,
    fun _ hSeen => BlobSource.seen_replay hSeen events,
    Http.Source.openAt_contract h offset,
    Http.Source.etag_opens h offsets,
    fun hRetries hAgree =>
      ⟨Http.Source.openAt_origin o offset hRetries hAgree,
        Http.Source.openAt_origin_falls_back o offset hRetries hAgree⟩⟩

/- A server holding three bytes, with no tag: opened at its size, the source opens on
nothing, by way of a GET from the size and a HEAD. -/
theorem origin_opens_at_size_on_nothing :
    let s : Http.Source Http.Origin :=
      { url := "http://SERVER/input.txt", options := {}, server := ⟨Bytes.ofString "abc", ""⟩ }
    0 ≤ s.options.retryAttempts ∧ ¬Http.Source.Conflicts s.etag (Http.cleanETag s.server.etag) ∧
      (s.openAt 3).1 = .ok (Stream.ofBytes []) ∧
      (s.logged.openAt 3).2.server.log.map Prod.fst = [.getFrom 3, .head] := by
  intro s
  have hRetries : 0 ≤ s.options.retryAttempts := by decide
  have hAgree : ¬Http.Source.Conflicts s.etag (Http.cleanETag s.server.etag) := by
    simp [Http.Source.Conflicts, s]
  obtain ⟨hOpen, hFalls⟩ :=
    (sources_honour_the_open_contract (BlobSource.make Bucket.empty "input.txt") [] s [] s 3).2.2.2.2
      hRetries hAgree
  refine ⟨hRetries, hAgree, ?_, hFalls (by decide)⟩
  rw [hOpen]
  rfl

end LineBatch
