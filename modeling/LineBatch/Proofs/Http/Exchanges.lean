import LineBatch.Http.Source
import LineBatch.Proofs.Reader.Retries
import Mathlib.Tactic.SplitIfs

/-
  What a source over HTTP asks, and what it makes of the answers.

  A logged server answers as the server it wraps and keeps every
  request with its answer, so a source over it opens exactly as over
  the bare server, and the log shows what the opening asked. Each
  request of the client is a run of attempts answered with failures to
  try again, ended by the response that settles it or by the last
  attempt the options allow. An opening is a GET from its offset and,
  when the server refuses that range (416), a HEAD; what it returns and
  the entity tag it keeps after follow from the responses that settled
  the two and from the tag kept before.

  Main declarations:
    * `Http.Logged`, `Http.Sent`, `Http.Sent.settled_iff`
    * `Http.send_logged`, `Http.send_unlog`
    * `Http.Source.Ended`, `Http.Source.Opened`, `Http.Source.openAt_opened`
-/

namespace LineBatch

namespace Http

------------------------------------------------------------
-- Logged Servers
------------------------------------------------------------

/- A request and the answer it got. -/
abbrev Exchange := Request × Answer

/- A server that keeps every request it answers, with the answer. -/
structure Logged (τ : Type) where
  server : τ
  log : List Exchange

variable {τ : Type} [Server τ]

instance : Server (Logged τ) where
  answer l req :=
    let a := Server.answer l.server req
    (a.1, ⟨a.2, l.log ++ [(req, a.1)]⟩)
  bound l := Server.bound l.server

/- A logged server answers as the server it wraps, and logs the answer. -/
theorem Logged.answer_eq (l : Logged τ) (req : Request) :
    Server.answer l req =
      ((Server.answer l.server req).1,
        ⟨(Server.answer l.server req).2, l.log ++ [(req, (Server.answer l.server req).1)]⟩) :=
  rfl

------------------------------------------------------------
-- Attempts of One Request
------------------------------------------------------------

/- Whether an answer is tried again: a failed connection, or a status of 500 or more. -/
def Answer.retried : Answer → Prop
  | .failed _ => True
  | .response r => 500 ≤ r.status

/- The attempts of one request when at most `n` are allowed: answers that are tried
again, then the response that settled it, or, when none did, every attempt allowed. -/
inductive Sent (req : Request) (n : Nat) : List Exchange → Option Response → Prop where
  | settled {t : List Exchange} {r : Response}
      (hTried : ∀ e ∈ t, e.1 = req ∧ e.2.retried) (hLen : t.length < n)
      (hStatus : r.status < 500) :
      Sent req n (t ++ [(req, .response r)]) (some r)
  | gaveUp {t : List Exchange}
      (hTried : ∀ e ∈ t, e.1 = req ∧ e.2.retried) (hLen : t.length = n) :
      Sent req n t none

/- A response that settled a request: it is in the log, and it was not tried again. -/
def Settled (ex : List Exchange) (req : Request) (r : Response) : Prop :=
  (req, Answer.response r) ∈ ex ∧ r.status < 500

/- The responses that settled requests of two logs together. -/
theorem settled_append {ex ex' : List Exchange} {req : Request} {r : Response} :
    Settled (ex ++ ex') req r ↔ Settled ex req r ∨ Settled ex' req r := by
  simp only [Settled, List.mem_append, or_and_right]

namespace Sent

variable {req : Request} {n : Nat} {ex : List Exchange} {g : Option Response}

/- One more attempt tried again, before the others. -/
theorem cons {e : Exchange} (h : Sent req n ex g) (hReq : e.1 = req) (hRetried : e.2.retried) :
    Sent req (n + 1) (e :: ex) g := by
  cases h with
  | @settled t r hTried hLen hStatus =>
    have hTried' : ∀ x ∈ e :: t, x.1 = req ∧ x.2.retried := by
      intro x hx
      rcases List.mem_cons.1 hx with rfl | hx
      · exact ⟨hReq, hRetried⟩
      · exact hTried x hx
    exact .settled hTried' (by simpa using hLen) hStatus
  | gaveUp hTried hLen =>
    refine .gaveUp (fun x hx => ?_) (by simp [hLen])
    rcases List.mem_cons.1 hx with rfl | hx
    · exact ⟨hReq, hRetried⟩
    · exact hTried x hx

/- Every attempt is of the request. -/
theorem fst_of_mem (h : Sent req n ex g) {e : Exchange} (he : e ∈ ex) : e.1 = req := by
  cases h with
  | settled hTried =>
    rcases List.mem_append.1 he with he | he
    · exact (hTried e he).1
    · simp_all
  | gaveUp hTried => exact (hTried e he).1

/- No more attempts than allowed. -/
theorem length_le (h : Sent req n ex g) : ex.length ≤ n := by
  cases h with
  | settled _ hLen =>
    rw [List.length_append, List.length_singleton]
    exact hLen
  | gaveUp _ hLen => exact Nat.le_of_eq hLen

/- No request is attempted more often than allowed. -/
theorem countP_le (h : Sent req n ex g) (req' : Request) :
    ex.countP (fun e => e.1 = req') ≤ n :=
  Nat.le_trans List.countP_le_length h.length_le

/- No other request is attempted. -/
theorem countP_eq_zero (h : Sent req n ex g) {req' : Request} (hOther : req' ≠ req) :
    ex.countP (fun e => e.1 = req') = 0 := by
  rw [List.countP_eq_zero]
  intro e he hReq
  exact hOther ((of_decide_eq_true hReq).symm.trans (h.fst_of_mem he))

/- The only response in the log that was not tried again is the one that settled the
request. -/
theorem settled_iff (h : Sent req n ex g) {req' : Request} {r : Response} :
    Settled ex req' r ↔ req' = req ∧ g = some r := by
  cases h with
  | @settled t r' hTried hLen hStatus =>
    constructor
    · rintro ⟨hMem, hLt⟩
      rcases List.mem_append.1 hMem with hMem | hMem
      · have := (hTried _ hMem).2
        simp only [Answer.retried] at this
        omega
      · simp only [List.mem_singleton, Prod.mk.injEq, Answer.response.injEq] at hMem
        exact ⟨hMem.1, by rw [hMem.2]⟩
    · rintro ⟨rfl, hr⟩
      cases hr
      exact ⟨by simp, hStatus⟩
  | gaveUp hTried =>
    constructor
    · rintro ⟨hMem, hLt⟩
      have := (hTried _ hMem).2
      simp only [Answer.retried] at this
      omega
    · rintro ⟨-, ⟨⟩⟩

end Sent

------------------------------------------------------------
-- The Retry Loop
------------------------------------------------------------

/- A last failure that carries no condition but the server's error. -/
def Quiet (last : Option Cause) : Prop := ∀ c ∈ last, ∀ k, c.has k = true → k = .serverError

/- What a retry loop leaves in the log: the attempts of its request, each attempt an
answer tried again until one settles it. A settled request gives what `settle` makes of
the response; one that ran out gives its last failure. In one attempt a failure to try
again is logged and the loop goes on with it as the last failure. -/
theorem retry_logged {α : Type} (req : Request) (settle : Response → Except Cause α) :
    ∀ (n : Nat) (last : Option Cause) (l : Logged τ), Quiet last → ∃ ex g,
      Sent req n ex g ∧ (retry req settle n last l).2.log = l.log ++ ex ∧
      (∀ r, g = some r → (retry req settle n last l).1 = .ok (settle r)) ∧
      (g = none → ∃ last', (retry req settle n last l).1 = .error last' ∧ Quiet last')
  | 0, last, l, hQuiet => ⟨[], none, .gaveUp (by simp) rfl, by simp [retry], by simp,
      fun _ => ⟨last, rfl, hQuiet⟩⟩
  | n + 1, last, l, _ => by
    rcases hA : Server.answer l.server req with ⟨_ | m, srv⟩
    case response r =>
      by_cases hServer : 500 ≤ r.status
      · have hQuiet : Quiet (some r.serverError) := by
          intro c hc k hk
          cases hc
          exact Cause.has_unique hk (by simp [Response.serverError, Cause.has])
        obtain ⟨ex, g, hSent, hLog, hOk, hErr⟩ :=
          retry_logged req settle n (some r.serverError) ⟨srv, l.log ++ [(req, .response r)]⟩ hQuiet
        have hStep : retry req settle (n + 1) last l =
            retry req settle n (some r.serverError) ⟨srv, l.log ++ [(req, .response r)]⟩ := by
          simp [retry, Logged.answer_eq, hA, hServer]
        refine ⟨(req, .response r) :: ex, g, hSent.cons rfl hServer, ?_, ?_, ?_⟩
        · simp [hStep, hLog]
        · simpa [hStep] using hOk
        · simpa [hStep] using hErr
      · have hStep : retry req settle (n + 1) last l =
            (.ok (settle r), ⟨srv, l.log ++ [(req, .response r)]⟩) := by
          simp [retry, Logged.answer_eq, hA, hServer]
        refine ⟨[(req, .response r)], some r, ?_, by simp [hStep], by simp [hStep], by simp⟩
        exact .settled (t := []) (by simp) (by simp) (by omega)
    case failed =>
      have hQuiet : Quiet (some (.plain m)) := by
        intro c hc k hk
        cases hc
        simp [Cause.plain, Cause.has] at hk
      obtain ⟨ex, g, hSent, hLog, hOk, hErr⟩ :=
        retry_logged req settle n (some (.plain m)) ⟨srv, l.log ++ [(req, .failed m)]⟩ hQuiet
      have hStep : retry req settle (n + 1) last l =
          retry req settle n (some (.plain m)) ⟨srv, l.log ++ [(req, .failed m)]⟩ := by
        simp [retry, Logged.answer_eq, hA]
      refine ⟨(req, .failed m) :: ex, g, hSent.cons rfl trivial, ?_, ?_, ?_⟩
      · simp [hStep, hLog]
      · simpa [hStep] using hOk
      · simpa [hStep] using hErr

/- A logged server leads the retry loop as the server it wraps does. -/
theorem retry_unlog {α : Type} (req : Request) (settle : Response → Except Cause α) :
    ∀ (n : Nat) (last : Option Cause) (l : Logged τ),
      (retry req settle n last l).1 = (retry req settle n last l.server).1 ∧
        (retry req settle n last l).2.server = (retry req settle n last l.server).2
  | 0, _, _ => ⟨rfl, rfl⟩
  | n + 1, _, l => by
    rcases hA : Server.answer l.server req with ⟨_ | m, srv⟩
    case response r =>
      by_cases hServer : 500 ≤ r.status
      · simpa [retry, Logged.answer_eq, hA, hServer] using
          retry_unlog req settle n (some r.serverError) ⟨srv, l.log ++ [(req, .response r)]⟩
      · simp [retry, Logged.answer_eq, hA, hServer]
    case failed =>
      simpa [retry, Logged.answer_eq, hA] using
        retry_unlog req settle n (some (.plain m)) ⟨srv, l.log ++ [(req, .failed m)]⟩

------------------------------------------------------------
-- Sending a Request
------------------------------------------------------------

/- A failure of the client that carries only the conditions the client reports. -/
def ClientCause (c : Cause) : Prop :=
  ∀ k, c.has k = true →
    k = .rangeNotSupported ∨ k = .rangeNotSatisfiable ∨ k = .httpNotFound ∨ k = .serverError

/- A request that ran out fails with its last failure, which is quiet. -/
theorem exhausted_has {what : String} {o : Options} {last : Option Cause} (hQuiet : Quiet last)
    {k : Condition} (hk : (exhausted what o last).has k = true) : k = .serverError := by
  cases last with
  | none => simp [exhausted, Cause.plain, Cause.has] at hk
  | some c => exact hQuiet c rfl k hk

/- What sending leaves in the log, and what it gives: what `settle` makes of the
response that settled the request, or the failure of a request that ran out. -/
theorem send_logged {α : Type} (what : String) (o : Options) (req : Request)
    (settle : Response → Except Cause α) (l : Logged τ) :
    ∃ ex g, Sent req o.attempts ex g ∧ (send what o req settle l).2.log = l.log ++ ex ∧
      (∀ r, g = some r → (send what o req settle l).1 = settle r) ∧
      (g = none → ∃ last, (send what o req settle l).1 = .error (exhausted what o last) ∧
        Quiet last) := by
  obtain ⟨ex, g, hSent, hLog, hOk, hErr⟩ :=
    retry_logged req settle o.attempts none l (fun _ h => nomatch h)
  refine ⟨ex, g, hSent, ?_, fun r hr => ?_, fun hg => ?_⟩
  · unfold send
    split <;> simp_all
  · unfold send
    split <;> simp_all
  · obtain ⟨last, hLast, hQuiet⟩ := hErr hg
    refine ⟨last, ?_, hQuiet⟩
    unfold send
    split <;> simp_all

/- A logged server answers a request as the server it wraps does. -/
theorem send_unlog {α : Type} (what : String) (o : Options) (req : Request)
    (settle : Response → Except Cause α) (l : Logged τ) :
    send what o req settle l.server =
      ((send what o req settle l).1, (send what o req settle l).2.server) := by
  obtain ⟨h1, h2⟩ := retry_unlog req settle o.attempts none l
  unfold send
  split <;> split <;> simp_all

------------------------------------------------------------
-- What Settles a Request
------------------------------------------------------------

/- A status that says the resource is not there. -/
def Missing (status : Nat) : Prop := status = 404 ∨ status = 410

/- A status of success. -/
def Success (status : Nat) : Prop := 200 ≤ status ∧ status < 300

/- A GET from an offset that is accepted: a partial answer whose range, when it says one,
starts at the offset, or the whole resource when the offset is zero. -/
def GetAccepts (offset : Nat) (r : Response) : Prop :=
  (r.status = 206 ∧ (r.contentRange = "" ∨
      ∃ cr, ContentRange.parse r.contentRange = .ok cr ∧ cr.start = offset)) ∨
    (r.status = 200 ∧ offset = 0)

/- A status says nothing exactly when it is a success. -/
theorem checkStatus_eq_none {status : Nat} : checkStatus status = none ↔ Success status := by
  unfold checkStatus Success
  split_ifs <;> simp_all

/- What a status says carries a condition only for a missing resource. -/
theorem checkStatus_has {status : Nat} {c : Cause} (h : checkStatus status = some c)
    (k : Condition) : c.has k = true ↔ k = .httpNotFound ∧ Missing status := by
  unfold checkStatus at h
  split_ifs at h with hOk hMissing <;> cases h <;> simp [Cause.has, Cause.plain, Missing] <;> omega

/- How a GET settles: an accepted response gives its body and its entity tag; any other
fails with a condition of the client, which says the range cannot be served exactly for a
416 and the resource is missing exactly for a 404 or a 410. -/
theorem settleGet_cases (offset : Nat) (r : Response) :
    (GetAccepts offset r ∧ ∃ rr, settleGet offset r = .ok rr ∧ rr.body = r.body ∧
      rr.etag = cleanETag r.etag) ∨
    (¬GetAccepts offset r ∧ ∃ c, settleGet offset r = .error c ∧ ClientCause c ∧
      (c.has .rangeNotSatisfiable = true ↔ r.status = 416) ∧
      (c.has .httpNotFound = true ↔ Missing r.status)) := by
  unfold settleGet GetAccepts
  split_ifs with h206 hEmpty h200 hLater h416
  · exact .inl ⟨.inl ⟨h206, .inl (String.isEmpty_iff.1 hEmpty)⟩, _, rfl, rfl, rfl⟩
  · have hGiven : r.contentRange ≠ "" := fun h => hEmpty (String.isEmpty_iff.2 h)
    split
    case h_1 m hBad =>
      refine .inr ⟨?_, _, rfl, by simp [ClientCause, Cause.plain, Cause.has], ?_, ?_⟩
      · simp [h206, hBad, hGiven]
      · simp [Cause.plain, Cause.has, h206]
      · simp [Cause.plain, Cause.has, Missing, h206]
    case h_2 cr hRead =>
      split_ifs with hStart
      · refine .inr ⟨?_, _, rfl, ?_, ?_, ?_⟩
        · simp [h206, hRead, hGiven, hStart]
        · intro k hk
          simp only [Cause.has, beq_iff_eq] at hk
          exact .inl hk
        · simp [Cause.has, h206]
        · simp [Cause.has, Missing, h206]
      · exact .inl ⟨.inl ⟨h206, .inr ⟨cr, hRead, by simpa using hStart⟩⟩, _, rfl, rfl, rfl⟩
  · refine .inr ⟨?_, _, rfl, ?_, ?_, ?_⟩
    · simp [h200]
      omega
    · intro k hk
      simp only [Cause.has, beq_iff_eq] at hk
      exact .inl hk
    · simp [Cause.has, h200]
    · simp [Cause.has, Missing, h200]
  · exact .inl ⟨.inr ⟨h200, by omega⟩, _, rfl, rfl, rfl⟩
  · refine .inr ⟨by simp [h416], _, rfl, ?_, by simp [Cause.has, h416], ?_⟩
    · intro k hk
      simp only [Cause.has, beq_iff_eq] at hk
      exact .inr (.inl hk)
    · simp [Cause.has, Missing, h416]
  · refine .inr ⟨by simp [h206, h200], _, rfl, ?_, ?_, ?_⟩
    all_goals rcases hCheck : checkStatus r.status with _ | c
    all_goals simp only [Option.getD_none, Option.getD_some]
    · simp [ClientCause, Cause.plain, Cause.has]
    · intro k hk
      exact .inr (.inr (.inl ((checkStatus_has hCheck k).1 hk).1))
    · simp [Cause.plain, Cause.has, h416]
    · simp [checkStatus_has hCheck, h416]
    · simp only [Cause.plain, Cause.has, Bool.false_eq_true, false_iff]
      intro hMissing
      have hOk := checkStatus_eq_none.1 hCheck
      simp only [Missing, Success] at hMissing hOk
      omega
    · simp [checkStatus_has hCheck]

/- How a HEAD settles: a success gives the metadata of the response; any other status
fails with a condition of the client, which says the resource is missing exactly for a
404 or a 410. -/
theorem settleHead_cases (r : Response) :
    (Success r.status ∧ ∃ info : FileInfo, settleHead r = .ok info ∧
      info.size = r.contentLength ∧ info.etag = cleanETag r.etag) ∨
    (¬Success r.status ∧ ∃ c, settleHead r = .error c ∧ ClientCause c ∧
      (c.has .httpNotFound = true ↔ Missing r.status)) := by
  unfold settleHead
  rcases hCheck : checkStatus r.status with _ | c
  · exact .inl ⟨checkStatus_eq_none.1 hCheck, _, rfl, rfl, rfl⟩
  · refine .inr ⟨fun hOk => by simp [checkStatus_eq_none.2 hOk] at hCheck, c, rfl, ?_, ?_⟩
    · intro k hk
      exact .inr (.inr (.inl ((checkStatus_has hCheck k).1 hk).1))
    · simp [checkStatus_has hCheck]

/- A GET that settles on a result was accepted, and the result carries its body and tag. -/
theorem settleGet_ok {offset : Nat} {r : Response} {rr : RangeResponse}
    (h : settleGet offset r = .ok rr) :
    GetAccepts offset r ∧ rr.body = r.body ∧ rr.etag = cleanETag r.etag := by
  rcases settleGet_cases offset r with ⟨hAccepts, rr', hOk, hBody, hTag⟩ | ⟨-, c, hErr, -⟩
  · rw [h] at hOk
    cases hOk
    exact ⟨hAccepts, hBody, hTag⟩
  · rw [h] at hErr
    cases hErr

/- A GET that settles on a failure was not accepted. -/
theorem settleGet_error {offset : Nat} {r : Response} {c : Cause}
    (h : settleGet offset r = .error c) :
    ¬GetAccepts offset r ∧ ClientCause c ∧
      (c.has .rangeNotSatisfiable = true ↔ r.status = 416) ∧
      (c.has .httpNotFound = true ↔ Missing r.status) := by
  rcases settleGet_cases offset r with ⟨-, rr, hOk, -⟩ | ⟨hRefused, c', hErr, hFacts⟩
  · rw [h] at hOk
    cases hOk
  · rw [h] at hErr
    cases hErr
    exact ⟨hRefused, hFacts⟩

/- A HEAD that settles on metadata succeeded, and the metadata carries its size and tag. -/
theorem settleHead_ok {r : Response} {info : FileInfo} (h : settleHead r = .ok info) :
    Success r.status ∧ info.size = r.contentLength ∧ info.etag = cleanETag r.etag := by
  rcases settleHead_cases r with ⟨hOk, info', hInfo, hSize, hTag⟩ | ⟨-, c, hErr, -⟩
  · rw [h] at hInfo
    cases hInfo
    exact ⟨hOk, hSize, hTag⟩
  · rw [h] at hErr
    cases hErr

/- A HEAD that settles on a failure did not succeed. -/
theorem settleHead_error {r : Response} {c : Cause} (h : settleHead r = .error c) :
    ¬Success r.status ∧ ClientCause c ∧ (c.has .httpNotFound = true ↔ Missing r.status) := by
  rcases settleHead_cases r with ⟨-, info, hInfo, -⟩ | ⟨hFailed, c', hErr, hFacts⟩
  · rw [h] at hInfo
    cases hInfo
  · rw [h] at hErr
    cases hErr
    exact ⟨hFailed, hFacts⟩

------------------------------------------------------------
-- Entity Tags and Failures of a Source
------------------------------------------------------------

namespace Source

variable {σ : Type}

/- The tag kept after one is seen: the first that is not empty. -/
def pin (kept e : String) : String := if kept = "" then e else kept

/- A tag that is not the one kept: both are not empty, and they differ. -/
def Conflicts (kept e : String) : Prop := e ≠ "" ∧ kept ≠ "" ∧ e ≠ kept

instance (kept e : String) : Decidable (Conflicts kept e) := by
  unfold Conflicts
  infer_instance

/- A tag that is not empty stays kept. -/
theorem pin_of_ne {kept : String} (h : kept ≠ "") (e : String) : pin kept e = kept := by
  simp [pin, h]

/- Checking a tag fails when it conflicts with the one kept, and keeps the pinned tag
otherwise. -/
theorem checkETag_eq (s : Source σ) (e : String) :
    s.checkETag e =
      if Conflicts s.etag e then .error (s.changed e) else .ok { s with etag := pin s.etag e } := by
  cases s with
  | mk url options kept server =>
    unfold checkETag Conflicts pin
    by_cases he : e = ""
    · by_cases hk : kept = "" <;> simp [he, hk]
    · by_cases hk : kept = ""
      · simp [he, hk]
      · by_cases hSame : e = kept
        · simp [hSame]
        · simp [he, hk, hSame]

/- A failure of the client under the source's name: a missing resource becomes a missing
source, and any other keeps its condition. -/
theorem wrap_has (s : Source σ) (c : Cause) (k : Condition) :
    (s.wrap c).has k = if c.has .httpNotFound then k == .sourceNotFound else c.has k := by
  unfold wrap
  split <;> simp [Failure.has, Cause.has]

@[simp] theorem changed_has (s : Source σ) (e : String) (k : Condition) :
    (s.changed e).has k = (k == .sourceChanged) := rfl

@[simp] theorem truncated_has (s : Source σ) (size : Int) (offset : Nat) (k : Condition) :
    (s.truncated size offset).has k = (k == .sourceTruncated) := rfl

------------------------------------------------------------
-- The Ways an Opening Goes
------------------------------------------------------------

/- An opening at the end of the resource: the exchanges of its HEAD, what it returns,
and the tag kept after. -/
inductive Ended (s : Source σ) (offset : Nat) :
    List Exchange → Except Failure Stream → String → Prop where
  | gaveUp {ex : List Exchange} {last : Option Cause}
      (hSent : Sent .head s.options.attempts ex none) (hQuiet : Quiet last) :
      Ended s offset ex (.error (s.wrap (exhausted "head" s.options last))) s.etag
  | refused {ex : List Exchange} {h : Response} {c : Cause}
      (hSent : Sent .head s.options.attempts ex (some h)) (hRefused : settleHead h = .error c) :
      Ended s offset ex (.error (s.wrap c)) s.etag
  | changed {ex : List Exchange} {h : Response} {info : FileInfo}
      (hSent : Sent .head s.options.attempts ex (some h)) (hInfo : settleHead h = .ok info)
      (hConflict : Conflicts s.etag info.etag) :
      Ended s offset ex (.error (s.changed info.etag)) s.etag
  | truncated {ex : List Exchange} {h : Response} {info : FileInfo}
      (hSent : Sent .head s.options.attempts ex (some h)) (hInfo : settleHead h = .ok info)
      (hAgree : ¬Conflicts s.etag info.etag) (hSize : info.size ≠ offset) :
      Ended s offset ex (.error (s.truncated info.size offset)) (pin s.etag info.etag)
  | atEnd {ex : List Exchange} {h : Response} {info : FileInfo}
      (hSent : Sent .head s.options.attempts ex (some h)) (hInfo : settleHead h = .ok info)
      (hAgree : ¬Conflicts s.etag info.etag) (hSize : info.size = offset) :
      Ended s offset ex (.ok (Stream.ofBytes [])) (pin s.etag info.etag)

/- An opening: the exchanges of its GET and, after a 416, those of its HEAD; what it
returns, and the tag kept after. -/
inductive Opened (s : Source σ) (offset : Nat) :
    List Exchange → Except Failure Stream → String → Prop where
  | gaveUp {ex : List Exchange} {last : Option Cause}
      (hSent : Sent (.getFrom offset) s.options.attempts ex none) (hQuiet : Quiet last) :
      Opened s offset ex (.error (s.wrap (exhausted "range" s.options last))) s.etag
  | read {ex : List Exchange} {r : Response} {rr : RangeResponse}
      (hSent : Sent (.getFrom offset) s.options.attempts ex (some r))
      (hRead : settleGet offset r = .ok rr) (hAgree : ¬Conflicts s.etag rr.etag) :
      Opened s offset ex (.ok rr.body) (pin s.etag rr.etag)
  | changed {ex : List Exchange} {r : Response} {rr : RangeResponse}
      (hSent : Sent (.getFrom offset) s.options.attempts ex (some r))
      (hRead : settleGet offset r = .ok rr) (hConflict : Conflicts s.etag rr.etag) :
      Opened s offset ex (.error (s.changed rr.etag)) s.etag
  | refused {ex : List Exchange} {r : Response} {c : Cause}
      (hSent : Sent (.getFrom offset) s.options.attempts ex (some r))
      (hRefused : settleGet offset r = .error c) (hStatus : r.status ≠ 416) :
      Opened s offset ex (.error (s.wrap c)) s.etag
  | atEnd {ex ex' : List Exchange} {r : Response} {res : Except Failure Stream} {kept : String}
      (hSent : Sent (.getFrom offset) s.options.attempts ex (some r)) (hStatus : r.status = 416)
      (hEnded : Ended s offset ex' res kept) :
      Opened s offset (ex ++ ex') res kept

/- What an opening at the end says depends on the source's name, options and tag, not on
its server. -/
theorem Ended.of_server {s : Source σ} {srv : σ} {offset : Nat} {ex : List Exchange}
    {res : Except Failure Stream} {kept : String}
    (h : Ended { s with server := srv } offset ex res kept) :
    Ended s offset ex res kept := by
  cases h with
  | gaveUp hSent hQuiet => exact .gaveUp hSent hQuiet
  | refused hSent hRefused => exact .refused hSent hRefused
  | changed hSent hInfo hConflict => exact .changed hSent hInfo hConflict
  | truncated hSent hInfo hAgree hSize => exact .truncated hSent hInfo hAgree hSize
  | atEnd hSent hInfo hAgree hSize => exact .atEnd hSent hInfo hAgree hSize

/- The HEAD of an opening at the end, over a logged server: the exchanges it adds to the
log, and the way it goes; the tag is checked first, then the size. -/
theorem openAtEnd_ended (s : Source (Logged τ)) (offset : Nat) :
    ∃ ex, (s.openAtEnd offset).2.server.log = s.server.log ++ ex ∧
      Ended s offset ex (s.openAtEnd offset).1 (s.openAtEnd offset).2.etag := by
  obtain ⟨ex, g, hSent, hLog, hOk, hErr⟩ := send_logged "head" s.options .head settleHead s.server
  unfold openAtEnd head
  rcases hH : send "head" s.options .head settleHead s.server with ⟨res, srv⟩
  rw [hH] at hLog hOk hErr
  dsimp only at hLog hOk hErr ⊢
  refine ⟨ex, ?_⟩
  cases g with
  | none =>
    obtain ⟨last, rfl, hQuiet⟩ := hErr rfl
    exact ⟨hLog, .gaveUp hSent hQuiet⟩
  | some h =>
    obtain rfl := hOk h rfl
    rcases hS : settleHead h with c | info
    · exact ⟨hLog, .refused hSent hS⟩
    · dsimp only
      rw [checkETag_eq]
      by_cases hC : Conflicts s.etag info.etag
      · simp only [hC, if_true]
        exact ⟨hLog, .changed hSent hS hC⟩
      · simp only [hC, if_false]
        by_cases hSize : info.size = offset
        · simp only [hSize, ne_eq, not_true_eq_false, if_false]
          exact ⟨hLog, .atEnd hSent hS hC hSize⟩
        · simp only [hSize, ne_eq, not_false_eq_true, if_true]
          exact ⟨hLog, .truncated hSent hS hC hSize⟩

/- An opening over a logged server: the exchanges it adds to the log, and the way it
goes. A request that ran out is not refused as out of range; one refused so is decided by
the HEAD. -/
theorem openAt_opened (s : Source (Logged τ)) (offset : Nat) :
    ∃ ex, (s.openAt offset).2.server.log = s.server.log ++ ex ∧
      Opened s offset ex (s.openAt offset).1 (s.openAt offset).2.etag := by
  obtain ⟨ex, g, hSent, hLog, hOk, hErr⟩ :=
    send_logged "range" s.options (.getFrom offset) (settleGet offset) s.server
  unfold openAt getFrom
  rcases hG : send "range" s.options (.getFrom offset) (settleGet offset) s.server with ⟨res, srv⟩
  rw [hG] at hLog hOk hErr
  dsimp only at hLog hOk hErr ⊢
  cases g with
  | none =>
    obtain ⟨last, rfl, hQuiet⟩ := hErr rfl
    have hRange : (exhausted "range" s.options last).has .rangeNotSatisfiable = false := by
      by_contra hHas
      cases exhausted_has hQuiet (Bool.not_eq_false _ ▸ hHas)
    simp only [hRange, Bool.false_eq_true, if_false]
    exact ⟨ex, hLog, .gaveUp hSent hQuiet⟩
  | some r =>
    obtain rfl := hOk r rfl
    rcases hS : settleGet offset r with c | rr
    · dsimp only
      by_cases hRange : c.has .rangeNotSatisfiable = true
      · have h416 : r.status = 416 := (settleGet_error hS).2.2.1.1 hRange
        simp only [hRange, if_true]
        obtain ⟨ex', hLog', hEnded⟩ := openAtEnd_ended { s with server := srv } offset
        refine ⟨ex ++ ex', ?_, .atEnd hSent h416 hEnded.of_server⟩
        rw [hLog', ← List.append_assoc, ← hLog]
      · have hStatus : r.status ≠ 416 := fun h416 => hRange ((settleGet_error hS).2.2.1.2 h416)
        simp only [hRange]
        exact ⟨ex, hLog, .refused hSent hS hStatus⟩
    · dsimp only
      rw [checkETag_eq]
      by_cases hC : Conflicts s.etag rr.etag
      · simp only [hC, if_true]
        exact ⟨ex, hLog, .changed hSent hS hC⟩
      · simp only [hC, if_false]
        exact ⟨ex, hLog, .read hSent hS hC⟩

------------------------------------------------------------
-- Logging Changes Nothing
------------------------------------------------------------

/- The source that a source over a logged server reads through. -/
def unlog (s : Source (Logged τ)) : Source τ := ⟨s.url, s.options, s.etag, s.server.server⟩

/- A source read through a logged server, with nothing logged yet. -/
def logged (s : Source τ) : Source (Logged τ) := ⟨s.url, s.options, s.etag, ⟨s.server, []⟩⟩

omit [Server τ] in
@[simp] theorem unlog_logged (s : Source τ) : s.logged.unlog = s := rfl

/- Opening at the end through a logged server goes as through the server it wraps. -/
theorem openAtEnd_unlog (s : Source (Logged τ)) (offset : Nat) :
    (s.openAtEnd offset).1 = (s.unlog.openAtEnd offset).1 ∧
      (s.openAtEnd offset).2.unlog = (s.unlog.openAtEnd offset).2 := by
  unfold openAtEnd head
  rcases hL : send "head" s.options .head settleHead s.server with ⟨res, srv⟩
  have hU : send "head" s.unlog.options .head settleHead s.unlog.server = (res, srv.server) := by
    show send "head" s.options .head settleHead s.server.server = _
    rw [send_unlog, hL]
  rw [hU]
  rcases res with c | info
  · exact ⟨rfl, rfl⟩
  · dsimp only
    rw [checkETag_eq, checkETag_eq]
    by_cases hC : Conflicts s.etag info.etag
    · simp [unlog, hC, changed]
    · by_cases hSize : info.size = offset <;> simp [unlog, hC, hSize, truncated]

/- Opening through a logged server goes as through the server it wraps. -/
theorem openAt_unlog (s : Source (Logged τ)) (offset : Nat) :
    (s.openAt offset).1 = (s.unlog.openAt offset).1 ∧
      (s.openAt offset).2.unlog = (s.unlog.openAt offset).2 := by
  unfold openAt getFrom
  rcases hL : send "range" s.options (.getFrom offset) (settleGet offset) s.server with ⟨res, srv⟩
  have hU : send "range" s.unlog.options (.getFrom offset) (settleGet offset) s.unlog.server =
      (res, srv.server) := by
    show send "range" s.options (.getFrom offset) (settleGet offset) s.server.server = _
    rw [send_unlog, hL]
  rw [hU]
  rcases res with c | rr
  · dsimp only
    split_ifs
    · exact openAtEnd_unlog { s with server := srv } offset
    · exact ⟨rfl, rfl⟩
  · dsimp only
    rw [checkETag_eq, checkETag_eq]
    by_cases hC : Conflicts s.etag rr.etag <;> simp [unlog, hC, changed]

end Source

end Http

end LineBatch
