import LineBatch.Proofs.Http.Exchanges

/-
  The contract an opening over HTTP meets, read off the exchanges it
  made.

  An opening returns the body of a GET that was accepted, or an empty
  stream when the GET was refused as out of range and the HEAD after
  it found the size to be the offset. It fails as a missing source
  exactly when the GET or the HEAD that settled was answered 404 or
  410, and as a changed source exactly when the tag of an answer it
  accepted conflicts with the tag kept; the tag kept after is the
  first one that is not empty. It fails as truncated exactly when the
  HEAD after a refused GET agrees on the tag and reports a size other
  than the offset: above the offset as well as below it. No request is
  attempted more often than the options allow.

  Main declarations:
    * `FailsWith`, `Http.Source.Contract`
    * `Http.Source.Opened.contract`, `Http.Source.openAt_contract`
    * `Http.Source.etag_opens`
-/

namespace LineBatch

/- A result that fails with a condition. -/
def FailsWith {α : Type} (res : Except Failure α) (k : Condition) : Prop :=
  ∃ f, res = .error f ∧ f.has k = true

@[simp] theorem failsWith_ok {α : Type} (a : α) (k : Condition) : ¬FailsWith (.ok a) k := by
  rintro ⟨f, hf, -⟩
  cases hf

@[simp] theorem failsWith_error {α : Type} (f : Failure) (k : Condition) :
    FailsWith (.error f : Except Failure α) k ↔ f.has k = true := by
  constructor
  · rintro ⟨f', hf, hk⟩
    cases hf
    exact hk
  · intro hk
    exact ⟨f, rfl, hk⟩

namespace Http

------------------------------------------------------------
-- Failures of the Client under a Source's Name
------------------------------------------------------------

/- The client reports none of a source's conditions. -/
theorem ClientCause.has_source {c : Cause} (hc : ClientCause c) {k : Condition}
    (hk : k = .sourceNotFound ∨ k = .sourceChanged ∨ k = .sourceTruncated) : c.has k = false := by
  cases hHas : c.has k
  · rfl
  · rcases hc k hHas with h | h | h | h <;> subst h <;> simp at hk

/- A request that ran out reports the server's error at most. -/
theorem exhausted_client {what : String} {o : Options} {last : Option Cause}
    (hQuiet : Quiet last) : ClientCause (exhausted what o last) :=
  fun _ hk => .inr (.inr (.inr (exhausted_has hQuiet hk)))

/- A request that ran out did not find the resource missing. -/
theorem exhausted_has_notFound {what : String} {o : Options} {last : Option Cause}
    (hQuiet : Quiet last) : (exhausted what o last).has .httpNotFound = false := by
  cases hHas : (exhausted what o last).has .httpNotFound
  · rfl
  · cases exhausted_has hQuiet hHas

/- A status of success does not say the resource is missing. -/
theorem Success.not_missing {status : Nat} (h : Success status) : ¬Missing status := by
  unfold Success at h
  unfold Missing
  omega

/- An accepted GET succeeded. -/
theorem GetAccepts.not_missing {offset : Nat} {r : Response} (h : GetAccepts offset r) :
    ¬Missing r.status := by
  unfold GetAccepts at h
  unfold Missing
  omega

namespace Source

variable {σ : Type}

/- Under the source's name a failure of the client is a missing source exactly when the
resource was not found. -/
theorem wrap_has_notFound (s : Source σ) {c : Cause} (hc : ClientCause c) :
    (s.wrap c).has .sourceNotFound = c.has .httpNotFound := by
  rw [wrap_has]
  cases c.has .httpNotFound
  · exact hc.has_source (.inl rfl)
  · rfl

/- Under the source's name a failure of the client is never a changed source. -/
theorem wrap_has_changed (s : Source σ) {c : Cause} (hc : ClientCause c) :
    (s.wrap c).has .sourceChanged = false := by
  rw [wrap_has]
  cases c.has .httpNotFound
  · exact hc.has_source (.inr (.inl rfl))
  · rfl

/- Under the source's name a failure of the client is never a truncated source. -/
theorem wrap_has_truncated (s : Source σ) {c : Cause} (hc : ClientCause c) :
    (s.wrap c).has .sourceTruncated = false := by
  rw [wrap_has]
  cases c.has .httpNotFound
  · exact hc.has_source (.inr (.inr rfl))
  · rfl

------------------------------------------------------------
-- What an Opening Saw
------------------------------------------------------------

/- A response that said the resource is missing: that of the GET, or that of the HEAD. -/
def NotFound (offset : Nat) (ex : List Exchange) : Prop :=
  (∃ r, Settled ex (.getFrom offset) r ∧ Missing r.status) ∨
    (∃ h, Settled ex .head h ∧ Missing h.status)

/- A tag the opening checked against the one kept: that of an accepted GET, or that of
a successful HEAD. -/
def Checked (offset : Nat) (ex : List Exchange) (e : String) : Prop :=
  (∃ r, Settled ex (.getFrom offset) r ∧ GetAccepts offset r ∧ e = cleanETag r.etag) ∨
    (∃ h, Settled ex .head h ∧ Success h.status ∧ e = cleanETag h.etag)

/- A GET refused as out of range, and a successful HEAD after it. -/
def FellBack (offset : Nat) (ex : List Exchange) (h : Response) : Prop :=
  (∃ r, Settled ex (.getFrom offset) r ∧ r.status = 416) ∧ Settled ex .head h ∧ Success h.status

/- What an opening at `offset` of a source with options `o` that kept the tag `kept` may
do, given the exchanges `ex` it made: what it returns, and the tag `kept'` kept after. -/
structure Contract (o : Options) (kept : String) (offset : Nat) (ex : List Exchange)
    (res : Except Failure Stream) (kept' : String) : Prop where
  /- A stream is the body of an accepted GET, or empty at the end of the resource. -/
  stream : ∀ st, res = .ok st →
    (∃ r, Settled ex (.getFrom offset) r ∧ GetAccepts offset r ∧
      ¬Conflicts kept (cleanETag r.etag) ∧ st = r.body) ∨
    (∃ h, FellBack offset ex h ∧ ¬Conflicts kept (cleanETag h.etag) ∧
      h.contentLength = offset ∧ st = Stream.ofBytes [])
  notFound : FailsWith res .sourceNotFound ↔ NotFound offset ex
  changed : FailsWith res .sourceChanged ↔ ∃ e, Checked offset ex e ∧ Conflicts kept e
  /- The first tag that is not empty is kept, and a kept tag stays. -/
  pinned : ∀ e, Checked offset ex e → kept' = pin kept e
  unpinned : (∀ e, ¬Checked offset ex e) → kept' = kept
  truncated : FailsWith res .sourceTruncated ↔
    ∃ h, FellBack offset ex h ∧ ¬Conflicts kept (cleanETag h.etag) ∧ h.contentLength ≠ offset
  attempts : ∀ req, ex.countP (fun e => e.1 = req) ≤ o.attempts

------------------------------------------------------------
-- What a GET Alone Saw
------------------------------------------------------------

section Get

variable {offset n : Nat} {ex : List Exchange} {g : Option Response}

/- With only a GET, the missing resource is what the GET said. -/
theorem notFound_of_get (hSent : Sent (.getFrom offset) n ex g) :
    NotFound offset ex ↔ ∃ r, g = some r ∧ Missing r.status := by
  simp [NotFound, hSent.settled_iff]

/- With only a GET, the tag checked is that of the GET, if it was accepted. -/
theorem checked_of_get (hSent : Sent (.getFrom offset) n ex g) {e : String} :
    Checked offset ex e ↔ ∃ r, g = some r ∧ GetAccepts offset r ∧ e = cleanETag r.etag := by
  simp [Checked, hSent.settled_iff]

/- With only a GET, there was no HEAD to fall back on. -/
theorem not_fellBack_of_get (hSent : Sent (.getFrom offset) n ex g) (h : Response) :
    ¬FellBack offset ex h := by
  simp [FellBack, hSent.settled_iff]

end Get

------------------------------------------------------------
-- What a GET and the HEAD after It Saw
------------------------------------------------------------

section Fallback

variable {offset n : Nat} {ex ex' : List Exchange} {r : Response} {g : Option Response}

/- After a refused GET, the missing resource is what the HEAD said. -/
theorem notFound_of_fallback (hSent : Sent (.getFrom offset) n ex (some r)) (h416 : r.status = 416)
    (hHead : Sent .head n ex' g) :
    NotFound offset (ex ++ ex') ↔ ∃ h, g = some h ∧ Missing h.status := by
  simp [NotFound, settled_append, hSent.settled_iff, hHead.settled_iff, Missing, h416]

/- After a refused GET, the tag checked is that of the HEAD, if it succeeded. -/
theorem checked_of_fallback (hSent : Sent (.getFrom offset) n ex (some r)) (h416 : r.status = 416)
    (hHead : Sent .head n ex' g) {e : String} :
    Checked offset (ex ++ ex') e ↔
      ∃ h, g = some h ∧ Success h.status ∧ e = cleanETag h.etag := by
  simp [Checked, settled_append, hSent.settled_iff, hHead.settled_iff, GetAccepts, h416]

/- After a refused GET, the opening fell back on the HEAD exactly when it succeeded. -/
theorem fellBack_of_fallback (hSent : Sent (.getFrom offset) n ex (some r)) (h416 : r.status = 416)
    (hHead : Sent .head n ex' g) {h : Response} :
    FellBack offset (ex ++ ex') h ↔ g = some h ∧ Success h.status := by
  simp [FellBack, settled_append, hSent.settled_iff, hHead.settled_iff, h416]

/- A GET and a HEAD are each attempted no more often than allowed. -/
theorem attempts_of_fallback {g' : Option Response} (hSent : Sent (.getFrom offset) n ex g')
    (hHead : Sent .head n ex' g) (req : Request) :
    (ex ++ ex').countP (fun e => e.1 = req) ≤ n := by
  rw [List.countP_append]
  by_cases hGet : req = .getFrom offset
  · subst hGet
    have hNone : ex'.countP (fun e => e.1 = .getFrom offset) = 0 := hHead.countP_eq_zero (by simp)
    have hSome := hSent.countP_le (.getFrom offset)
    omega
  · have hNone := hSent.countP_eq_zero hGet
    have hSome := hHead.countP_le req
    omega

end Fallback

------------------------------------------------------------
-- Each Way an Opening Goes Meets the Contract
------------------------------------------------------------

section Ways

variable {s : Source σ} {offset : Nat} {ex ex' : List Exchange}

/- Every GET failed to be answered. -/
theorem contract_gaveUp {last : Option Cause}
    (hSent : Sent (.getFrom offset) s.options.attempts ex none) (hQuiet : Quiet last) :
    Contract s.options s.etag offset ex
      (.error (s.wrap (exhausted "range" s.options last))) s.etag := by
  have hClient : ClientCause (exhausted "range" s.options last) := exhausted_client hQuiet
  refine ⟨(fun _ h => nomatch h), ?_, ?_, ?_, fun _ => rfl, ?_, hSent.countP_le⟩
  · simp [wrap_has_notFound _ hClient, exhausted_has_notFound hQuiet, notFound_of_get hSent]
  · simp [wrap_has_changed _ hClient, checked_of_get hSent]
  · simp [checked_of_get hSent]
  · simp [wrap_has_truncated _ hClient, not_fellBack_of_get hSent]

/- The GET was accepted, and its tag agrees with the one kept. -/
theorem contract_read {r : Response} {rr : RangeResponse}
    (hSent : Sent (.getFrom offset) s.options.attempts ex (some r))
    (hRead : settleGet offset r = .ok rr) (hAgree : ¬Conflicts s.etag rr.etag) :
    Contract s.options s.etag offset ex (.ok rr.body) (pin s.etag rr.etag) := by
  obtain ⟨hAccepts, hBody, hTag⟩ := settleGet_ok hRead
  rw [hTag] at hAgree ⊢
  refine ⟨?_, ?_, ?_, ?_, ?_, ?_, hSent.countP_le⟩
  · rintro st ⟨⟩
    exact .inl ⟨r, (hSent.settled_iff).2 ⟨rfl, rfl⟩, hAccepts, hAgree, hBody⟩
  · simp [notFound_of_get hSent, hAccepts.not_missing]
  · simp only [failsWith_ok, false_iff, checked_of_get hSent]
    rintro ⟨e, ⟨r', ⟨⟩, -, rfl⟩, hConflict⟩
    exact hAgree hConflict
  · intro e hChecked
    obtain ⟨r', ⟨⟩, -, rfl⟩ := (checked_of_get hSent).1 hChecked
    rfl
  · intro hNone
    exact absurd ((checked_of_get hSent).2 ⟨r, rfl, hAccepts, rfl⟩) (hNone _)
  · simp [not_fellBack_of_get hSent]

/- The GET was accepted, and its tag conflicts with the one kept. -/
theorem contract_changed {r : Response} {rr : RangeResponse}
    (hSent : Sent (.getFrom offset) s.options.attempts ex (some r))
    (hRead : settleGet offset r = .ok rr) (hConflict : Conflicts s.etag rr.etag) :
    Contract s.options s.etag offset ex (.error (s.changed rr.etag)) s.etag := by
  obtain ⟨hAccepts, -, hTag⟩ := settleGet_ok hRead
  rw [hTag] at hConflict
  refine ⟨(fun _ h => nomatch h), ?_, ?_, ?_, ?_, ?_, hSent.countP_le⟩
  · simp [notFound_of_get hSent, hAccepts.not_missing]
  · simp only [failsWith_error, changed_has, beq_self_eq_true, true_iff]
    exact ⟨_, (checked_of_get hSent).2 ⟨r, rfl, hAccepts, rfl⟩, hConflict⟩
  · intro e hChecked
    obtain ⟨r', ⟨⟩, -, rfl⟩ := (checked_of_get hSent).1 hChecked
    exact (pin_of_ne hConflict.2.1 _).symm
  · intro hNone
    exact absurd ((checked_of_get hSent).2 ⟨r, rfl, hAccepts, rfl⟩) (hNone _)
  · simp [not_fellBack_of_get hSent]

/- The GET settled on a failure other than a range out of bounds. -/
theorem contract_refused {r : Response} {c : Cause}
    (hSent : Sent (.getFrom offset) s.options.attempts ex (some r))
    (hRefused : settleGet offset r = .error c) :
    Contract s.options s.etag offset ex (.error (s.wrap c)) s.etag := by
  obtain ⟨hNot, hClient, -, hMissing⟩ := settleGet_error hRefused
  have hUnchecked : ∀ e, ¬Checked offset ex e := by
    rintro e hChecked
    obtain ⟨r', ⟨⟩, hAccepts, -⟩ := (checked_of_get hSent).1 hChecked
    exact hNot hAccepts
  refine ⟨(fun _ h => nomatch h), ?_, ?_, fun e h => absurd h (hUnchecked e), fun _ => rfl, ?_,
    hSent.countP_le⟩
  · simp [wrap_has_notFound _ hClient, hMissing, notFound_of_get hSent]
  · simp [wrap_has_changed _ hClient, hUnchecked]
  · simp [wrap_has_truncated _ hClient, not_fellBack_of_get hSent]

/- Every HEAD after a refused GET failed to be answered. -/
theorem contract_headGaveUp {r : Response} {last : Option Cause}
    (hSent : Sent (.getFrom offset) s.options.attempts ex (some r)) (h416 : r.status = 416)
    (hHead : Sent .head s.options.attempts ex' none) (hQuiet : Quiet last) :
    Contract s.options s.etag offset (ex ++ ex')
      (.error (s.wrap (exhausted "head" s.options last))) s.etag := by
  have hClient : ClientCause (exhausted "head" s.options last) := exhausted_client hQuiet
  refine ⟨(fun _ h => nomatch h), ?_, ?_, ?_, fun _ => rfl, ?_, attempts_of_fallback hSent hHead⟩
  · simp [wrap_has_notFound _ hClient, exhausted_has_notFound hQuiet,
      notFound_of_fallback hSent h416 hHead]
  · simp [wrap_has_changed _ hClient, checked_of_fallback hSent h416 hHead]
  · simp [checked_of_fallback hSent h416 hHead]
  · simp [wrap_has_truncated _ hClient, fellBack_of_fallback hSent h416 hHead]

/- The HEAD after a refused GET settled on a failure. -/
theorem contract_headRefused {r h : Response} {c : Cause}
    (hSent : Sent (.getFrom offset) s.options.attempts ex (some r)) (h416 : r.status = 416)
    (hHead : Sent .head s.options.attempts ex' (some h)) (hRefused : settleHead h = .error c) :
    Contract s.options s.etag offset (ex ++ ex') (.error (s.wrap c)) s.etag := by
  obtain ⟨hFailed, hClient, hMissing⟩ := settleHead_error hRefused
  have hUnchecked : ∀ e, ¬Checked offset (ex ++ ex') e := by
    intro e hChecked
    obtain ⟨h', ⟨⟩, hOk, -⟩ := (checked_of_fallback hSent h416 hHead).1 hChecked
    exact hFailed hOk
  refine ⟨(fun _ h => nomatch h), ?_, ?_, fun e hC => absurd hC (hUnchecked e), fun _ => rfl, ?_,
    attempts_of_fallback hSent hHead⟩
  · simp [wrap_has_notFound _ hClient, hMissing, notFound_of_fallback hSent h416 hHead]
  · simp [wrap_has_changed _ hClient, hUnchecked]
  · simp [wrap_has_truncated _ hClient, fellBack_of_fallback hSent h416 hHead, hFailed]

/- The HEAD after a refused GET succeeded with a tag that conflicts with the one kept. -/
theorem contract_headChanged {r h : Response} {info : FileInfo}
    (hSent : Sent (.getFrom offset) s.options.attempts ex (some r)) (h416 : r.status = 416)
    (hHead : Sent .head s.options.attempts ex' (some h)) (hInfo : settleHead h = .ok info)
    (hConflict : Conflicts s.etag info.etag) :
    Contract s.options s.etag offset (ex ++ ex') (.error (s.changed info.etag)) s.etag := by
  obtain ⟨hOk, -, hTag⟩ := settleHead_ok hInfo
  rw [hTag] at hConflict
  have hChecked := (checked_of_fallback hSent h416 hHead).2 ⟨h, rfl, hOk, rfl⟩
  refine ⟨(fun _ h => nomatch h), ?_, ?_, ?_, fun hNone => absurd hChecked (hNone _), ?_,
    attempts_of_fallback hSent hHead⟩
  · simp [notFound_of_fallback hSent h416 hHead, hOk.not_missing]
  · simp only [failsWith_error, changed_has, beq_self_eq_true, true_iff]
    exact ⟨_, hChecked, hConflict⟩
  · intro e hChecked'
    obtain ⟨h', ⟨⟩, -, rfl⟩ := (checked_of_fallback hSent h416 hHead).1 hChecked'
    exact (pin_of_ne hConflict.2.1 _).symm
  · simp [fellBack_of_fallback hSent h416 hHead, hConflict]

/- The HEAD after a refused GET agreed on the tag and reported another size than the
offset. -/
theorem contract_truncated {r h : Response} {info : FileInfo}
    (hSent : Sent (.getFrom offset) s.options.attempts ex (some r)) (h416 : r.status = 416)
    (hHead : Sent .head s.options.attempts ex' (some h)) (hInfo : settleHead h = .ok info)
    (hAgree : ¬Conflicts s.etag info.etag) (hSize : info.size ≠ offset) :
    Contract s.options s.etag offset (ex ++ ex') (.error (s.truncated info.size offset))
      (pin s.etag info.etag) := by
  obtain ⟨hOk, hLength, hTag⟩ := settleHead_ok hInfo
  rw [hTag] at hAgree ⊢
  rw [hLength] at hSize
  have hChecked := (checked_of_fallback hSent h416 hHead).2 ⟨h, rfl, hOk, rfl⟩
  refine ⟨(fun _ h => nomatch h), ?_, ?_, ?_, fun hNone => absurd hChecked (hNone _), ?_,
    attempts_of_fallback hSent hHead⟩
  · simp [notFound_of_fallback hSent h416 hHead, hOk.not_missing]
  · simp [checked_of_fallback hSent h416 hHead, hAgree]
  · intro e hChecked'
    obtain ⟨h', ⟨⟩, -, rfl⟩ := (checked_of_fallback hSent h416 hHead).1 hChecked'
    rfl
  · simp only [failsWith_error, truncated_has, beq_self_eq_true, true_iff]
    exact ⟨h, (fellBack_of_fallback hSent h416 hHead).2 ⟨rfl, hOk⟩, hAgree, hSize⟩

/- The HEAD after a refused GET agreed on the tag and found the size to be the offset. -/
theorem contract_atEnd {r h : Response} {info : FileInfo}
    (hSent : Sent (.getFrom offset) s.options.attempts ex (some r)) (h416 : r.status = 416)
    (hHead : Sent .head s.options.attempts ex' (some h)) (hInfo : settleHead h = .ok info)
    (hAgree : ¬Conflicts s.etag info.etag) (hSize : info.size = offset) :
    Contract s.options s.etag offset (ex ++ ex') (.ok (Stream.ofBytes [])) (pin s.etag info.etag) := by
  obtain ⟨hOk, hLength, hTag⟩ := settleHead_ok hInfo
  rw [hTag] at hAgree ⊢
  rw [hLength] at hSize
  have hChecked := (checked_of_fallback hSent h416 hHead).2 ⟨h, rfl, hOk, rfl⟩
  refine ⟨?_, ?_, ?_, ?_, fun hNone => absurd hChecked (hNone _), ?_,
    attempts_of_fallback hSent hHead⟩
  · rintro st ⟨⟩
    exact .inr ⟨h, (fellBack_of_fallback hSent h416 hHead).2 ⟨rfl, hOk⟩, hAgree, hSize, rfl⟩
  · simp [notFound_of_fallback hSent h416 hHead, hOk.not_missing]
  · simp [checked_of_fallback hSent h416 hHead, hAgree]
  · intro e hChecked'
    obtain ⟨h', ⟨⟩, -, rfl⟩ := (checked_of_fallback hSent h416 hHead).1 hChecked'
    rfl
  · simp only [failsWith_ok, false_iff]
    rintro ⟨h', hFell, -, hOther⟩
    obtain ⟨⟨⟩, -⟩ := (fellBack_of_fallback hSent h416 hHead).1 hFell
    exact hOther hSize

/- Every way an opening at the end goes, after a refused GET, meets the contract. -/
theorem Ended.contract {r : Response} {res : Except Failure Stream} {kept : String}
    (hSent : Sent (.getFrom offset) s.options.attempts ex (some r)) (h416 : r.status = 416)
    (hEnded : Ended s offset ex' res kept) :
    Contract s.options s.etag offset (ex ++ ex') res kept := by
  cases hEnded with
  | gaveUp hHead hQuiet => exact contract_headGaveUp hSent h416 hHead hQuiet
  | refused hHead hRefused => exact contract_headRefused hSent h416 hHead hRefused
  | changed hHead hInfo hConflict => exact contract_headChanged hSent h416 hHead hInfo hConflict
  | truncated hHead hInfo hAgree hSize =>
    exact contract_truncated hSent h416 hHead hInfo hAgree hSize
  | atEnd hHead hInfo hAgree hSize => exact contract_atEnd hSent h416 hHead hInfo hAgree hSize

/- Every way an opening goes meets the contract. -/
theorem Opened.contract {res : Except Failure Stream} {kept : String}
    (hOpened : Opened s offset ex res kept) : Contract s.options s.etag offset ex res kept := by
  cases hOpened with
  | gaveUp hSent hQuiet => exact contract_gaveUp hSent hQuiet
  | read hSent hRead hAgree => exact contract_read hSent hRead hAgree
  | changed hSent hRead hConflict => exact contract_changed hSent hRead hConflict
  | refused hSent hRefused _ => exact contract_refused hSent hRefused
  | atEnd hSent h416 hEnded => exact Ended.contract hSent h416 hEnded

end Ways

------------------------------------------------------------
-- Opening a Source over Any Server
------------------------------------------------------------

variable {τ : Type} [Server τ]

/- Opening a source over any server meets the contract, read off the exchanges that the
same opening makes through a logged server. -/
theorem openAt_contract (s : Source τ) (offset : Nat) :
    Contract s.options s.etag offset (s.logged.openAt offset).2.server.log
      (s.openAt offset).1 (s.openAt offset).2.etag := by
  obtain ⟨ex, hLog, hOpened⟩ := openAt_opened s.logged offset
  obtain ⟨hRes, hSrc⟩ := openAt_unlog s.logged offset
  rw [unlog_logged] at hRes hSrc
  have hKept : (s.logged.openAt offset).2.etag = (s.openAt offset).2.etag :=
    congrArg Source.etag hSrc
  have hEx : (s.logged.openAt offset).2.server.log = ex := by
    rw [hLog]
    rfl
  rw [hEx, ← hRes, ← hKept]
  exact hOpened.contract

/- A tag once kept stays through an opening. -/
theorem etag_openAt (s : Source τ) (offset : Nat) (h : s.etag ≠ "") :
    (s.openAt offset).2.etag = s.etag := by
  have hContract := openAt_contract s offset
  by_cases hSeen : ∃ e, Checked offset (s.logged.openAt offset).2.server.log e
  · obtain ⟨e, hChecked⟩ := hSeen
    rw [hContract.pinned e hChecked, pin_of_ne h]
  · exact hContract.unpinned fun e hChecked => hSeen ⟨e, hChecked⟩

/- Opening a source at each offset in turn. -/
def opens (s : Source τ) (offsets : List Nat) : Source τ :=
  offsets.foldl (fun s offset => (s.openAt offset).2) s

/- A tag once kept stays through every later opening, as each opening keeps it. -/
theorem etag_opens (s : Source τ) (offsets : List Nat) (h : s.etag ≠ "") :
    (s.opens offsets).etag = s.etag := by
  induction offsets generalizing s with
  | nil => rfl
  | cons offset rest ih =>
    have hStep := etag_openAt s offset h
    calc (s.opens (offset :: rest)).etag = ((s.openAt offset).2.opens rest).etag := rfl
      _ = (s.openAt offset).2.etag := ih _ (hStep ▸ h)
      _ = s.etag := hStep

end Source

end Http

end LineBatch
