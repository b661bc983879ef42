import LineBatch.Http.Basic
import LineBatch.Source.Stream

/-
  A client reading one resource over HTTP.

  The client asks a server for the metadata of the resource (a HEAD
  request) or for the resource from an offset on (a GET with the
  open-ended range "bytes=N-"). A server answers every request with a
  response or a failure of the connection, and may change as it
  answers: it is any state with an answer function.

  Each request is attempted up to one more time than the retries the
  options allow. A failed connection and a status of 500 or more are
  tried again; any other response settles the request. When every
  attempt failed, the request fails with the last failure. Before each
  retry the client waits: the first wait doubled for every retry
  before it, up to the largest wait, computed in 64-bit integers.

  A HEAD settles on a success status with the size the response
  reports, its entity tag without weak marker and quotes, whether it
  accepts ranges, its type and its time. A GET settles on a partial
  answer (206) whose Content-Range, if any, starts at the offset, or on
  a whole answer (200) when the offset is zero; a 206 whose range
  starts elsewhere, or a 200 at a later offset, means the server does
  not serve ranges. A 416 says the range cannot be served. Otherwise
  404 and 410 say the resource is not found, 403 and 401 that it may
  not be read, and any other status is unexpected.

  Key definitions:
    * `Http.Request`, `Http.Response`, `Http.Answer`, `Http.Server`
    * `Http.Options`, `Http.Options.backoff`, `Http.retry`, `Http.head`, `Http.getFrom`
-/

namespace LineBatch

namespace Http

------------------------------------------------------------
-- Servers
------------------------------------------------------------

/-- A request of the client. -/
inductive Request where
  /-- The metadata of the resource. -/
  | head
  /-- The resource from an offset on. -/
  | getFrom (offset : Nat)
  deriving DecidableEq, Repr

/-- A response: its status and reason, the headers the client reads, and its body as a
stream. A header that is not sent is empty; a length that is not sent is -1, and a time
that is not sent or does not read is none. -/
structure Response where
  status : Nat
  reason : String := ""
  etag : String := ""
  contentRange : String := ""
  contentLength : Int := -1
  acceptRanges : String := ""
  contentType : String := ""
  lastModified : Option Int := none
  body : Stream := Stream.ofBytes []

/-- What a request gets: a response, or the failure of the connection. -/
inductive Answer where
  | response (r : Response)
  | failed (message : String)

/-- A server: the answer to a request, and the server after it, and a bound on the octets
of any body it sends as it is now, which bounds the work of a reader. -/
class Server (τ : Type) where
  answer : τ → Request → Answer × τ
  bound : τ → Nat

------------------------------------------------------------
-- Statuses
------------------------------------------------------------

/-- The status line of a response, as the client shows it. -/
def Response.statusLine (r : Response) : String := toString r.status ++ " " ++ r.reason

/-- The failure of a status of 500 or more. -/
def Response.serverError (r : Response) : Cause :=
  .wrap "" (.condition .serverError) (": " ++ r.statusLine)

/-- What a status that is neither retried nor read says: nothing for a success, else why
the resource cannot be read. -/
def checkStatus (status : Nat) : Option Cause :=
  if 200 ≤ status ∧ status < 300 then none
  else if status = 404 ∨ status = 410 then some (.condition .httpNotFound)
  else if status = 403 then some (.plain "http: access forbidden")
  else if status = 401 then some (.plain "http: unauthorized")
  else some (.plain ("unexpected status code: " ++ toString status))

/-- An entity tag without its weak marker and its quotes. -/
def cleanETag (etag : String) : String :=
  let cs := if etag.startsWith "W/" then etag.toList.drop 2 else etag.toList
  String.ofList (((cs.dropWhile (· = '"')).reverse.dropWhile (· = '"')).reverse)

------------------------------------------------------------
-- Attempts
------------------------------------------------------------

/-- The options of a client: how many times a failed request is tried again, and the
first and the largest wait before a retry, in nanoseconds. -/
structure Options where
  retryAttempts : Int := 2
  retryBackoff : Int64 := 1000
  retryMaxBackoff : Int64 := 2000
  deriving Repr

/-- The number of attempts of every request. -/
def Options.attempts (o : Options) : Nat := (o.retryAttempts + 1).toNat

/-- The wait before retry `attempt` of a request (the first retry is attempt 1), before
jitter: the first wait doubled for each retry before it, and capped at the largest wait.
The factor is a 64-bit one shifted left by `attempt - 1` taken as an unsigned number, so it
is 0 from a shift of 64 on; the product wraps around as 64-bit integers do, and the cap is
applied to what it wrapped to. -/
def Options.backoff (o : Options) (attempt : Int) : Int64 :=
  let shift := ((attempt - 1) % Int.pow 2 64).toNat
  let factor : Int64 := if shift < 64 then Int64.ofNat (Nat.pow 2 shift) else 0
  let wait := o.retryBackoff * factor
  if o.retryMaxBackoff < wait then o.retryMaxBackoff else wait

variable {τ : Type} [Server τ]

/-- Sends a request up to `n` more times: a failed connection or a status of 500 or more
is tried again, with the failure kept as the last one; any other response is settled by
`settle`. Runs out with the last failure, none if nothing was sent. -/
def retry {α : Type} (req : Request) (settle : Response → Except Cause α) :
    Nat → Option Cause → τ → Except (Option Cause) (Except Cause α) × τ
  | 0, last, srv => (.error last, srv)
  | n + 1, _, srv =>
    match Server.answer srv req with
    | (.failed m, srv) => retry req settle n (some (.plain m)) srv
    | (.response r, srv) =>
      if 500 ≤ r.status then retry req settle n (some r.serverError) srv
      else (.ok (settle r), srv)

/-- The failure of a request whose attempts all failed. -/
def exhausted (what : String) (o : Options) (last : Option Cause) : Cause :=
  .wrap (what ++ " request failed after " ++ toString (o.retryAttempts + 1) ++ " attempts: ")
    (last.getD (.plain "%!w(<nil>)")) ""

/-- Sends a request with every attempt the options allow. -/
def send {α : Type} (what : String) (o : Options) (req : Request)
    (settle : Response → Except Cause α) (srv : τ) : Except Cause α × τ :=
  match retry req settle o.attempts none srv with
  | (.ok res, srv) => (res, srv)
  | (.error last, srv) => (.error (exhausted what o last), srv)

------------------------------------------------------------
-- Requests
------------------------------------------------------------

/-- The metadata of a resource. -/
structure FileInfo where
  size : Int
  etag : String
  acceptsRanges : Bool
  contentType : String
  lastModified : Option Int

/-- An answer to a request from an offset: its body, its length, the offset of its first
byte, the size of the whole (-1 when unknown) and its entity tag. -/
structure RangeResponse where
  body : Stream
  contentLength : Int
  start : Int
  total : Int
  etag : String

/-- What a HEAD settles on. -/
def settleHead (r : Response) : Except Cause FileInfo :=
  match checkStatus r.status with
  | some c => .error c
  | none => .ok ⟨r.contentLength, cleanETag r.etag, r.acceptRanges = "bytes", r.contentType,
      r.lastModified⟩

/-- What a GET from an offset settles on. -/
def settleGet (offset : Nat) (r : Response) : Except Cause RangeResponse :=
  if r.status = 206 then
    let rr : RangeResponse := ⟨r.body, r.contentLength, offset, -1, cleanETag r.etag⟩
    if r.contentRange.isEmpty then .ok rr
    else
      match ContentRange.parse r.contentRange with
      | .error m => .error (.plain m)
      | .ok cr =>
        if cr.start ≠ offset then
          .error (.wrap "" (.condition .rangeNotSupported)
            (": asked for " ++ toString offset ++ ", got " ++ toString cr.start))
        else .ok { rr with total := cr.total }
  else if r.status = 200 then
    if 0 < offset then .error (.condition .rangeNotSupported)
    else .ok ⟨r.body, r.contentLength, 0, r.contentLength, cleanETag r.etag⟩
  else if r.status = 416 then .error (.condition .rangeNotSatisfiable)
  else .error ((checkStatus r.status).getD (.plain ("unexpected status code: " ++ toString r.status)))

/-- The metadata of the resource. -/
def head (o : Options) (srv : τ) : Except Cause FileInfo × τ :=
  send "head" o .head settleHead srv

/-- The resource from an offset on. -/
def getFrom (o : Options) (offset : Nat) (srv : τ) : Except Cause RangeResponse × τ :=
  send "range" o (.getFrom offset) (settleGet offset) srv

end Http

end LineBatch
