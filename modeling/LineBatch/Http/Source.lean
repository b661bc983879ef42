import LineBatch.Http.Client

/-
  Sources reading a resource over HTTP.

  Opening at an offset asks for the resource from the offset on. A
  server refuses such a request (416) when the offset is its size,
  which is a fair place to resume after the last line; the source then
  asks for the metadata instead and opens an empty stream when the
  size is the offset, and reports the source as shorter than the
  offset otherwise.

  The first entity tag the source sees that is not empty is kept; an
  answer with another tag that is not empty means the resource changed
  since, and the source refuses to open. A resource the server does
  not find is reported as such.

  Closing the source closes nothing that can fail.

  Key definitions:
    * `Http.Source`, `Http.Source.openAt`, `Http.Source.size`
-/

namespace LineBatch

namespace Http

/-- A source on the resource at `url`: the client's options, the entity tag it keeps
(empty until it sees one), and the server it asks. -/
structure Source (τ : Type) where
  url : String
  options : Options
  etag : String := ""
  server : τ

namespace Source

variable {τ : Type} [Server τ]

/-- The failure of a request, under the source's name; a resource that was not found is
reported as a missing source. -/
def wrap (s : Source τ) (c : Cause) : Failure :=
  if c.has .httpNotFound then
    .cause (.wrap (s.url ++ ": ") (.condition .sourceNotFound) (": " ++ Utf8.lossy c.message))
  else .cause (.wrap (s.url ++ ": ") c "")

/-- The failure of a resource whose entity tag is no longer the one kept. -/
def changed (s : Source τ) (etag : String) : Failure :=
  .cause (.wrap (s.url ++ ": ") (.condition .sourceChanged)
    (" (etag " ++ etag ++ ", was " ++ s.etag ++ ")"))

/-- The failure of a resource whose size is not the offset it is opened at. -/
def truncated (s : Source τ) (size : Int) (offset : Nat) : Failure :=
  .cause (.wrap (s.url ++ ": ") (.condition .sourceTruncated)
    (" (size " ++ toString size ++ ", offset " ++ toString offset ++ ")"))

/-- Checks an entity tag against the one kept: an empty tag passes, the first tag that is
not empty is kept, and another tag means the resource changed. -/
def checkETag (s : Source τ) (etag : String) : Except Failure (Source τ) :=
  if etag.isEmpty then .ok s
  else if s.etag.isEmpty then .ok { s with etag }
  else if etag ≠ s.etag then .error (s.changed etag)
  else .ok s

/-- Opens at the end of the resource: its size must be the offset. -/
def openAtEnd (s : Source τ) (offset : Nat) : Except Failure Stream × Source τ :=
  match head s.options s.server with
  | (.error c, srv) => (.error ({ s with server := srv }.wrap c), { s with server := srv })
  | (.ok info, srv) =>
    let s := { s with server := srv }
    match s.checkETag info.etag with
    | .error f => (.error f, s)
    | .ok s =>
      if info.size ≠ offset then (.error (s.truncated info.size offset), s)
      else (.ok (Stream.ofBytes []), s)

/-- Opens a stream on the resource at an offset. -/
def openAt (s : Source τ) (offset : Nat) : Except Failure Stream × Source τ :=
  match getFrom s.options offset s.server with
  | (.error c, srv) =>
    let s := { s with server := srv }
    if c.has .rangeNotSatisfiable then s.openAtEnd offset else (.error (s.wrap c), s)
  | (.ok rr, srv) =>
    let s := { s with server := srv }
    match s.checkETag rr.etag with
    | .error f => (.error f, s)
    | .ok s => (.ok rr.body, s)

/-- The size of the resource, which the server must report. -/
def size (s : Source τ) : Except Failure Int × Source τ :=
  match head s.options s.server with
  | (.error c, srv) => (.error ({ s with server := srv }.wrap c), { s with server := srv })
  | (.ok info, srv) =>
    if info.size < 0 then
      (.error (.plain (s.url ++ ": server did not report a content length")), { s with server := srv })
    else (.ok info.size, { s with server := srv })

instance : ByteSource (Source τ) where
  name s := s.url
  openAt s offset := s.openAt offset
  close s := (none, s)
  bound s := Server.bound s.server

end Source

end Http

end LineBatch
