import LineBatch.Location.Url
import LineBatch.Decimal.Integer

/-
  Basics of reading over HTTP.

  A location is read over HTTP when it is a URL with the scheme http
  or https, in any case, and a host.

  A partial answer says which octets it carries in a header of the
  form "bytes start-end/total", where the total may be "*" when the
  server does not know it; it is then given as -1.

  Key definitions:
    * `Http.isUrl`, `ContentRange`, `ContentRange.parse`
-/

namespace LineBatch

namespace Http

/-- Whether a location is an HTTP or HTTPS URL with a host. -/
def isUrl (location : String) : Bool :=
  match Url.parse (Bytes.ofString location) with
  | .ok u => (u.scheme = "http" || u.scheme = "https") && !u.host.isEmpty
  | .error _ => false

end Http

/-- The octets a partial answer carries, and the size of the whole; -1 when unknown. -/
structure ContentRange where
  start : Int
  stop : Int
  total : Int
  deriving DecidableEq, Repr

namespace ContentRange

/-- Reads a Content-Range header. -/
def parse (header : String) : Except String ContentRange := do
  let h := if header.startsWith "bytes " then (header.drop 6).toString else header
  let bad : Except String ContentRange := .error ("invalid Content-Range format: " ++ h)
  match h.splitOn "/" with
  | [range, total] =>
    match range.splitOn "-" with
    | [a, b] =>
      let start ← (Decimal.parseInt "strconv.ParseInt" a).mapError ("invalid start byte: " ++ ·)
      let stop ← (Decimal.parseInt "strconv.ParseInt" b).mapError ("invalid end byte: " ++ ·)
      let total ← if total = "*" then pure (-1)
        else (Decimal.parseInt "strconv.ParseInt" total).mapError ("invalid total bytes: " ++ ·)
      pure ⟨start, stop, total⟩
    | _ => bad
  | _ => bad

end ContentRange

end LineBatch
