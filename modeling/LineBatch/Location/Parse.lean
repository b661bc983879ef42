import LineBatch.Location.Url
import LineBatch.Error

/-
  Input locations.

  A location names an object in a bucket. A location without "://"
  is a local path: made absolute against the working directory and
  cleaned, it is split at its last slash into the directory, which
  becomes a file bucket, and the file name, which is the key. A
  file URL is split the same way, without cleaning, and must name a
  file. Any other URL names a bucket by its scheme, host and query;
  its path without the leading slash is the key, which must not be
  empty.

  Key definitions:
    * `LocalPath.clean`, `LocalPath.split`
    * `Location.parse`
-/

namespace LineBatch

namespace LocalPath

/-- The pieces of a path between its slashes. -/
def pieces (p : Bytes) : List Bytes := p.splitOn 47

/-- Removes "." pieces and resolves ".." against the piece before it; above the root a
".." is dropped, and a relative path keeps the ones it cannot resolve. -/
def resolve (rooted : Bool) : List Bytes → List Bytes → List Bytes
  | [], acc => acc.reverse
  | p :: ps, acc =>
    if p.isEmpty || p = [46] then resolve rooted ps acc
    else if p = [46, 46] then
      match acc with
      | q :: qs => if q = [46, 46] then resolve rooted ps (p :: acc) else resolve rooted ps qs
      | [] => if rooted then resolve rooted ps [] else resolve rooted ps [p]
    else resolve rooted ps (p :: acc)

/-- The shortest path naming the same file: single slashes, no "." pieces, and ".."
pieces only at the start of a relative path. An empty path is ".". -/
def clean (p : Bytes) : Bytes :=
  let rooted := p.head? = some 47
  let body := (List.intersperse [47] (resolve rooted (pieces p) [])).flatten
  if rooted then 47 :: body else if body.isEmpty then [46] else body

/-- The directory of a path, up to and with its last slash, and the name after it. -/
def split (p : Bytes) : Bytes × Bytes :=
  match Url.lastIndex 47 p with
  | some i => (p.take (i + 1), p.drop (i + 1))
  | none => ([], p)

/-- A path made absolute against a working directory. -/
def absolute (cwd : String) (p : Bytes) : Bytes :=
  if p.head? = some 47 then clean p else clean (Bytes.ofString cwd ++ [47] ++ p)

end LocalPath

namespace Location

/-- Whether a text holds "://". -/
def hasScheme (s : Bytes) : Bool := (Url.indexOf (Bytes.ofString "://") s).isSome

/-- The bucket URL and the key a location names; a local path is taken against `cwd`. -/
def parse (cwd : String) (loc : String) : Except Failure (Bytes × Bytes) :=
  let raw := Bytes.ofString loc
  if !hasScheme raw then
    let (dir, file) := LocalPath.split (LocalPath.absolute cwd raw)
    .ok (Bytes.ofString "file://" ++ dir, file)
  else
    match Url.parse raw with
    | .error e => .error (.plain ("batch: parse location " ++ loc ++ ": " ++ e))
    | .ok u =>
      if u.scheme = "file" then
        let (dir, file) := LocalPath.split u.path
        if file.isEmpty then .error (.plain ("batch: location " ++ loc ++ " has no object name"))
        else .ok (Bytes.ofString "file://" ++ dir, file)
      else
        let key := if u.path.head? = some 47 then u.path.drop 1 else u.path
        if key.isEmpty then .error (.plain ("batch: location " ++ loc ++ " has no object key"))
        else
          let query := if u.rawQuery.isEmpty then [] else [63] ++ u.rawQuery
          .ok (Bytes.ofString (u.scheme ++ "://") ++ u.host ++ query, key)

end Location

end LineBatch
