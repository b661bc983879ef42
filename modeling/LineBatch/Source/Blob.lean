import LineBatch.Source.Stream
import LineBatch.Source.Bucket
import LineBatch.Text.Quoted

/-
  Sources reading one object of a bucket.

  Opening looks the object up first. A missing object is reported as
  not found. The first successful look-up remembers the object's
  stamp; when a later one finds another stamp, the object changed
  since and the source refuses to open. An offset beyond the object's
  size is refused too. Otherwise the stream holds the object's bytes
  from the offset on, as they are at that moment: later writes do not
  reach a stream already open.

  Key definitions:
    * `BlobSource`, `BlobSource.openAt`, `BlobSource.size`
-/

namespace LineBatch

/-- A source reading the object under `key`; `seen` is the stamp of the first object it
opened, and `missing` says how the bucket reports an absent object. -/
structure BlobSource where
  bucket : Bucket
  key : String
  name : String
  seen : Option Nat
  missing : String := "blob not found"
  deriving Repr

namespace BlobSource

/-- A source on a key of a bucket, named by the key. -/
def make (bucket : Bucket) (key : String) : BlobSource := { bucket, key, name := key, seen := none }

/-- The failure for a missing object. -/
def notFound (s : BlobSource) : Failure :=
  .cause (.wrap (s.name ++ ": ") (.condition .sourceNotFound)
    (": blob (key " ++ Quoted.quote s.key ++ ") (code=NotFound): " ++ s.missing))

/-- The size of the object. -/
def size (s : BlobSource) : Except Failure Nat :=
  match s.bucket.get? s.key with
  | some b => .ok b.data.length
  | none => .error s.notFound

/-- Opens a found object at an offset, if the offset is within it. -/
def openBlob (s : BlobSource) (b : Blob) (offset : Nat) : Except Failure Stream × BlobSource :=
  if b.data.length < offset then
    (.error (.cause (.wrap (s.name ++ ": ") (.condition .sourceTruncated)
      (" (size " ++ toString b.data.length ++ ", offset " ++ toString offset ++ ")"))), s)
  else (.ok (Stream.ofBytes (b.data.drop offset)), s)

/-- Opens a stream on the object at an offset. -/
def openAt (s : BlobSource) (offset : Nat) : Except Failure Stream × BlobSource :=
  match s.bucket.get? s.key with
  | none => (.error s.notFound, s)
  | some b =>
    match s.seen with
    | some first =>
      if b.stamp ≠ first then
        (.error (.cause (.wrap (s.name ++ ": ") (.condition .sourceChanged)
          (" (etag " ++ b.tag ++ ", was " ++ b.tag ++ ")"))), s)
      else s.openBlob b offset
    | none => { s with seen := some b.stamp }.openBlob b offset

/-- Replaces the object. -/
def rewrite (s : BlobSource) (data : Bytes) : BlobSource :=
  { s with bucket := s.bucket.put s.key data }

/-- Deletes the object. -/
def delete (s : BlobSource) : BlobSource :=
  { s with bucket := s.bucket.remove s.key }

/-- A source closes without failing; the bucket stays with its owner. -/
instance : ByteSource BlobSource where
  name s := s.name
  openAt s offset := s.openAt offset
  close s := (none, s)
  bound s := ((s.bucket.get? s.key).map (·.data.length)).getD 0

end BlobSource

end LineBatch
