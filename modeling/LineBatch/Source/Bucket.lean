import LineBatch.Text.Utf8

/-
  Buckets of objects held in memory.

  A bucket maps keys to objects. An object is its bytes and the stamp
  of the write that made it: every write takes the next stamp, so a
  rewritten object is told from the one before even when its bytes
  are the same.

  Key definitions:
    * `Blob`, `Bucket`, `Bucket.get?`, `Bucket.put`, `Bucket.remove`
    * `Bucket.get?_put_self`
-/

namespace LineBatch

/-- An object: its bytes and the stamp of its write. -/
structure Blob where
  data : Bytes
  stamp : Nat
  deriving Repr

/-- The entity tag shown for an object. A tag holds the time of the write, which is not
kept here, so every tag is shown the same; objects are told apart by their stamps. -/
def Blob.tag (_ : Blob) : String := "ETAG"

/-- Objects by key, and the number of writes so far. -/
structure Bucket where
  objects : List (String × Blob)
  writes : Nat
  deriving Repr

namespace Bucket

/-- A bucket with nothing in it. -/
def empty : Bucket := ⟨[], 0⟩

/-- The object under a key. -/
def get? (b : Bucket) (key : String) : Option Blob :=
  (b.objects.find? fun (k, _) => k == key).map (·.2)

/-- Removes the object under a key. -/
def remove (b : Bucket) (key : String) : Bucket :=
  { b with objects := b.objects.filter fun (k, _) => k != key }

/-- Writes an object under a key, replacing any object there. -/
def put (b : Bucket) (key : String) (data : Bytes) : Bucket :=
  let stamp := b.writes + 1
  { objects := (key, ⟨data, stamp⟩) :: (b.remove key).objects, writes := stamp }

/-- The keys of the bucket, in order. -/
def keys (b : Bucket) : List String := (b.objects.map (·.1)).mergeSort (fun x y => decide (x ≤ y))

@[simp] theorem get?_put_self (b : Bucket) (key : String) (data : Bytes) :
    (b.put key data).get? key = some ⟨data, b.writes + 1⟩ := by
  simp [put, get?]

end Bucket

end LineBatch
