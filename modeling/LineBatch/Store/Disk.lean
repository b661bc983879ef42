import LineBatch.Source.Blob
import LineBatch.Location.Parse

/-
  Files on a disk, and the buckets that are its directories.

  A disk holds files by absolute path, each with its bytes and the
  stamp of the write that made it, and the directories that exist;
  the root always exists. A "file://" bucket URL names a directory:
  opening the bucket needs the directory to exist. The objects of the
  bucket are the files in it, by name.

  Reading an object of a file bucket that is not there reports the
  failed look-up of its path. A source opened from a location reads
  one object and is named by the location as written.

  Paths as a program writes them are taken against its working
  directory. Reading a file, making directories and opening a file
  for appending fail as the system reports it, with the path as
  written.

  Key definitions:
    * `Disk`, `Disk.write`, `Disk.openBucket`, `Disk.openSource`
    * `Disk.joinPath`, `Disk.resolve`, `Disk.readFile`, `Disk.makeDirs`, `Disk.openAppend`
-/

namespace LineBatch

/-- Files by absolute path, the directories that exist, and the number of writes. -/
structure Disk where
  files : List (String × Blob) := []
  dirs : List String := []
  writes : Nat := 0
  deriving Repr

namespace Disk

/-- Whether a directory exists; the root always does. -/
def isDir (d : Disk) (p : String) : Bool := p == "/" || d.dirs.contains p

/-- The file at a path. -/
def file? (d : Disk) (p : String) : Option Blob :=
  (d.files.find? fun (q, _) => q == p).map (·.2)

/-- Removes the file at a path. -/
def remove (d : Disk) (p : String) : Disk :=
  { d with files := d.files.filter fun (q, _) => q != p }

/-- Writes a file, replacing any file at the path. -/
def write (d : Disk) (p : String) (data : Bytes) : Disk :=
  let stamp := d.writes + 1
  { d with files := (p, ⟨data, stamp⟩) :: (d.remove p).files, writes := stamp }

/-- Adds a directory and every directory above it. -/
def addDir (d : Disk) (p : String) : Disk :=
  let parts := (p.splitOn "/").filter (· != "")
  let paths := (List.range parts.length).map fun i => "/" ++ "/".intercalate (parts.take (i + 1))
  { d with dirs := d.dirs ++ paths.filter fun q => !d.dirs.contains q }

/-- A path inside a directory, cleaned. -/
def joinPath (dir name : String) : String :=
  Utf8.lossy (LocalPath.clean (Bytes.ofString (dir ++ "/" ++ name)))

/-- The directory a file bucket URL names, absolute and clean, if it exists; otherwise
why the bucket cannot be opened. -/
def openBucket (d : Disk) (url : Bytes) : Except String String :=
  let dir := Utf8.lossy (LocalPath.clean (url.drop "file://".length))
  if d.isDir dir then .ok dir
  else if (d.file? dir).isSome then .error (dir ++ " is not a directory")
  else .error ("stat " ++ dir ++ ": no such file or directory")

/-- How a file bucket reports an object that is not a file. -/
def missingText (d : Disk) (path : String) : String :=
  if d.isDir path then "file does not exist" else "stat " ++ path ++ ": no such file or directory"

/-- A source on the object a location names, taken against the working directory `cwd`;
or why the location cannot be opened. -/
def openSource (d : Disk) (cwd location : String) : Except Failure BlobSource := do
  let (url, key) ← Location.parse cwd location
  match d.openBucket url with
  | .error e => throw (.plain ("batch: open bucket " ++ Utf8.lossy url ++ ": " ++ e))
  | .ok dir =>
    let k := Utf8.lossy key
    let path := joinPath dir k
    let objects := match d.file? path with
      | some b => [(k, b)]
      | none => []
    return { bucket := ⟨objects, d.writes⟩, key := k, name := location, seen := none,
             missing := d.missingText path }

/-- A path as written, made absolute against the working directory `cwd` and clean. -/
def resolve (cwd p : String) : String := Utf8.lossy (LocalPath.absolute cwd (Bytes.ofString p))

/-- The directory of a path as written, clean; "." when it names none. -/
def dirOf (p : String) : String :=
  Utf8.lossy (LocalPath.clean (LocalPath.split (Bytes.ofString p)).1)

/-- Whether a directory above an absolute path is a file, so that nothing can be below it. -/
def underFile (d : Disk) (p : String) : Bool :=
  let parts := (p.splitOn "/").filter (· != "")
  (List.range (parts.length - 1)).any fun i =>
    (d.file? ("/" ++ "/".intercalate (parts.take (i + 1)))).isSome

/-- The contents of the file at a path, taken against `cwd`, or why it cannot be read;
the path is shown as written. -/
def readFile (d : Disk) (cwd p : String) : Except String Bytes :=
  let full := resolve cwd p
  match d.file? full with
  | some b => .ok b.data
  | none =>
    if d.isDir full then .error ("read " ++ p ++ ": is a directory")
    else if d.underFile full then .error ("open " ++ p ++ ": not a directory")
    else .error ("open " ++ p ++ ": no such file or directory")

/-- Makes a directory, written as a path against `cwd`, and every directory above it. A
file in the way fails, named by the part of the path that leads to it. -/
def makeDirs (d : Disk) (cwd p : String) : Except String Disk :=
  let lead := if p.startsWith "/" then "/" else ""
  let parts := (p.splitOn "/").filter (· != "")
  let prefixes := (List.range parts.length).map fun i => lead ++ "/".intercalate (parts.take (i + 1))
  match prefixes.find? fun q => (d.file? (resolve cwd q)).isSome with
  | some q => .error ("mkdir " ++ q ++ ": not a directory")
  | none => .ok (d.addDir (resolve cwd p))

/-- Opens a file, written as a path against `cwd`, for appending: an existing file is
kept, a missing one is made empty. A directory, or a directory missing or a file above
it, fails. -/
def openAppend (d : Disk) (cwd p : String) : Except String Disk :=
  let full := resolve cwd p
  if d.isDir full then .error ("open " ++ p ++ ": is a directory")
  else if (d.file? full).isSome then .ok d
  else if d.underFile full then .error ("open " ++ p ++ ": not a directory")
  else if !d.isDir (resolve "/" (dirOf full)) then .error ("open " ++ p ++ ": no such file or directory")
  else .ok (d.write full [])

/-- Appends octets to the file at an absolute path. -/
def append (d : Disk) (p : String) (data : Bytes) : Disk :=
  d.write p (((d.file? p).map (·.data)).getD [] ++ data)

/-- The root is a directory of every disk. -/
theorem isDir_root (d : Disk) : d.isDir "/" = true := by simp [isDir]

end Disk

end LineBatch
