import LineBatch.Cli.Program

/-
  The command-line program.

  A command runs on a picture of the files it may touch: every
  argument and settings variable that names a file or directory, the
  input, output and log file that a settings file among them names,
  and the directories all of these are in. Afterwards the files the
  command wrote are written, with their directories, and the files it
  removed are removed. Its messages and log lines go to standard
  error, its reports to standard output with the time the command
  took, and its exit code is the program's.

  A run without an identifier gets a random version 4 UUID.

  Key definitions:
    * `Cli.pathsOf`, `Cli.settingsPaths`, `Cli.uuidOf`
    * `main`
-/

namespace LineBatch

namespace Cli

/-- The paths an argument may name: the argument, what follows its first equals sign,
each without a "file://" scheme and query. -/
def pathsOf (arg : String) : List String :=
  let parts := match arg.splitOn "=" with
    | _ :: rest@(_ :: _) => [arg, "=".intercalate rest]
    | _ => [arg]
  parts.map fun p =>
    if p.startsWith "file://" then String.ofList ((p.toList.drop 7).takeWhile (· ≠ '?')) else p

/-- The input, output and log file a settings file names. -/
def settingsPaths (contents : Bytes) : List String :=
  match Settings.loadFile contents with
  | .ok c => [c.input, c.output, c.log.file].flatMap pathsOf
  | .error _ => []

/-- A version 4 UUID made of random octets. -/
def uuidOf (bs : Bytes) : String :=
  let bs := bs ++ List.replicate (16 - bs.length) 0
  let bs := bs.set 6 ((bs.getD 6 0 &&& 0x0f) ||| 0x40)
  let bs := bs.set 8 ((bs.getD 8 0 &&& 0x3f) ||| 0x80)
  let h := Bytes.hex (bs.take 16)
  "-".intercalate [String.ofList (h.toList.take 8), String.ofList ((h.toList.drop 8).take 4),
    String.ofList ((h.toList.drop 12).take 4), String.ofList ((h.toList.drop 16).take 4),
    String.ofList (h.toList.drop 20)]

/-- Adds what is at a path to a picture of the disk: a file with its contents, or a
directory. -/
def look (d : Disk) (cwd p : String) : IO Disk := do
  if p.isEmpty then return d
  let full := Disk.resolve cwd p
  try
    let data ← IO.FS.readBinFile full
    return (d.addDir (Disk.dirOf full)).write full data.toList
  catch _ =>
    try
      let _ ← IO.FS.realPath full
      return d.addDir full
    catch _ => return d

/-- Adds what is at each path, and at the directory of each, to a picture of the disk. -/
def lookAll (d : Disk) (cwd : String) (ps : List String) : IO Disk :=
  ps.foldlM (fun d p => do look (← look d cwd p) cwd (Disk.dirOf p)) d

/-- Carries out what a command did to the disk: the directories and files it made or
wrote, and the files it removed. -/
def commit (before after : Disk) : IO Unit := do
  for dir in after.dirs do
    if !before.dirs.contains dir then IO.FS.createDirAll dir
  for (p, b) in after.files do
    if b.stamp > before.writes then IO.FS.writeBinFile p ⟨b.data.toArray⟩
  for (p, _) in before.files do
    if (after.file? p).isNone then IO.FS.removeFile p

end Cli

end LineBatch

open LineBatch in
/-- Runs the command the arguments name. -/
def main (args : List String) : IO UInt32 := do
  let cwd := (← IO.currentDir).toString
  let mut env : List (String × String) := []
  for k in Settings.envNames do
    if let some v ← IO.getEnv k then env := (k, v) :: env
  let vars := env
  let named := args.flatMap Cli.pathsOf ++ vars.flatMap fun (_, v) => Cli.pathsOf v
  let d ← Cli.lookAll (({} : Disk).addDir cwd) cwd named
  let settingsNamed := named.flatMap fun p =>
    match d.file? (Disk.resolve cwd p) with
    | some b => Cli.settingsPaths b.data
    | none => []
  let d ← Cli.lookAll d cwd settingsNamed
  let world : Cli.World :=
    ⟨d, cwd, fun k => (vars.lookup k).getD "", Cli.uuidOf (← IO.getRandomBytes 16).toList⟩
  let start ← IO.monoNanosNow
  let o ← IO.lazyPure fun _ => Cli.program world args
  let elapsed := (← IO.monoNanosNow) - start
  Cli.commit d o.disk
  let err ← IO.getStderr
  err.putStr o.stderr
  for l in o.log do err.putStrLn l
  let out ← IO.getStdout
  for r in o.stdout do out.putStr (r.render elapsed)
  return o.exit.toUInt32
