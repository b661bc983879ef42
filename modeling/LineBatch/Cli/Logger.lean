import LineBatch.Log
import LineBatch.Settings.Basic
import LineBatch.Store.Disk
import LineBatch.Text.Quoted

/-
  The logger of a command.

  A logger writes the records of its level and above, one line each,
  to standard error and, when it has one, to a log file. Opening a
  logger reads the level first; then, for a log file, makes the file's
  directory and opens the file for appending, creating it; and reads
  the format last, so a bad format still leaves the file made.

  A line of text shows the level, the message and the attributes as
  key=value, a value between double quotes when it is empty or holds
  a blank, an equals sign, a double quote or a control character. A
  JSON line is an object of the level, the message and the attributes
  as strings.

  Key definitions:
    * `Logger`, `Logger.open`, `Logger.write`
    * `Logger.textLine`, `Logger.jsonLine`
-/

namespace LineBatch

/-- A command's logger: the least level it writes, its format and the absolute path of
its log file, if any. -/
structure Logger where
  level : Level
  format : LogFormat
  file : Option String

namespace Logger

/-- Whether a text value is written between double quotes on a text line. -/
def needsQuotes (s : String) : Bool :=
  s.isEmpty || s.any fun c =>
    c = ' ' || c = '=' || c = '"' || c.toNat < 32 || c.toNat = 127 ||
      [0x85, 0xA0, 0x1680, 0x2028, 0x2029, 0x202F, 0x205F, 0x3000].contains c.toNat ||
      (0x2000 ≤ c.toNat && c.toNat ≤ 0x200A)

/-- A value on a text line. -/
def textValue (s : String) : String := if needsQuotes s then Quoted.quote s else s

/-- A record as a text line. -/
def textLine (r : Record) : String :=
  " ".intercalate (("level=" ++ r.level.name) :: ("msg=" ++ textValue r.message) ::
    r.attrs.map fun (k, v) => textValue k ++ "=" ++ textValue v)

/-- A character within a JSON string. -/
def jsonChar (c : Char) : String :=
  match c with
  | '"' => "\\\""
  | '\\' => "\\\\"
  | '\n' => "\\n"
  | '\r' => "\\r"
  | '\t' => "\\t"
  | _ =>
    if c.toNat < 32 then
      "\\u00" ++ String.ofList [Nat.digitChar (c.toNat / 16), Nat.digitChar (c.toNat % 16)]
    else c.toString

/-- A JSON string. -/
def jsonString (s : String) : String := "\"" ++ String.join (s.toList.map jsonChar) ++ "\""

/-- A record as a JSON line. -/
def jsonLine (r : Record) : String :=
  let pairs := ("level", r.level.name) :: ("msg", r.message) :: r.attrs
  "\x7b" ++ ",".intercalate (pairs.map fun (k, v) => jsonString k ++ ":" ++ jsonString v) ++ "\x7d"

/-- Opens a logger with the given settings on a disk, with `cwd` as the working directory;
the disk afterwards holds the log file, made even when the format turns out bad. -/
def «open» (d : Disk) (cwd : String) (s : LogSettings) : Except String Logger × Disk :=
  match Level.parse s.level with
  | .error e => (.error e, d)
  | .ok level =>
    let opened : Except String (Option String × Disk) :=
      if s.file.isEmpty then .ok (none, d)
      else
        match d.makeDirs cwd (Disk.dirOf s.file) with
        | .error e => .error ("create log directory: " ++ e)
        | .ok d =>
          match d.openAppend cwd s.file with
          | .error e => .error ("open log file: " ++ e)
          | .ok d => .ok (some (Disk.resolve cwd s.file), d)
    match opened with
    | .error e => (.error e, d)
    | .ok (file, d) =>
      match LogFormat.parse s.format with
      | .error e => (.error e, d)
      | .ok format => (.ok ⟨level, format, file⟩, d)

/-- A record as a line of the logger's format. -/
def line (lg : Logger) (r : Record) : String :=
  match lg.format with
  | .text => textLine r
  | .json => jsonLine r

/-- Writes records: the lines of those at the logger's level or above, which also go to
the end of the log file. -/
def write (lg : Logger) (d : Disk) (records : List Record) : List String × Disk :=
  let lines := (records.filter fun r => lg.level.enables r.level).map lg.line
  match lg.file with
  | none => (lines, d)
  | some p => (lines, d.append p (Utf8.encode (String.join (lines.map (· ++ "\n")))))

/-- A logger at error level writes every error record. -/
theorem write_error_lines (lg : Logger) (d : Disk) (r : Record) (h : r.level = .error) :
    (lg.write d [r]).1 = [lg.line r] := by
  cases lg with
  | mk level format file =>
    cases file <;> simp [write, h, Level.enables_error]

end Logger

end LineBatch
