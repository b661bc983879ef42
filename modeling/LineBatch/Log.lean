import LineBatch.Text.Keyword
import LineBatch.Text.Quoted

/-
  Log records.

  A record has a level, a message and attributes, each a key with a
  value already written as text. A logger may carry attributes of its
  own; they come before the record's. A record is shown as its level,
  its message and then key=value pairs, separated by blanks.

  A logger writes the records of its level and above, as text or as
  JSON. Levels are numbered -4, 0, 4 and 8 from debug to error.

  Key definitions:
    * `Level`, `Level.parse`, `LogFormat`, `LogFormat.parse`
    * `Record`, `Record.under`, `Record.render`
-/

namespace LineBatch

/-- How important a log record is. -/
inductive Level where
  | debug
  | info
  | warn
  | error
  deriving DecidableEq, Repr

/-- The name of a level as records show it. -/
def Level.name : Level → String
  | .debug => "DEBUG"
  | .info => "INFO"
  | .warn => "WARN"
  | .error => "ERROR"

namespace Level

/-- The number of a level. -/
def value : Level → Int
  | .debug => -4
  | .info => 0
  | .warn => 4
  | .error => 8

/-- Reads a level name, ignoring blanks around it and case; an empty name is info. -/
def parse (s : String) : Except String Level :=
  match Keyword.normalize s with
  | "debug" => .ok .debug
  | "" => .ok .info
  | "info" => .ok .info
  | "warn" => .ok .warn
  | "warning" => .ok .warn
  | "error" => .ok .error
  | _ => .error ("unknown log level " ++ Quoted.quote s)

/-- Whether a logger of this level writes records of another. -/
def enables (threshold l : Level) : Bool := decide (threshold.value ≤ l.value)

theorem enables_error (l : Level) : l.enables .error = true := by
  cases l <;> decide

end Level

/-- How log records are written. -/
inductive LogFormat where
  | text
  | json
  deriving DecidableEq, Repr

/-- Reads a format name, ignoring case; an empty name is text. -/
def LogFormat.parse (s : String) : Except String LogFormat :=
  match String.ofList (s.toList.map Keyword.lowerChar) with
  | "" => .ok .text
  | "text" => .ok .text
  | "json" => .ok .json
  | _ => .error ("unknown log format " ++ Quoted.quote s)

/-- One log record. -/
structure Record where
  level : Level
  message : String
  attrs : List (String × String)
  deriving Repr

/-- A record with attributes put before its own, as a logger carrying them writes it. -/
def Record.under (r : Record) (attrs : List (String × String)) : Record :=
  { r with attrs := attrs ++ r.attrs }

/-- A record as text: level, message, then key=value pairs. -/
def Record.render (r : Record) : String :=
  r.attrs.foldl (fun acc (k, v) => acc ++ " " ++ k ++ "=" ++ v) (r.level.name ++ " " ++ r.message)

end LineBatch
