import LineBatch.Decimal.Prefixed
import LineBatch.Units.DurationRead
import LineBatch.Text.Quoted

/-
  Command-line flags.

  A command accepts a set of named flags, each taking a string, an
  integer, a duration or a boolean. The flags come first on the
  command line; the first argument that is not a flag ("-" alone
  included) ends them, and "--" ends them and is dropped.

  A flag is written with one or two dashes, "-name" or "--name". A
  value follows an equals sign ("-name=value") or, for all but the
  boolean flags, is the next argument. A boolean flag alone means
  true. Integers may carry a base prefix; booleans are 1, t, T, TRUE,
  true, True and their opposites 0, f, F, FALSE, false, False. A flag
  given twice keeps its last value.

  A name not among the flags fails, except "h" and "help", which ask
  for help. Every failure has its message, and the caller shows the
  usage after it.

  The defaults listing shows every flag in name order: "  -name" and
  the kind of value it takes on one line, then its help after a tab on
  the next.

  Key definitions:
    * `FlagKind`, `Flag`, `FlagValue`, `Flag.read`
    * `FlagsRead`, `FlagsStop`, `Flag.parseArgs`
    * `Flag.defaults`
-/

namespace LineBatch

/-- The kind of value a flag takes. -/
inductive FlagKind where
  | text
  | int
  | bool
  | duration
  deriving DecidableEq, Repr

/-- The name of a kind in the defaults listing; booleans have none. -/
def FlagKind.shown : FlagKind → String
  | .text => "string"
  | .int => "int"
  | .bool => ""
  | .duration => "duration"

/-- A flag a command accepts: its name, the kind of value it takes and its help. -/
structure Flag where
  name : String
  kind : FlagKind
  usage : String
  deriving Repr

/-- A value given to a flag. -/
inductive FlagValue where
  | text (s : String)
  | int (n : Int)
  | bool (b : Bool)
  | duration (d : Duration)
  deriving DecidableEq, Repr

/-- Reads a boolean as flags spell it. -/
def readBool? (s : String) : Option Bool :=
  if ["1", "t", "T", "TRUE", "true", "True"].contains s then some true
  else if ["0", "f", "F", "FALSE", "false", "False"].contains s then some false
  else none

namespace Flag

/-- Reads a value for a flag, or says why it does not read. -/
def read (f : Flag) (s : String) : Except String FlagValue :=
  match f.kind with
  | .text => .ok (.text s)
  | .int =>
    match Decimal.readPrefixed s with
    | .value n => .ok (.int n)
    | .malformed => .error "parse error"
    | .outOfRange => .error "value out of range"
  | .bool =>
    match readBool? s with
    | some b => .ok (.bool b)
    | none => .error "parse error"
  | .duration =>
    match Duration.parse s with
    | .ok d => .ok (.duration d)
    | .error _ => .error "parse error"

end Flag

/-- What the flags of a command line gave: the value of every flag set, the last setting
first, and the arguments after the flags. -/
structure FlagsRead where
  values : List (String × FlagValue) := []
  rest : List String := []
  deriving Repr

namespace FlagsRead

/-- Sets a flag, replacing an earlier value. -/
def set (r : FlagsRead) (name : String) (v : FlagValue) : FlagsRead :=
  { r with values := (name, v) :: r.values.filter (·.1 != name) }

/-- Whether a flag was set on the command line. -/
def given (r : FlagsRead) (name : String) : Bool := (r.values.lookup name).isSome

/-- The string given to a flag, or the empty string. -/
def text (r : FlagsRead) (name : String) : String :=
  match r.values.lookup name with
  | some (.text s) => s
  | _ => ""

/-- The integer given to a flag, or zero. -/
def int (r : FlagsRead) (name : String) : Int :=
  match r.values.lookup name with
  | some (.int n) => n
  | _ => 0

/-- The boolean given to a flag, or false. -/
def bool (r : FlagsRead) (name : String) : Bool :=
  match r.values.lookup name with
  | some (.bool b) => b
  | _ => false

/-- The duration given to a flag, or zero. -/
def duration (r : FlagsRead) (name : String) : Duration :=
  match r.values.lookup name with
  | some (.duration d) => d
  | _ => 0

end FlagsRead

/-- Why reading flags stopped short: help was asked for, or a flag was wrong. -/
inductive FlagsStop where
  | help
  | failed (message : String)
  deriving DecidableEq, Repr

namespace Flag

/-- A flag's name and the value written after an equals sign, if any. -/
def splitValue (name : List Char) : String × Option String :=
  match name.findIdx? (· = '=') with
  | some i => (String.ofList (name.take i), some (String.ofList (name.drop (i + 1))))
  | none => (String.ofList name, none)

/-- Reads flags off the front of the arguments, for at most `fuel` more arguments. -/
def parseFrom (flags : List Flag) : Nat → List String → FlagsRead → Except FlagsStop FlagsRead
  | 0, args, acc => .ok { acc with rest := args }
  | _ + 1, [], acc => .ok { acc with rest := [] }
  | fuel + 1, arg :: more, acc =>
    match arg.toList with
    | '-' :: c :: cs =>
      let (twoDashes, name) := if c = '-' then (true, cs) else (false, c :: cs)
      if twoDashes && name.isEmpty then .ok { acc with rest := more }
      else
        match name with
        | [] => .error (.failed ("bad flag syntax: " ++ arg))
        | '-' :: _ => .error (.failed ("bad flag syntax: " ++ arg))
        | '=' :: _ => .error (.failed ("bad flag syntax: " ++ arg))
        | _ =>
          let (nm, written) := splitValue name
          match flags.find? (·.name = nm) with
          | none =>
            if nm = "help" || nm = "h" then .error .help
            else .error (.failed ("flag provided but not defined: -" ++ nm))
          | some f =>
            if f.kind = .bool then
              match written with
              | none => parseFrom flags fuel more (acc.set nm (.bool true))
              | some v =>
                match readBool? v with
                | some b => parseFrom flags fuel more (acc.set nm (.bool b))
                | none => .error (.failed ("invalid boolean value " ++ Quoted.quote v ++ " for -"
                    ++ nm ++ ": parse error"))
            else
              let (value, more) : Option String × List String := match written, more with
                | some v, _ => (some v, more)
                | none, a :: rest => (some a, rest)
                | none, [] => (none, [])
              match value with
              | none => .error (.failed ("flag needs an argument: -" ++ nm))
              | some v =>
                match f.read v with
                | .ok x => parseFrom flags fuel more (acc.set nm x)
                | .error why => .error (.failed ("invalid value " ++ Quoted.quote v ++ " for flag -"
                    ++ nm ++ ": " ++ why))
    | _ => .ok { acc with rest := arg :: more }

/-- Reads the flags at the front of a command line. -/
def parseArgs (flags : List Flag) (args : List String) : Except FlagsStop FlagsRead :=
  parseFrom flags args.length args {}

/-- A flag's entry in the defaults listing. -/
def describe (f : Flag) : String :=
  let head := "  -" ++ f.name ++ (if f.kind.shown.isEmpty then "" else " " ++ f.kind.shown)
  let gap := if head.utf8ByteSize ≤ 4 then "\t" else "\n    \t"
  head ++ gap ++ "\n    \t".intercalate (f.usage.splitOn "\n") ++ "\n"

/-- The defaults listing: every flag in name order. -/
def defaults (flags : List Flag) : String :=
  String.join ((flags.mergeSort fun a b => decide (a.name ≤ b.name)).map describe)

end Flag

/-- Flags stop at the first argument that is not one. -/
theorem Flag.parseArgs_plain (flags : List Flag) (a : String) (more : List String)
    (h : a.toList.head? ≠ some '-') :
    Flag.parseArgs flags (a :: more) = .ok { rest := a :: more } := by
  unfold Flag.parseArgs
  simp only [List.length_cons, Flag.parseFrom]
  split
  · simp_all
  · rfl

end LineBatch
