import LineBatch.Cli.Flags
import LineBatch.Cli.Logger
import LineBatch.Settings.File
import LineBatch.Settings.Env
import LineBatch.Jobs.Extract

/-
  The command line.

  The program has two commands. "run" extracts fields from every line
  of an input into a result file; "count" prints the number of lines
  and bytes of an input. No command prints the usage and fails;
  "help", "-h" and "--help" print it and succeed; any other word is an
  unknown command.

  Settings are laid in layers: the defaults, a settings file given
  with -config, the environment, and then the flags. Flags are merged
  over the rest, so a flag left at zero changes nothing; the boolean
  and the counts that may rightly be zero (-keep-empty-lines,
  -read-retries, -cooldown-after, -skip-limit) are taken whenever they
  are given.

  Every mistake in the command line, the settings or the logger fails
  before anything runs, with exit code 2 and a message on standard
  error. A run prints its summary when it got that far; its exit code
  says how it went: 5 when the result file failed, 3 when the input
  is missing, 4 when it could not be opened or read, 6 when a worker
  stopped on a fatal error, 1 for other failures and 0 otherwise. A
  failed count exits the same way.

  The world of a command is its working directory with the disk below
  it, the environment and the identifier a run gets when none is
  given. What it prints on standard output is kept as reports, since
  the time a run took is measured by whoever runs it.

  Key definitions:
    * `Cli.World`, `Cli.Report`, `Cli.Outcome`
    * `Cli.runFlags`, `Cli.countFlags`, `Cli.usage`, `Cli.runUsage`, `Cli.countUsage`
    * `Cli.loadSettings`, `Cli.runCommand`, `Cli.countCommand`, `Cli.program`
-/

namespace LineBatch

namespace Cli

/-- The world a command runs in. -/
structure World where
  disk : Disk
  /-- The working directory, an absolute path. -/
  cwd : String
  /-- The value of an environment variable, empty when it is unset. -/
  getenv : String → String
  /-- The identifier a run gets when none is given. -/
  freshId : String

/-- What a command prints on standard output. -/
inductive Report where
  /-- The totals of an input. -/
  | counted (lines bytes : Nat) (input : String)
  /-- The summary of a run. -/
  | summary (s : Summary)

/-- A report as printed, given the time the run took. -/
def Report.render (elapsed : Duration) : Report → String
  | .counted lines bytes input =>
    toString lines ++ " lines\t" ++ toString bytes ++ " bytes (" ++ Size.format bytes ++ ")\t"
      ++ input ++ "\n"
  | .summary s =>
    "run " ++ s.runId ++ ": " ++ toString s.lines ++ " lines processed ("
      ++ s.percentage.fixed 2 ++ "%), " ++ toString s.recoverable ++ " recoverable, "
      ++ toString s.fatal ++ " fatal errors in " ++ Duration.human elapsed ++ "\n"
      ++ String.join (s.workers.map fun w => "  " ++ w.name ++ ": " ++ w.status.name ++ ", "
        ++ toString w.sections ++ " sections, " ++ toString w.lines ++ " lines\n")

/-- What running a command gives: the exit code, the reports on standard output, the
messages on standard error, the log lines that follow them there, and the disk
afterwards. -/
structure Outcome where
  exit : Nat
  stdout : List Report := []
  stderr : String := ""
  log : List String := []
  disk : Disk

------------------------------------------------------------
-- Flags and usage
------------------------------------------------------------

/-- The flags of the run command. -/
def runFlags : List Flag :=
  [⟨"config", .text, "YAML configuration file"⟩,
   ⟨"input", .text, "Input location (required)"⟩,
   ⟨"output", .text, "Result file location (required)"⟩,
   ⟨"encoding", .text, "Input encoding (default utf-8)"⟩,
   ⟨"section-size", .int, "Lines claimed by a worker at a time (default 1000)"⟩,
   ⟨"keep-empty-lines", .bool, "Process blank lines instead of skipping them"⟩,
   ⟨"workers", .int, "Number of concurrent workers (default 4)"⟩,
   ⟨"fields", .text,
     "Comma-separated field indexes to extract, e.g. 0,2 (default whole line)"⟩,
   ⟨"separator", .text, "Input field separator regexp (default \\s+)"⟩,
   ⟨"output-separator", .text, "Output field separator (default tab)"⟩,
   ⟨"read-retries", .int, "Retries per failed read (default 1)"⟩,
   ⟨"read-delay", .duration, "Delay between read retries (default 1s)"⟩,
   ⟨"buffer-size", .text, "Read buffer size, e.g. 1MiB (default 64KiB)"⟩,
   ⟨"cooldown-after", .int, "Pause reading every N lines (0 disables)"⟩,
   ⟨"cooldown", .duration, "Length of each reading pause"⟩,
   ⟨"skip-limit", .int, "Stop after this many malformed lines (0 disables)"⟩,
   ⟨"progress", .text, "Progress unit: lines or bytes (default lines)"⟩,
   ⟨"status-interval", .duration, "Status log interval (default 30s)"⟩,
   ⟨"run-id", .text, "Run identifier for logs (default random UUID)"⟩,
   ⟨"log-level", .text, "Log level: debug, info, warn, error"⟩,
   ⟨"log-format", .text, "Log format: text or json"⟩,
   ⟨"log-file", .text, "Also append logs to this file"⟩]

/-- The flags of the count command. -/
def countFlags : List Flag :=
  [⟨"config", .text, "YAML configuration file"⟩,
   ⟨"input", .text, "Input location (or first argument)"⟩,
   ⟨"encoding", .text, "Input encoding (default utf-8)"⟩,
   ⟨"keep-empty-lines", .bool, "Count blank lines too"⟩]

/-- The usage of the program. -/
def usage : String :=
  "Usage: chunkline <command> [options]\n\nCommands:\n" ++
  "  run      Extract fields from every line of a large text file in parallel\n" ++
  "  count    Print the number of lines and bytes of an input\n\n" ++
  "Inputs and outputs are local paths, file://, s3:// or gs:// URLs.\n" ++
  "Inputs may also be http(s) URLs served with range support.\n\n" ++
  "Run 'chunkline <command> -h' for command-specific help.\n"

/-- The usage of the run command. -/
def runUsage : String :=
  "Usage: chunkline run [options]\n\n" ++
  "Read a large text file section by section with parallel workers and write\n" ++
  "the selected fields of every line to a result file. Failed reads resume at\n" ++
  "the last consumed byte.\n\nOptions:\n" ++ Flag.defaults runFlags

/-- The usage of the count command. -/
def countUsage : String :=
  "Usage: chunkline count [options] [input]\n\nCount the lines and bytes of an input.\n\n" ++
  "Options:\n" ++ Flag.defaults countFlags

------------------------------------------------------------
-- Exit codes
------------------------------------------------------------

/-- The exit code of a failure: 3 for a missing input, 4 for an input that could not be
opened or read, 130 for a cancelled run, 1 otherwise. -/
def exitFor (f : Failure) : Nat :=
  if f.has .sourceNotFound then 3
  else
    match f.codedError? with
    | some e =>
      if e.code = Error.codeNotFound then 3
      else if e.code = Error.codeOpenFailed || e.code = Error.codeReadFailed then 4
      else if e.code = Error.codeCancelled then 130
      else 1
    | none => 1

/-- The exit code of a run: 5 when the result file failed, the code of any other failure,
6 when a worker stopped on a fatal error, 0 otherwise. -/
def runExit (summary : Option Summary) (failure : Option Failure) : Nat :=
  match failure with
  | some f => if f.has .resultFile then 5 else exitFor f
  | none =>
    match summary with
    | some s => if s.failed then 6 else 0
    | none => 0

------------------------------------------------------------
-- Commands
------------------------------------------------------------

/-- The settings of the defaults, a settings file when a path is given, and the
environment. -/
def loadSettings (w : World) (configPath : String) : Except String Settings := do
  let c ← if configPath.isEmpty then pure Settings.default
    else Settings.loadPath (w.disk.readFile w.cwd) configPath
  Settings.loadEnv w.getenv c

/-- A command that stops before it runs: exit code 2 and a message. -/
def refuse (w : World) (message : String) : Outcome := { exit := 2, stderr := message, disk := w.disk }

/-- The outcome of flags that did not read: help succeeds, a mistake fails after its
message; both show the usage. -/
def flagsStop (w : World) (commandUsage : String) : FlagsStop → Outcome
  | .help => { exit := 0, stderr := commandUsage, disk := w.disk }
  | .failed m => refuse w (m ++ "\n" ++ commandUsage)

/-- The settings the run flags give, every flag not given being zero; or the message of a
field list or buffer size that does not read. -/
def runOverrides (fl : FlagsRead) : Except String Settings := do
  let fields ← if (fl.text "fields").isEmpty then pure []
    else match Settings.parseFields (fl.text "fields") with
      | .ok fs => pure fs
      | .error e => throw ("Invalid -fields: " ++ e ++ "\n")
  let bufferSize ← if (fl.text "buffer-size").isEmpty then pure 0
    else match Size.parse (fl.text "buffer-size") with
      | .ok n => pure n
      | .error e => throw ("Invalid -buffer-size: " ++ e ++ "\n")
  return { input := fl.text "input", output := fl.text "output", encoding := fl.text "encoding",
           sectionSize := fl.int "section-size", workers := fl.int "workers",
           statusInterval := fl.duration "status-interval",
           read := { delay := fl.duration "read-delay", bufferSize },
           cooldown := { duration := fl.duration "cooldown" },
           progressPolicy := fl.text "progress",
           extract := { fields, separator := fl.text "separator",
                        outputSeparator := fl.text "output-separator" },
           log := { level := fl.text "log-level", format := fl.text "log-format",
                    file := fl.text "log-file" } }

/-- Lays the run flags over settings: merged, then the flags that may rightly be zero or
false whenever they are given. -/
def applyRunFlags (fl : FlagsRead) (top c : Settings) : Settings :=
  let c := c.merge top
  let c := if fl.given "keep-empty-lines" then
      { c with ignoreEmptyLines := !fl.bool "keep-empty-lines" } else c
  let c := if fl.given "read-retries" then
      { c with read := { c.read with retries := fl.int "read-retries" } } else c
  let c := if fl.given "cooldown-after" then
      { c with cooldown := { c.cooldown with afterLines := fl.int "cooldown-after" } } else c
  if fl.given "skip-limit" then { c with skipLimit := fl.int "skip-limit" } else c

/-- Runs the extract job the settings describe, logging with `lg`. -/
def runJob (w : World) (d : Disk) (lg : Logger) (job : ExtractJob) (runId : String) : Outcome :=
  let res := job.run d w.cwd (if runId.isEmpty then w.freshId else runId) false
  let failed : List Record := match res.failure with
    | some f => [⟨.error, "run failed", [("error", Utf8.lossy f.message)]⟩]
    | none => []
  let (lines, d) := lg.write res.disk (res.log.toList ++ failed)
  { exit := runExit res.summary res.failure, stdout := res.summary.toList.map .summary,
    log := lines, disk := d }

/-- The run command. -/
def runCommand (w : World) (args : List String) : Outcome :=
  match Flag.parseArgs runFlags args with
  | .error stop => flagsStop w runUsage stop
  | .ok fl =>
    match loadSettings w (fl.text "config") with
    | .error e => refuse w ("Error: " ++ e ++ "\n")
    | .ok base =>
      match runOverrides fl with
      | .error m => refuse w m
      | .ok top =>
        let c := applyRunFlags fl top base
        if c.input.isEmpty || c.output.isEmpty then
          refuse w ("Error: -input and -output are required\n" ++ runUsage)
        else
          match ExtractJob.make c with
          | .error e => refuse w ("Error: " ++ e ++ "\n")
          | .ok job =>
            match Logger.open w.disk w.cwd c.log with
            | (.error e, d) => { exit := 2, stderr := "Error: " ++ e ++ "\n", disk := d }
            | (.ok lg, d) => runJob w d lg job (fl.text "run-id")

/-- Lays the count flags over settings: the input from -input or the first argument, the
encoding when given, and -keep-empty-lines whenever it is given. -/
def applyCountFlags (fl : FlagsRead) (c : Settings) : Settings :=
  let c := if !(fl.text "input").isEmpty then { c with input := fl.text "input" }
    else match fl.rest with
      | a :: _ => { c with input := a }
      | [] => c
  let c := if !(fl.text "encoding").isEmpty then { c with encoding := fl.text "encoding" } else c
  if fl.given "keep-empty-lines" then { c with ignoreEmptyLines := !fl.bool "keep-empty-lines" }
  else c

/-- Counts the input the settings name, logging with `lg`. A separator that does not
compile stops the program at once, before anything is read. -/
def countJob (w : World) (d : Disk) (lg : Logger) (c : Settings) : Outcome :=
  match Parser.splitting c.extract.separator with
  | .error m => { exit := 2, stderr := "panic: " ++ m ++ "\n\ngoroutine 1 [running]:\n", disk := d }
  | .ok _ =>
    let (res, log) := countLogged d w.cwd c.input c.readerOptions
    match res with
    | .ok (lines, bytes) =>
      let (logLines, d) := lg.write d log.toList
      { exit := 0, stdout := [.counted lines bytes c.input], log := logLines, disk := d }
    | .error f =>
      let (logLines, d) := lg.write d (log.toList ++
        [⟨.error, "count failed", [("input", c.input), ("error", Utf8.lossy f.message)]⟩])
      { exit := exitFor f, log := logLines, disk := d }

/-- The count command. -/
def countCommand (w : World) (args : List String) : Outcome :=
  match Flag.parseArgs countFlags args with
  | .error stop => flagsStop w countUsage stop
  | .ok fl =>
    match loadSettings w (fl.text "config") with
    | .error e => refuse w ("Error: " ++ e ++ "\n")
    | .ok base =>
      let c := applyCountFlags fl base
      if c.input.isEmpty then refuse w ("Error: an input is required\n" ++ countUsage)
      else
        match c.validate with
        | .error e => refuse w ("Error: " ++ e ++ "\n")
        | .ok () =>
          match Logger.open w.disk w.cwd c.log with
          | (.error e, d) => { exit := 2, stderr := "Error: " ++ e ++ "\n", disk := d }
          | (.ok lg, d) => countJob w d lg c

/-- The program: the command named first, with the arguments after it. -/
def program (w : World) : List String → Outcome
  | [] => refuse w usage
  | cmd :: rest =>
    if cmd = "run" then runCommand w rest
    else if cmd = "count" then countCommand w rest
    else if cmd = "help" || cmd = "-h" || cmd = "--help" then
      { exit := 0, stderr := usage, disk := w.disk }
    else refuse w ("Unknown command: " ++ cmd ++ "\n" ++ usage)

end Cli

end LineBatch
