import LineBatch.Units.Duration
import LineBatch.Units.Size
import LineBatch.Decimal.Integer
import LineBatch.Progress.Policy
import LineBatch.Charset.Basic
import LineBatch.Text.Blank

/-
  Settings of an extract run.

  The settings name the input and output, say how the input is read
  (encoding, section size, blank lines, retries, buffer), how many
  workers share it, how often status is written, when reading pauses,
  how many recoverable errors are tolerated, how progress is counted,
  which fields are extracted and how, and how logs are written.

  Settings come from defaults, a file, the environment and the
  command line. Merging lays one set of settings over another: every
  setting that is not zero (not empty, for texts and lists) wins. So
  merging can neither clear a text nor set a number to zero.

  Key definitions:
    * `Settings`, `Settings.default`, `Settings.merge`, `Settings.validate`
    * `Settings.parseFields`
-/

namespace LineBatch

/-- How the input is read and retried. -/
structure ReadSettings where
  retries : Int := 0
  delay : Duration := 0
  bufferSize : Int := 0
  deriving DecidableEq, Repr

/-- When reading pauses: after this many lines, for this long; no pause when the count is
zero or less. -/
structure CooldownSettings where
  afterLines : Int := 0
  duration : Duration := 0
  deriving DecidableEq, Repr

/-- Which fields are extracted, how lines are split and how the fields are joined. -/
structure ExtractSettings where
  fields : List Int := []
  separator : String := ""
  outputSeparator : String := ""
  deriving DecidableEq, Repr

/-- How logs are written. -/
structure LogSettings where
  level : String := ""
  format : String := ""
  file : String := ""
  deriving DecidableEq, Repr

/-- The settings of an extract run; every setting is zero unless given. -/
structure Settings where
  input : String := ""
  output : String := ""
  encoding : String := ""
  sectionSize : Int := 0
  ignoreEmptyLines : Bool := false
  workers : Int := 0
  statusInterval : Duration := 0
  pollInterval : Duration := 0
  read : ReadSettings := {}
  cooldown : CooldownSettings := {}
  skipLimit : Int := 0
  progressPolicy : String := ""
  extract : ExtractSettings := {}
  log : LogSettings := {}
  deriving DecidableEq, Repr

namespace Settings

/-- The settings used when nothing else is given. -/
def default : Settings where
  encoding := "utf-8"
  sectionSize := 1000
  ignoreEmptyLines := true
  workers := 4
  statusInterval := 30 * Duration.second
  pollInterval := Duration.second
  read := { retries := 1, delay := Duration.second, bufferSize := 64 * 1024 }
  progressPolicy := "lines"
  extract := { separator := "\\s+", outputSeparator := "\t" }
  log := { level := "info", format := "text" }

/-- A text laid over another: it wins unless empty. -/
def overText (base top : String) : String := if top.isEmpty then base else top

/-- A number laid over another: it wins unless zero. -/
def overInt (base top : Int) : Int := if top = 0 then base else top

/-- Lays the settings `top` over `c`: every setting of `top` that is not zero wins. -/
def merge (c top : Settings) : Settings where
  input := overText c.input top.input
  output := overText c.output top.output
  encoding := overText c.encoding top.encoding
  sectionSize := overInt c.sectionSize top.sectionSize
  ignoreEmptyLines := c.ignoreEmptyLines
  workers := overInt c.workers top.workers
  statusInterval := overInt c.statusInterval top.statusInterval
  pollInterval := overInt c.pollInterval top.pollInterval
  read := { retries := overInt c.read.retries top.read.retries,
            delay := overInt c.read.delay top.read.delay,
            bufferSize := overInt c.read.bufferSize top.read.bufferSize }
  cooldown := { afterLines := overInt c.cooldown.afterLines top.cooldown.afterLines,
                duration := overInt c.cooldown.duration top.cooldown.duration }
  skipLimit := overInt c.skipLimit top.skipLimit
  progressPolicy := overText c.progressPolicy top.progressPolicy
  extract := { fields := if top.extract.fields.isEmpty then c.extract.fields else top.extract.fields,
               separator := overText c.extract.separator top.extract.separator,
               outputSeparator := overText c.extract.outputSeparator top.extract.outputSeparator }
  log := { level := overText c.log.level top.log.level, format := overText c.log.format top.log.format,
           file := overText c.log.file top.log.file }

/-- Checks that the settings make a run: an input, positive sizes and counts, no negative
retries, delay or skip limit, a pause length when pausing, a known progress policy and
encoding, and no negative field. -/
def validate (c : Settings) : Except String Unit := do
  if c.input.isEmpty then throw "config: input is required"
  if c.sectionSize ≤ 0 then throw "config: section_size must be positive"
  if c.workers ≤ 0 then throw "config: workers must be positive"
  if c.read.retries < 0 then throw "config: read.retries must not be negative"
  if c.read.delay < 0 then throw "config: read.delay must not be negative"
  if c.read.bufferSize ≤ 0 then throw "config: read.buffer_size must be positive"
  if c.cooldown.afterLines > 0 && c.cooldown.duration ≤ 0 then
    throw "config: cooldown.duration must be positive when cooldown is enabled"
  if c.skipLimit < 0 then throw "config: skip_limit must not be negative"
  match Policy.parse c.progressPolicy with
  | .error m => throw ("config: " ++ m)
  | .ok _ => pure ()
  match Charset.lookup c.encoding with
  | .error f => throw ("config: " ++ Utf8.lossy f.message)
  | .ok _ => pure ()
  match c.extract.fields.find? (· < 0) with
  | some f => throw ("config: extract field index " ++ toString f ++ " is negative")
  | none => pure ()

/-- Reads a list of field positions separated by commas, such as "0,2,5"; blanks around
a position and empty positions are ignored. -/
def parseFields (s : String) : Except String (List Int) :=
  (s.splitOn ",").foldlM (fun acc part =>
    let part := Blank.trimString part
    if part.isEmpty then pure acc
    else
      match Decimal.readInt 64 part with
      | .value n =>
        if n < 0 then throw ("field index " ++ toString n ++ " is negative") else pure (acc ++ [n])
      | _ => throw ("invalid field index " ++ Quoted.quote part)) []

/-- Merging the zero settings changes nothing. -/
theorem merge_zero (c : Settings) : c.merge {} = c := by
  simp [merge, overText, overInt]

end Settings

end LineBatch
