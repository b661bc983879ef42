import LineBatch.Settings.Basic
import LineBatch.Units.DurationRead
import LineBatch.Yaml.Decode

/-
  Settings from a YAML file.

  The file is a mapping with the keys of the settings in lower case,
  words joined by underscores, and the nested groups read, cooldown,
  extract and log. Durations and the buffer size are written as text
  ("250ms", "1MiB").

  The settings read are laid over the defaults by merging, so a key
  set to zero or left empty keeps its default, with three exceptions:
  ignore_empty_lines and read.retries are taken whenever present, and
  read.buffer_size whenever it is not empty. Durations are then read
  in the order status_interval, poll_interval, read.delay,
  cooldown.duration, and the buffer size last; the first that does not
  read stops with its key and the reason. The cooldown's line count is
  merged, its duration read.

  Key definitions:
    * `Settings.fileShape`, `Settings.ofYaml`, `Settings.loadFile`, `Settings.loadPath`
-/

namespace LineBatch

namespace Settings

open Yaml in
/-- The shape of a settings file. -/
def fileShape : Shape :=
  .record "config.yamlConfig"
    [("input", .text), ("output", .text), ("encoding", .text), ("section_size", .int),
     ("ignore_empty_lines", .optional .bool), ("workers", .int),
     ("status_interval", .text), ("poll_interval", .text),
     ("read", .record "config.yamlReadConfig"
        [("retries", .optional .int), ("delay", .text), ("buffer_size", .text)]),
     ("cooldown", .record "config.yamlCooldownConfig" [("after_lines", .int), ("duration", .text)]),
     ("skip_limit", .int), ("progress_policy", .text),
     ("extract", .record "config.ExtractConfig"
        [("fields", .list .int), ("separator", .text), ("output_separator", .text)]),
     ("log", .record "config.LogConfig" [("level", .text), ("format", .text), ("file", .text)])]

/-- A field of a group of a value read from a file. -/
def groupField (v : Yaml.Value) (group key : String) : Yaml.Value :=
  ((v.field group).bind (·.field key)).getD .null

/-- The numbers of a list value. -/
def intsOf : Yaml.Value → List Int
  | .list items => items.map Yaml.Value.intD
  | _ => []

/-- Settings from the value read from a file, laid over the defaults. -/
def ofYaml (v : Yaml.Value) : Except String Settings := do
  let text (k : String) : String := ((v.field k).getD .null).textD
  let int (k : String) : Int := ((v.field k).getD .null).intD
  let read := Settings.default.merge
    { input := text "input", output := text "output", encoding := text "encoding",
      sectionSize := int "section_size", workers := int "workers",
      skipLimit := int "skip_limit", progressPolicy := text "progress_policy",
      extract := { fields := intsOf (groupField v "extract" "fields"),
                   separator := (groupField v "extract" "separator").textD,
                   outputSeparator := (groupField v "extract" "output_separator").textD },
      log := { level := (groupField v "log" "level").textD,
               format := (groupField v "log" "format").textD,
               file := (groupField v "log" "file").textD },
      cooldown := { afterLines := (groupField v "cooldown" "after_lines").intD } }
  let c := match v.field "ignore_empty_lines" with
    | some (.bool b) => { read with ignoreEmptyLines := b }
    | _ => read
  let c := match groupField v "read" "retries" with
    | .int n => { c with read := { c.read with retries := n } }
    | _ => c
  let duration (key : String) (text : String) (set : Settings → Duration → Settings)
      (c : Settings) : Except String Settings :=
    if text.isEmpty then .ok c
    else match Duration.parse text with
      | .ok d => .ok (set c d)
      | .error e => .error ("parse " ++ key ++ ": " ++ e)
  let c ← duration "status_interval" (text "status_interval")
    (fun c d => { c with statusInterval := d }) c
  let c ← duration "poll_interval" (text "poll_interval") (fun c d => { c with pollInterval := d }) c
  let c ← duration "read.delay" (groupField v "read" "delay").textD
    (fun c d => { c with read := { c.read with delay := d } }) c
  let c ← duration "cooldown.duration" (groupField v "cooldown" "duration").textD
    (fun c d => { c with cooldown := { c.cooldown with duration := d } }) c
  let size := (groupField v "read" "buffer_size").textD
  if size.isEmpty then return c
  match Size.parse size with
  | .ok n => return { c with read := { c.read with bufferSize := n } }
  | .error e => throw ("parse read.buffer_size: " ++ e)

/-- Settings from the contents of a file. -/
def loadFile (contents : Bytes) : Except String Settings :=
  match Yaml.unmarshal contents fileShape with
  | .ok v => ofYaml v
  | .error e => .error ("parse config file: " ++ e)

/-- Settings from the file at a path; `readFile` gives a file's contents or why it could
not be read. -/
def loadPath (readFile : String → Except String Bytes) (path : String) : Except String Settings :=
  match readFile path with
  | .ok contents => loadFile contents
  | .error e => .error ("read config file: " ++ e)

end Settings

end LineBatch
