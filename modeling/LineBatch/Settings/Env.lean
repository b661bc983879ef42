import LineBatch.Settings.Basic
import LineBatch.Units.DurationRead

/-
  Settings from the environment.

  Every setting has a variable, its name in upper case behind
  CHUNKLINE_, with dots and words joined by underscores
  (CHUNKLINE_READ_RETRIES). A variable that is unset or empty leaves
  its setting alone. Texts are taken as they are; numbers, durations,
  sizes and field lists are read, and the first that does not read
  stops everything with the variable's name and the reason. Numbers
  are read first, then durations, then the blank-line switch (on for
  "true" and "1", off for anything else), the buffer size and the
  fields.

  Key definitions:
    * `Settings.envPrefix`, `Settings.envNames`, `Settings.loadEnv`
-/

namespace LineBatch

namespace Settings

/-- The prefix of every variable. -/
def envPrefix : String := "CHUNKLINE_"

/-- The text settings and their variables. -/
def textVars : List (String × (Settings → String → Settings)) :=
  [("INPUT", fun c v => { c with input := v }),
   ("OUTPUT", fun c v => { c with output := v }),
   ("ENCODING", fun c v => { c with encoding := v }),
   ("PROGRESS_POLICY", fun c v => { c with progressPolicy := v }),
   ("EXTRACT_SEPARATOR", fun c v => { c with extract := { c.extract with separator := v } }),
   ("EXTRACT_OUTPUT_SEPARATOR", fun c v =>
      { c with extract := { c.extract with outputSeparator := v } }),
   ("LOG_LEVEL", fun c v => { c with log := { c.log with level := v } }),
   ("LOG_FORMAT", fun c v => { c with log := { c.log with format := v } }),
   ("LOG_FILE", fun c v => { c with log := { c.log with file := v } })]

/-- The number settings and their variables. -/
def intVars : List (String × (Settings → Int → Settings)) :=
  [("SECTION_SIZE", fun c n => { c with sectionSize := n }),
   ("WORKERS", fun c n => { c with workers := n }),
   ("READ_RETRIES", fun c n => { c with read := { c.read with retries := n } }),
   ("COOLDOWN_AFTER_LINES", fun c n => { c with cooldown := { c.cooldown with afterLines := n } }),
   ("SKIP_LIMIT", fun c n => { c with skipLimit := n })]

/-- The duration settings and their variables. -/
def durationVars : List (String × (Settings → Duration → Settings)) :=
  [("STATUS_INTERVAL", fun c d => { c with statusInterval := d }),
   ("POLL_INTERVAL", fun c d => { c with pollInterval := d }),
   ("READ_DELAY", fun c d => { c with read := { c.read with delay := d } }),
   ("COOLDOWN_DURATION", fun c d => { c with cooldown := { c.cooldown with duration := d } })]

/-- Sets the settings of some variables, each read by `read`; the first that does not
read stops with its variable's name. -/
def setFrom {α : Type} (getenv : String → String) (read : String → Except String α)
    (vars : List (String × (Settings → α → Settings))) (c : Settings) : Except String Settings :=
  vars.foldlM (fun c (name, set) =>
    let v := getenv (envPrefix ++ name)
    if v.isEmpty then pure c
    else
      match read v with
      | .ok x => pure (set c x)
      | .error m => throw ("parse " ++ envPrefix ++ name ++ ": " ++ m)) c

/-- Lays the variables of an environment over settings; `getenv` gives the value of a
variable, empty when it is unset. -/
def loadEnv (getenv : String → String) (c : Settings) : Except String Settings := do
  let c ← setFrom getenv (fun v => .ok v) textVars c
  let c ← setFrom getenv (Decimal.parseInt "strconv.Atoi") intVars c
  let c ← setFrom getenv Duration.parse durationVars c
  let c ← setFrom getenv (fun v => .ok (v = "true" || v = "1"))
    [("IGNORE_EMPTY_LINES", fun c b => { c with ignoreEmptyLines := b })] c
  let c ← setFrom getenv Size.parse
    [("READ_BUFFER_SIZE", fun c n => { c with read := { c.read with bufferSize := n } })] c
  setFrom getenv parseFields
    [("EXTRACT_FIELDS", fun c fs => { c with extract := { c.extract with fields := fs } })] c

/-- Every variable the settings are read from. -/
def envNames : List String :=
  (textVars.map (·.1) ++ intVars.map (·.1) ++ durationVars.map (·.1) ++
    ["IGNORE_EMPTY_LINES", "READ_BUFFER_SIZE", "EXTRACT_FIELDS"]).map (envPrefix ++ ·)

/-- An empty environment changes nothing. -/
theorem loadEnv_empty (c : Settings) : loadEnv (fun _ => "") c = .ok c := by
  simp [loadEnv, setFrom, textVars, intVars, durationVars, List.foldlM]
  rfl

end Settings

end LineBatch
