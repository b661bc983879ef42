import LineBatch.Cli.Program
import LineBatch.Proofs.Batch.Launch
import Mathlib.Data.List.Forall2

/-
  Where each setting of a run comes from.

  The settings of a run come in layers: the defaults, a settings file,
  the environment and the command line, each laid over the ones before.
  A layer gives some settings and leaves the others to the layers
  below it.

  The environment gives every setting whose variable is set and not
  empty. The file and the command line are merged over the rest, so
  they give only the settings they hold a value for that is not zero
  (not empty, for texts and lists): a flag given as zero, or a key of
  the file set to zero, leaves its setting to the layer below. The
  exceptions are the flags -keep-empty-lines, -read-retries,
  -cooldown-after and -skip-limit, taken whenever they are given; the
  keys ignore_empty_lines and read.retries, taken whenever they are
  present; and the durations and the buffer size of the file, taken
  whenever their text is not empty.

  Main declarations:
    * `Settings.Key`, `Settings.Value`, `Settings.get`, `Settings.Layer`
    * `Settings.get_merge`, `Settings.get_loadEnv`, `Settings.get_ofYaml`
    * `Cli.flagLayer`, `Cli.run_settings_come_in_layers`
-/

namespace LineBatch

open List

namespace Settings

------------------------------------------------------------
-- Settings by Name
------------------------------------------------------------

/-- The settings, each by name. -/
inductive Key where
  | input
  | output
  | encoding
  | sectionSize
  | ignoreEmptyLines
  | workers
  | statusInterval
  | pollInterval
  | readRetries
  | readDelay
  | readBufferSize
  | cooldownAfterLines
  | cooldownDuration
  | skipLimit
  | progressPolicy
  | extractFields
  | extractSeparator
  | extractOutputSeparator
  | logLevel
  | logFormat
  | logFile
  deriving DecidableEq, Repr

/-- The value of a setting. Durations are numbers of nanoseconds. -/
inductive Value where
  | text (s : String)
  | int (n : Int)
  | bool (b : Bool)
  | ints (ns : List Int)
  deriving DecidableEq, Repr

/-- Whether a value is zero: an empty text or list, the number zero, or false. -/
def Value.isZero : Value → Bool
  | .text s => s.isEmpty
  | .int n => n == 0
  | .bool b => !b
  | .ints ns => ns.isEmpty

/-- The value of a setting. -/
def get (c : Settings) : Key → Value
  | .input => .text c.input
  | .output => .text c.output
  | .encoding => .text c.encoding
  | .sectionSize => .int c.sectionSize
  | .ignoreEmptyLines => .bool c.ignoreEmptyLines
  | .workers => .int c.workers
  | .statusInterval => .int c.statusInterval
  | .pollInterval => .int c.pollInterval
  | .readRetries => .int c.read.retries
  | .readDelay => .int c.read.delay
  | .readBufferSize => .int c.read.bufferSize
  | .cooldownAfterLines => .int c.cooldown.afterLines
  | .cooldownDuration => .int c.cooldown.duration
  | .skipLimit => .int c.skipLimit
  | .progressPolicy => .text c.progressPolicy
  | .extractFields => .ints c.extract.fields
  | .extractSeparator => .text c.extract.separator
  | .extractOutputSeparator => .text c.extract.outputSeparator
  | .logLevel => .text c.log.level
  | .logFormat => .text c.log.format
  | .logFile => .text c.log.file

/-- A layer of settings: the value it gives each setting, if it gives one. -/
abbrev Layer := Key → Option Value

/-- A value that a layer merged over others gives: one that is not zero. -/
def Value.unlessZero (x : Value) : Option Value := if x.isZero then none else some x

/-- A setter that changes setting `k` alone, to the value `inj` makes of what it is
given. -/
def Sets {α : Type} (set : Settings → α → Settings) (k : Key) (inj : α → Value) : Prop :=
  ∀ c x k', (set c x).get k' = if k' = k then inj x else c.get k'

/- A step that sets a setting only when a condition holds. -/
theorem get_ite_set
    {α : Type}
    {f : Settings → α → Settings}
    {k : Key}
    {inj : α → Value}
    (hSets : Sets f k inj)
    (b : Bool)
    (c : Settings)
    (x : α)
    (k' : Key) :
    (if b then f c x else c).get k' = (if k' = k ∧ b then some (inj x) else none).getD (c.get k') := by
  cases b with
  | false => simp
  | true =>
    rw [if_pos rfl, hSets]
    by_cases hk : k' = k <;> simp [hk]

------------------------------------------------------------
-- Merging
------------------------------------------------------------

/-- The layer that merging `top` lays: every setting of `top` that is not zero, except
the blank-line switch, which merging never takes. -/
def mergeLayer (top : Settings) : Layer := fun k =>
  if k = .ignoreEmptyLines then none else (top.get k).unlessZero

/- Merging lays the settings of `top` that are not zero over the others. -/
theorem get_merge (c top : Settings) (k : Key) :
    (c.merge top).get k = (mergeLayer top k).getD (c.get k) := by
  cases k <;>
    simp only [merge, get, mergeLayer, overText, overInt, Value.unlessZero, Value.isZero,
      reduceCtorEq, if_true, if_false, Option.getD_none, beq_iff_eq] <;>
    split <;> simp_all

------------------------------------------------------------
-- The Environment
------------------------------------------------------------

/-- The variable of a setting, behind the prefix. -/
def Key.envName : Key → String
  | .input => "INPUT"
  | .output => "OUTPUT"
  | .encoding => "ENCODING"
  | .sectionSize => "SECTION_SIZE"
  | .ignoreEmptyLines => "IGNORE_EMPTY_LINES"
  | .workers => "WORKERS"
  | .statusInterval => "STATUS_INTERVAL"
  | .pollInterval => "POLL_INTERVAL"
  | .readRetries => "READ_RETRIES"
  | .readDelay => "READ_DELAY"
  | .readBufferSize => "READ_BUFFER_SIZE"
  | .cooldownAfterLines => "COOLDOWN_AFTER_LINES"
  | .cooldownDuration => "COOLDOWN_DURATION"
  | .skipLimit => "SKIP_LIMIT"
  | .progressPolicy => "PROGRESS_POLICY"
  | .extractFields => "EXTRACT_FIELDS"
  | .extractSeparator => "EXTRACT_SEPARATOR"
  | .extractOutputSeparator => "EXTRACT_OUTPUT_SEPARATOR"
  | .logLevel => "LOG_LEVEL"
  | .logFormat => "LOG_FORMAT"
  | .logFile => "LOG_FILE"

/-- How the text of a setting's variable is read: texts as they are, numbers and
durations and the buffer size by their readers, the blank-line switch as on for "true"
and "1", the fields as a list. -/
def Key.readEnv : Key → String → Except String Value
  | .input | .output | .encoding | .progressPolicy | .extractSeparator
  | .extractOutputSeparator | .logLevel | .logFormat | .logFile => fun v => .ok (.text v)
  | .sectionSize | .workers | .readRetries | .cooldownAfterLines | .skipLimit =>
    fun v => (Decimal.parseInt "strconv.Atoi" v).map .int
  | .statusInterval | .pollInterval | .readDelay | .cooldownDuration =>
    fun v => (Duration.parse v).map .int
  | .ignoreEmptyLines => fun v => .ok (.bool (v = "true" || v = "1"))
  | .readBufferSize => fun v => (Size.parse v).map .int
  | .extractFields => fun v => (parseFields v).map .ints

/-- The layer of an environment: every setting whose variable is set and not empty, as
read from it. -/
def envLayer (getenv : String → String) : Layer := fun k =>
  let v := getenv (envPrefix ++ k.envName)
  if v.isEmpty then none else (k.readEnv v).toOption

/-- Variables read by `read`, each the variable of its own setting, which it sets. -/
def Reads {α : Type} (read : String → Except String α) (inj : α → Value)
    (vars : List (String × (Settings → α → Settings))) (keys : List Key) : Prop :=
  Forall₂ (fun e k => e.1 = k.envName ∧ Sets e.2 k inj ∧ ∀ v, (read v).map inj = k.readEnv v)
    vars keys

/-
  Setting from some variables lays the environment's layer over their
  settings: an unset variable leaves its setting, and a set one sets it,
  which no later variable touches.
-/
theorem get_setFrom
    {α : Type}
    {getenv : String → String}
    {read : String → Except String α}
    {inj : α → Value}
    {vars : List (String × (Settings → α → Settings))}
    {keys : List Key}
    (hReads : Reads read inj vars keys)
    (hNodup : keys.Nodup) :
    ∀ {c c' : Settings}, setFrom getenv read vars c = .ok c' → ∀ k,
      c'.get k = (if k ∈ keys then envLayer getenv k else none).getD (c.get k) := by
  induction hReads with
  | nil =>
    intro c c' h k
    simp only [setFrom, foldlM_nil, pure, Except.pure, Except.ok.injEq] at h
    simp [h]
  | @cons e key vars keys hEntry _ ih =>
    obtain ⟨name, set⟩ := e
    obtain ⟨rfl, hSets, hRead⟩ := hEntry
    obtain ⟨hFresh, hNodup⟩ := nodup_cons.1 hNodup
    intro c c' h k
    simp only [setFrom, foldlM_cons] at h
    by_cases hEmpty : (getenv (envPrefix ++ key.envName)).isEmpty
    · simp only [hEmpty, if_true, pure, Except.pure, bind, Except.bind] at h
      rw [ih hNodup h k]
      by_cases hk : k = key
      · subst hk
        simp [hFresh, envLayer, hEmpty]
      · simp [hk]
    · rcases hx : read (getenv (envPrefix ++ key.envName)) with m | x
      · simp [hEmpty, hx, bind, Except.bind, throw, throwThe, MonadExceptOf.throw] at h
      · simp only [hEmpty, hx, Bool.false_eq_true, if_false, pure, Except.pure, bind,
          Except.bind] at h
        rw [ih hNodup h k, hSets]
        by_cases hk : k = key
        · subst hk
          have hValue := hRead (getenv (envPrefix ++ k.envName))
          rw [hx] at hValue
          simp [hFresh, envLayer, hEmpty, ← hValue, Except.map, Except.toOption]
        · simp [hk]

/-- The variables of the text settings. -/
theorem reads_textVars :
    Reads (fun v => .ok v) .text textVars
      [.input, .output, .encoding, .progressPolicy, .extractSeparator,
        .extractOutputSeparator, .logLevel, .logFormat, .logFile] := by
  simp only [Reads, textVars, forall₂_cons, Forall₂.nil, and_true]
  refine ⟨?_, ?_, ?_, ?_, ?_, ?_, ?_, ?_, ?_⟩ <;>
    refine ⟨rfl, fun c x k => ?_, fun _ => rfl⟩ <;> cases k <;> rfl

/-- The variables of the number settings. -/
theorem reads_intVars :
    Reads (Decimal.parseInt "strconv.Atoi") .int intVars
      [.sectionSize, .workers, .readRetries, .cooldownAfterLines, .skipLimit] := by
  simp only [Reads, intVars, forall₂_cons, Forall₂.nil, and_true]
  refine ⟨?_, ?_, ?_, ?_, ?_⟩ <;>
    refine ⟨rfl, fun c x k => ?_, fun _ => rfl⟩ <;> cases k <;> rfl

/-- The variables of the durations. -/
theorem reads_durationVars :
    Reads Duration.parse .int durationVars
      [.statusInterval, .pollInterval, .readDelay, .cooldownDuration] := by
  simp only [Reads, durationVars, forall₂_cons, Forall₂.nil, and_true]
  refine ⟨?_, ?_, ?_, ?_⟩ <;>
    refine ⟨rfl, fun c x k => ?_, fun _ => rfl⟩ <;> cases k <;> rfl

/-- The bound computation of a successful bind succeeded. -/
theorem Except.exists_ok_of_bind_ok
    {ε α β : Type}
    {x : Except ε α}
    {f : α → Except ε β}
    {b : β}
    (h : (x >>= f) = .ok b) :
    ∃ a, x = .ok a ∧ f a = .ok b := by
  cases x with
  | error e => cases h
  | ok a => exact ⟨a, rfl, h⟩

/-
  Loading the environment lays its layer over all the settings: the six
  passes of the loader read disjoint sets of variables that together
  name every setting once.
-/
theorem get_loadEnv
    {getenv : String → String}
    {c c' : Settings}
    (h : loadEnv getenv c = .ok c')
    (k : Key) :
    c'.get k = (envLayer getenv k).getD (c.get k) := by
  obtain ⟨c₁, h₁, h⟩ := Except.exists_ok_of_bind_ok h
  obtain ⟨c₂, h₂, h⟩ := Except.exists_ok_of_bind_ok h
  obtain ⟨c₃, h₃, h⟩ := Except.exists_ok_of_bind_ok h
  obtain ⟨c₄, h₄, h⟩ := Except.exists_ok_of_bind_ok h
  obtain ⟨c₅, h₅, h₆⟩ := Except.exists_ok_of_bind_ok h
  have hSwitch : Reads (fun v => .ok (v = "true" || v = "1")) .bool
      [("IGNORE_EMPTY_LINES", fun c b => { c with ignoreEmptyLines := b })]
      [.ignoreEmptyLines] :=
    .cons ⟨rfl, fun c x k => by cases k <;> rfl, fun _ => rfl⟩ .nil
  have hSize : Reads Size.parse .int
      [("READ_BUFFER_SIZE", fun c n => { c with read := { c.read with bufferSize := n } })]
      [.readBufferSize] :=
    .cons ⟨rfl, fun c x k => by cases k <;> rfl, fun _ => rfl⟩ .nil
  have hFields : Reads parseFields .ints
      [("EXTRACT_FIELDS", fun c fs => { c with extract := { c.extract with fields := fs } })]
      [.extractFields] :=
    .cons ⟨rfl, fun c x k => by cases k <;> rfl, fun _ => rfl⟩ .nil
  rw [get_setFrom hFields (by decide) h₆, get_setFrom hSize (by decide) h₅,
    get_setFrom hSwitch (by decide) h₄, get_setFrom reads_durationVars (by decide) h₃,
    get_setFrom reads_intVars (by decide) h₂, get_setFrom reads_textVars (by decide) h₁]
  cases k <;> simp

------------------------------------------------------------
-- The File
------------------------------------------------------------

/-- The key of a setting in a file, through its group. -/
def Key.filePath : Key → List String
  | .input => ["input"]
  | .output => ["output"]
  | .encoding => ["encoding"]
  | .sectionSize => ["section_size"]
  | .ignoreEmptyLines => ["ignore_empty_lines"]
  | .workers => ["workers"]
  | .statusInterval => ["status_interval"]
  | .pollInterval => ["poll_interval"]
  | .readRetries => ["read", "retries"]
  | .readDelay => ["read", "delay"]
  | .readBufferSize => ["read", "buffer_size"]
  | .cooldownAfterLines => ["cooldown", "after_lines"]
  | .cooldownDuration => ["cooldown", "duration"]
  | .skipLimit => ["skip_limit"]
  | .progressPolicy => ["progress_policy"]
  | .extractFields => ["extract", "fields"]
  | .extractSeparator => ["extract", "separator"]
  | .extractOutputSeparator => ["extract", "output_separator"]
  | .logLevel => ["log", "level"]
  | .logFormat => ["log", "format"]
  | .logFile => ["log", "file"]

/-- The entry of a file at a path of keys, null where there is none. -/
def entry (v : Yaml.Value) (path : List String) : Yaml.Value :=
  (path.foldl (fun o n => o.bind (·.field n)) (some v)).getD .null

@[simp] theorem entry_key (v : Yaml.Value) (key : String) :
    entry v [key] = (v.field key).getD .null := rfl

@[simp] theorem entry_group (v : Yaml.Value) (group key : String) :
    entry v [group, key] = groupField v group key := rfl

/-- A setting read from text when the text is not empty. -/
def readEntry (read : String → Except String Int) (t : String) : Option Value :=
  if t.isEmpty then none else (read t).toOption.map .int

/-- The layer of a file: the blank-line switch and the retries when they are there,
durations and the buffer size when their text is not empty, every other setting when it
is not zero. -/
def fileLayer (v : Yaml.Value) : Layer := fun k =>
  let e := entry v k.filePath
  match k with
  | .ignoreEmptyLines => match e with
    | .bool b => some (.bool b)
    | _ => none
  | .readRetries => match e with
    | .int n => some (.int n)
    | _ => none
  | .statusInterval | .pollInterval | .readDelay | .cooldownDuration =>
    readEntry Duration.parse e.textD
  | .readBufferSize => readEntry Size.parse e.textD
  | .sectionSize | .workers | .cooldownAfterLines | .skipLimit => (Value.int e.intD).unlessZero
  | .extractFields => (Value.ints (intsOf e)).unlessZero
  | .input | .output | .encoding | .progressPolicy | .extractSeparator
  | .extractOutputSeparator | .logLevel | .logFormat | .logFile => (Value.text e.textD).unlessZero

/-- What a step that reads setting `k` from text can have done: nothing when the text is
empty, else set the setting to the value read. -/
def ReadStep (read : String → Except String Int) (set : Settings → Int → Settings)
    (t : String) (c c' : Settings) : Prop :=
  (t.isEmpty = true ∧ c' = c) ∨ (t.isEmpty = false ∧ ∃ d, read t = .ok d ∧ c' = set c d)

/- A read step lays what it read over its own setting. -/
theorem get_of_readStep
    {read : String → Except String Int}
    {t : String}
    {f : Settings → Int → Settings}
    {k : Key}
    {c c' : Settings}
    (hSets : Sets f k .int)
    (h : ReadStep read f t c c')
    (k' : Key) :
    c'.get k' = (if k' = k then readEntry read t else none).getD (c.get k') := by
  rcases h with ⟨hEmpty, rfl⟩ | ⟨hEmpty, d, hd, rfl⟩
  · by_cases hk : k' = k <;> simp [hk, readEntry, hEmpty]
  · rw [hSets]
    by_cases hk : k' = k <;> simp [hk, readEntry, hEmpty, hd, Except.toOption]

/- The steps that read the durations of a file. -/
theorem readStep_of_ok
    {read : String → Except String Int}
    {t : String}
    {f : Settings → Int → Settings}
    {msg : String → String}
    {c c' : Settings}
    (h : (if t.isEmpty then Except.ok c
      else match read t with
        | .ok d => .ok (f c d)
        | .error e => .error (msg e)) = .ok c') :
    ReadStep read f t c c' := by
  by_cases hEmpty : t.isEmpty
  · simp only [hEmpty, if_true, Except.ok.injEq] at h
    exact .inl ⟨hEmpty, h.symm⟩
  · simp only [hEmpty, Bool.false_eq_true, if_false] at h
    split at h
    · rename_i d hd
      cases h
      exact .inr ⟨by simpa using hEmpty, d, hd, rfl⟩
    · cases h

/-
  Reading a file lays its layer over the defaults. The settings the file
  holds as plain values come through merging; the blank-line switch and
  the retries are set after it when the file holds a value of their
  kind, then the durations and the buffer size are read in turn, each
  setting only its own setting; the buffer size is matched on its own,
  not through the duration reader.
-/
theorem get_ofYaml
    {v : Yaml.Value}
    {c : Settings}
    (h : ofYaml v = .ok c)
    (k : Key) :
    c.get k = (fileLayer v k).getD (Settings.default.get k) := by
  unfold ofYaml at h
  extract_lets text int base c₀ src c₁ duration size at h
  obtain ⟨c₂, h₂, h⟩ := Except.exists_ok_of_bind_ok h
  obtain ⟨c₃, h₃, h⟩ := Except.exists_ok_of_bind_ok h
  obtain ⟨c₄, h₄, h⟩ := Except.exists_ok_of_bind_ok h
  obtain ⟨c₅, h₅, h₆⟩ := Except.exists_ok_of_bind_ok h
  simp only [duration] at h₂ h₃ h₄ h₅
  have h₆ : ReadStep Size.parse (fun c n => { c with read := { c.read with bufferSize := n } })
      size c₅ c := by
    split at h₆
    · rename_i hEmpty
      exact .inl ⟨hEmpty, (Except.ok.inj h₆).symm⟩
    · rename_i hEmpty
      split at h₆
      · rename_i n hn
        cases h₆
        exact .inr ⟨by simpa using hEmpty, n, hn, rfl⟩
      · cases h₆
  rw [get_of_readStep (k := .readBufferSize) (fun c x k => by cases k <;> rfl) h₆,
    get_of_readStep (k := .cooldownDuration) (fun c x k => by cases k <;> rfl)
      (readStep_of_ok (f := fun c d => { c with cooldown := { c.cooldown with duration := d } })
        h₅),
    get_of_readStep (k := .readDelay) (fun c x k => by cases k <;> rfl)
      (readStep_of_ok (f := fun c d => { c with read := { c.read with delay := d } }) h₄),
    get_of_readStep (k := .pollInterval) (fun c x k => by cases k <;> rfl)
      (readStep_of_ok (f := fun c d => { c with pollInterval := d }) h₃),
    get_of_readStep (k := .statusInterval) (fun c x k => by cases k <;> rfl)
      (readStep_of_ok (f := fun c d => { c with statusInterval := d }) h₂)]
  have hSwitch :
      c₀.get k = (if k = .ignoreEmptyLines then fileLayer v k else none).getD (base.get k) := by
    simp only [c₀]
    by_cases hk : k = .ignoreEmptyLines
    · subst hk
      rcases hf : v.field "ignore_empty_lines" with _ | ⟨_ | _ | _ | b | _ | _⟩ <;>
        simp [hf, get, fileLayer, Key.filePath]
    · rw [if_neg hk, Option.getD_none]
      split <;> cases k <;> first | rfl | exact absurd rfl hk
  have hRetries :
      c₁.get k = (if k = .readRetries then fileLayer v k else none).getD (c₀.get k) := by
    simp only [c₁, src]
    by_cases hk : k = .readRetries
    · subst hk
      rcases hf : groupField v "read" "retries" with _ | _ | n | _ | _ | _ <;>
        simp [hf, get, fileLayer, Key.filePath]
    · rw [if_neg hk, Option.getD_none]
      split <;> cases k <;> first | rfl | exact absurd rfl hk
  rw [hRetries, hSwitch]
  simp only [base, get_merge]
  cases k <;> simp [fileLayer, mergeLayer, Key.filePath, readEntry, get, text, int, size,
    Value.unlessZero, Value.isZero, default]

end Settings

namespace Cli

open Settings

------------------------------------------------------------
-- The Command Line
------------------------------------------------------------

/-- The layer of a command line: the flags -keep-empty-lines, -read-retries,
-cooldown-after and -skip-limit whenever they are given, every other flag when its value
is not zero. -/
def flagLayer (fl : FlagsRead) : Layer := fun k =>
  let taken (name : String) (x : Value) : Option Value :=
    if fl.given name then some x else none
  match k with
  | .input => (Value.text (fl.text "input")).unlessZero
  | .output => (Value.text (fl.text "output")).unlessZero
  | .encoding => (Value.text (fl.text "encoding")).unlessZero
  | .sectionSize => (Value.int (fl.int "section-size")).unlessZero
  | .ignoreEmptyLines => taken "keep-empty-lines" (.bool !(fl.bool "keep-empty-lines"))
  | .workers => (Value.int (fl.int "workers")).unlessZero
  | .statusInterval => (Value.int (fl.duration "status-interval")).unlessZero
  | .pollInterval => none
  | .readRetries => taken "read-retries" (.int (fl.int "read-retries"))
  | .readDelay => (Value.int (fl.duration "read-delay")).unlessZero
  | .readBufferSize => (readEntry Size.parse (fl.text "buffer-size")).bind Value.unlessZero
  | .cooldownAfterLines => taken "cooldown-after" (.int (fl.int "cooldown-after"))
  | .cooldownDuration => (Value.int (fl.duration "cooldown")).unlessZero
  | .skipLimit => taken "skip-limit" (.int (fl.int "skip-limit"))
  | .progressPolicy => (Value.text (fl.text "progress")).unlessZero
  | .extractFields =>
    if (fl.text "fields").isEmpty then none
    else ((parseFields (fl.text "fields")).toOption.map .ints).bind Value.unlessZero
  | .extractSeparator => (Value.text (fl.text "separator")).unlessZero
  | .extractOutputSeparator => (Value.text (fl.text "output-separator")).unlessZero
  | .logLevel => (Value.text (fl.text "log-level")).unlessZero
  | .logFormat => (Value.text (fl.text "log-format")).unlessZero
  | .logFile => (Value.text (fl.text "log-file")).unlessZero

/- The settings the run flags give are merged: they are the flags' layer but for the four
flags read whenever they are given, which the merge does not see. -/
theorem mergeLayer_runOverrides
    {fl : FlagsRead}
    {top : Settings}
    (hTop : runOverrides fl = .ok top)
    (k : Key) :
    mergeLayer top k =
      if k ∈ [.ignoreEmptyLines, .readRetries, .cooldownAfterLines, .skipLimit] then none
      else flagLayer fl k := by
  simp only [runOverrides, pure_bind] at hTop
  split at hTop <;> rename_i hFields
  · split at hTop <;> rename_i hSize
    · cases Except.ok.inj hTop
      cases k <;> simp [mergeLayer, flagLayer, Settings.get, readEntry, Value.unlessZero, Value.isZero,
        hFields, hSize]
    · split at hTop
      · rename_i n hN
        cases Except.ok.inj hTop
        cases k <;> simp [mergeLayer, flagLayer, Settings.get, readEntry, Value.unlessZero,
          Value.isZero, hFields, hSize, hN, Except.toOption]
      · cases hTop
  · split at hTop
    · rename_i fs hFs
      split at hTop <;> rename_i hSize
      · cases Except.ok.inj hTop
        cases k <;> simp [mergeLayer, flagLayer, Settings.get, readEntry, Value.unlessZero,
          Value.isZero, hFields, hSize, hFs, Except.toOption]
      · split at hTop
        · rename_i n hN
          cases Except.ok.inj hTop
          cases k <;> simp [mergeLayer, flagLayer, Settings.get, readEntry, Value.unlessZero,
            Value.isZero, hFields, hSize, hFs, hN, Except.toOption]
        · cases hTop
    · cases hTop

/-
  The run flags lay their layer over the settings below them: merging
  takes the flags whose value is not zero, and the four flags read
  whenever they are given are set after it.
-/
theorem get_applyRunFlags
    {fl : FlagsRead}
    {top : Settings}
    (hTop : runOverrides fl = .ok top)
    (c : Settings)
    (k : Key) :
    (applyRunFlags fl top c).get k = (flagLayer fl k).getD (c.get k) := by
  simp only [applyRunFlags]
  rw [get_ite_set (f := fun c n => { c with skipLimit := n }) (k := .skipLimit)
      (fun c x k => by cases k <;> rfl),
    get_ite_set (f := fun c n => { c with cooldown := { c.cooldown with afterLines := n } })
      (k := .cooldownAfterLines) (fun c x k => by cases k <;> rfl),
    get_ite_set (f := fun c n => { c with read := { c.read with retries := n } })
      (k := .readRetries) (fun c x k => by cases k <;> rfl),
    get_ite_set (f := fun c b => { c with ignoreEmptyLines := b }) (k := .ignoreEmptyLines)
      (fun c x k => by cases k <;> rfl),
    get_merge, mergeLayer_runOverrides hTop]
  cases k <;> simp [flagLayer]

------------------------------------------------------------
-- All the Layers
------------------------------------------------------------

/-- The layer of the settings file a run names: none when it names none. -/
def fileLayer (w : World) (path : String) : Layer :=
  if path.isEmpty then fun _ => none
  else match w.disk.readFile w.cwd path with
    | .ok contents =>
      match Yaml.unmarshal contents fileShape with
      | .ok v => Settings.fileLayer v
      | .error _ => fun _ => none
    | .error _ => fun _ => none

/- The settings a run loads are the environment laid over the file laid over the
defaults. -/
theorem get_loadSettings
    {w : World}
    {path : String}
    {c : Settings}
    (h : loadSettings w path = .ok c)
    (k : Key) :
    c.get k = (envLayer w.getenv k).getD ((fileLayer w path k).getD (Settings.default.get k)) := by
  simp only [loadSettings, pure_bind] at h
  by_cases hPath : path.isEmpty
  · simp only [hPath, if_true] at h
    simp [get_loadEnv h, fileLayer, hPath]
  · simp only [hPath, Bool.false_eq_true, if_false] at h
    obtain ⟨c₀, h₀, hEnv⟩ := Except.exists_ok_of_bind_ok h
    simp only [loadPath, loadFile] at h₀
    split at h₀
    · rename_i contents hRead
      split at h₀
      · rename_i v hYaml
        simp [get_loadEnv hEnv, fileLayer, hPath, hRead, hYaml, get_ofYaml h₀]
      · cases h₀
    · cases h₀

/-
  Every setting of a run comes from the first layer that gives it: the
  command line, then the environment, then the settings file, then the
  defaults.
-/
theorem run_settings_come_in_layers
    {w : World}
    {fl : FlagsRead}
    {base top : Settings}
    (hBase : loadSettings w (fl.text "config") = .ok base)
    (hTop : runOverrides fl = .ok top)
    (k : Key) :
    (applyRunFlags fl top base).get k =
      (flagLayer fl k).getD ((envLayer w.getenv k).getD
        ((fileLayer w (fl.text "config") k).getD (Settings.default.get k))) := by
  rw [get_applyRunFlags hTop, get_loadSettings hBase]

/-
  With no settings file, the number of workers set to three in the
  environment and to zero on the command line, the run takes three
  workers.
-/
theorem run_settings_layers_workers :
    let w : World :=
      { disk := {}, cwd := "/w", freshId := "run",
        getenv := fun n => if n = "CHUNKLINE_WORKERS" then "3" else "" }
    let fl : FlagsRead := { values := [("input", .text "in.txt"), ("workers", .int 0)] }
    ∃ base top, loadSettings w (fl.text "config") = .ok base ∧ runOverrides fl = .ok top ∧
      (applyRunFlags fl top base).get .workers = .int 3 := by
  intro w fl
  obtain ⟨base, hBase, -⟩ := Except.exists_ok_of_any
    (show (loadSettings w (fl.text "config")).toOption.any (fun _ => true) = true by decide +kernel)
  obtain ⟨top, hTop, -⟩ := Except.exists_ok_of_any
    (show (runOverrides fl).toOption.any (fun _ => true) = true by decide +kernel)
  refine ⟨base, top, hBase, hTop, ?_⟩
  rw [run_settings_come_in_layers hBase hTop]
  decide +kernel

/-
  A section size of zero given on the command line is not taken: the run
  keeps the default of a thousand lines, and its settings pass the check
  that a zero would fail.
-/
theorem zero_section_size_flag_passes_validation :
    ∃ fl top,
      Flag.parseArgs runFlags ["-input", "in.txt", "-output", "out.txt", "-section-size", "0"] =
        .ok fl ∧
      fl.given "section-size" = true ∧ fl.int "section-size" = 0 ∧
      runOverrides fl = .ok top ∧
      (applyRunFlags fl top Settings.default).sectionSize = 1000 ∧
      (applyRunFlags fl top Settings.default).validate = .ok () := by
  have hRun : ((Flag.parseArgs runFlags
      ["-input", "in.txt", "-output", "out.txt", "-section-size", "0"]).toOption.any fun fl =>
      fl.given "section-size" && fl.int "section-size" == 0 &&
      (runOverrides fl).toOption.any fun top =>
        (applyRunFlags fl top Settings.default).sectionSize == 1000 &&
        (applyRunFlags fl top Settings.default).validate.toOption.isSome) = true := by
    decide +kernel
  obtain ⟨fl, hFlags, hFacts⟩ := Except.exists_ok_of_any hRun
  simp only [Bool.and_eq_true, beq_iff_eq] at hFacts
  obtain ⟨⟨hGiven, hZero⟩, hFacts⟩ := hFacts
  obtain ⟨top, hTop, hFacts⟩ := Except.exists_ok_of_any hFacts
  simp only [Bool.and_eq_true, beq_iff_eq] at hFacts
  obtain ⟨hSize, hValid⟩ := hFacts
  obtain ⟨u, hu, -⟩ := Except.exists_ok_of_any (p := fun _ => true) (by simpa using hValid)
  exact ⟨fl, top, hFlags, hGiven, hZero, hTop, hSize, hu⟩

end Cli

end LineBatch
