import LineBatch.Text.Utf8

/-
  Errors of batch processing.

  A coded error has a code that says what went wrong, a message
  template whose placeholders {0}, {1}, ... are filled from its
  arguments, a severity, and an optional cause. A recoverable error
  lets work go on with the next line; a fatal one stops a worker.

  Causes are plain messages, well-known conditions that callers test
  for (a missing source, a source that changed or shrank, a closed
  reader, a cancelled run), or either of these wrapped in more text or
  in a coded error, through which they stay visible.
  A failure is a cause or a coded error, possibly wrapped in text; its
  coded error is the first one found inside it, and a failure with
  none is reported as an unexpected error.

  Key definitions:
    * `Severity`, `Condition`, `Cause`, `Error`, `Failure`
    * `Error.text`, `Error.message`, `Failure.message`
    * `Failure.codedError?`, `Failure.toError`, `Failure.has`
    * the coded errors of the library: `Error.notFound`, `Error.readFailed`, ...
-/

namespace LineBatch

------------------------------------------------------------
-- Severity
------------------------------------------------------------

/-- How serious an error is. Levels other than the two named ones have no name. -/
inductive Severity where
  | recoverable
  | fatal
  | other (level : Int)
  deriving DecidableEq, Repr

namespace Severity

/-- The severity of a numeric level: 0 is recoverable and 1 is fatal. -/
def ofInt (n : Int) : Severity :=
  if n = 0 then .recoverable else if n = 1 then .fatal else .other n

/-- The name of a severity; levels without a name are "unknown". -/
def name : Severity → String
  | .recoverable => "recoverable"
  | .fatal => "fatal"
  | .other _ => "unknown"

end Severity

------------------------------------------------------------
-- Causes
------------------------------------------------------------

/-- Conditions that callers test for through any wrapping. -/
inductive Condition where
  | sourceNotFound
  | sourceTruncated
  | sourceChanged
  | readerClosed
  | cancelled
  | rangeNotSupported
  | rangeNotSatisfiable
  | httpNotFound
  | serverError
  | resultFile
  deriving DecidableEq, Repr

/-- The message of a condition. -/
def Condition.text : Condition → String
  | .sourceNotFound => "source not found"
  | .sourceTruncated => "source shorter than resume offset"
  | .sourceChanged => "source changed since first open"
  | .readerClosed => "reader is closed"
  | .cancelled => "context canceled"
  | .rangeNotSupported => "http: server does not support range requests"
  | .rangeNotSatisfiable => "http: requested range not satisfiable"
  | .httpNotFound => "http: resource not found"
  | .serverError => "http: server error"
  | .resultFile => "jobs: result file"

/-- Why something failed, before any coded error was made of it. -/
inductive Cause where
  /-- A plain message, which may hold any octets. -/
  | text (msg : Bytes)
  /-- A well-known condition. -/
  | condition (c : Condition)
  /-- A cause with text before and after it. -/
  | wrap (before : String) (inner : Cause) (after : String)
  /-- A cause with octets before and after it, such as a coded error's code and text around
  the cause it carries, which stays visible. -/
  | within (before : Bytes) (inner : Cause) (after : Bytes)
  deriving Repr

namespace Cause

/-- The message of a cause. -/
def message : Cause → Bytes
  | .text m => m
  | .condition c => Bytes.ofString c.text
  | .wrap b i a => Bytes.ofString b ++ i.message ++ Bytes.ofString a
  | .within b i a => b ++ i.message ++ a

/-- A plain message given as a string. -/
def plain (msg : String) : Cause := .text (Bytes.ofString msg)

/-- Whether a cause is, or wraps, a condition. -/
def has (c : Condition) : Cause → Bool
  | .text _ => false
  | .condition d => c == d
  | .wrap _ i _ => i.has c
  | .within _ i _ => i.has c

/-- Text before a cause, joined by a colon and a space. -/
def under (prefix_ : String) (c : Cause) : Cause := .wrap (prefix_ ++ ": ") c ""

/-- Causes reported together, one to a line, the missing ones left out; the first keeps the
conditions it wraps and the second is kept as its message. -/
def joinLines : Option Cause → Option Cause → Option Cause
  | some a, some b => some (.within [] a (10 :: b.message))
  | some a, none => some a
  | none, b => b

end Cause

------------------------------------------------------------
-- Coded errors
------------------------------------------------------------

/-- A coded error. -/
structure Error where
  code : String
  template : String
  args : List Bytes
  severity : Severity
  cause : Option Cause
  deriving Repr

namespace Error

/-- Fills placeholders in order: every {i} becomes the i-th argument, one argument after
another, so an argument may itself hold a later placeholder. -/
def fill (template : String) (args : List Bytes) : Bytes :=
  (args.zipIdx).foldl
    (fun msg (a, i) => Bytes.replaceAll (Bytes.ofString ("\x7b" ++ toString i ++ "\x7d")) a msg)
    (Bytes.ofString template)

/-- The text of an error: its template with the arguments filled in. -/
def text (e : Error) : Bytes := fill e.template e.args

/-- The full message: code, text and the cause's message, joined by colons. -/
def message (e : Error) : Bytes :=
  let head := Bytes.ofString (e.code ++ ": ") ++ e.text
  match e.cause with
  | some c => head ++ Bytes.ofString ": " ++ c.message
  | none => head

/-- Whether an error stops a worker. -/
def isFatal (e : Error) : Bool := e.severity == .fatal

/-- Whether an error is, or is caused by, a condition. -/
def has (c : Condition) (e : Error) : Bool :=
  match e.cause with
  | some k => k.has c
  | none => false

------------------------------------------------------------
-- The codes of the library
------------------------------------------------------------

def codeNotFound : String := "INPUT_NOT_FOUND"
def codeReadFailed : String := "INPUT_READ_FAILED"
def codeOpenFailed : String := "INPUT_OPEN_FAILED"
def codeCloseFailed : String := "INPUT_CLOSE_FAILED"
def codeClosed : String := "INPUT_CLOSED"
def codeFormat : String := "LINE_FORMAT"
def codeProcessing : String := "LINE_PROCESSING"
def codeSkipLimit : String := "OVER_SKIP_LIMIT"
def codeCancelled : String := "CANCELLED"
def codeUnexpected : String := "UNEXPECTED"

/-- An input that does not exist. -/
def notFound (name : String) (cause : Cause) : Error :=
  ⟨codeNotFound, "Input {0} not found", [Bytes.ofString name], .fatal, some cause⟩

/-- An input that could not be opened where reading should resume. -/
def openFailed (name : String) (cause : Cause) : Error :=
  ⟨codeOpenFailed, "Failed to open input {0}", [Bytes.ofString name], .fatal, some cause⟩

/-- Reading that kept failing. -/
def readFailed (name : String) (tries : Nat) (cause : Cause) : Error :=
  ⟨codeReadFailed, "Failed reading from {0} after {1} tries",
    [Bytes.ofString name, Bytes.ofString (toString tries)], .fatal, some cause⟩

/-- Closing that failed. -/
def closeFailed (name : String) (cause : Cause) : Error :=
  ⟨codeCloseFailed, "Failed to close input {0}", [Bytes.ofString name], .fatal, some cause⟩

/-- Reading from a closed reader. -/
def closed (name : String) : Error :=
  ⟨codeClosed, "Input {0} is closed", [Bytes.ofString name], .fatal,
    some (.condition .readerClosed)⟩

/-- Shortens a line for a message: at most 120 octets, cut where a character starts, and
marked with an ellipsis when cut. -/
def truncateLine (raw : List UInt8) : List UInt8 :=
  if raw.length ≤ 120 then raw
  else
    let isStart (b : UInt8) : Bool := b.toNat < 0x80 || b.toNat ≥ 0xC0
    let cut := ((List.range 121).reverse.find? fun n =>
      n = 0 || (raw[n]?.map isStart).getD true).getD 0
    raw.take cut ++ [46, 46, 46]

/-- A line that could not be parsed, shortened for the message. -/
def format (raw : Bytes) (cause : Option Cause) : Error :=
  ⟨codeFormat, "Malformed line: {0}", [truncateLine raw], .recoverable, cause⟩

/-- A line that a processor could not handle, with its message already formatted. The
message becomes the template, so braces in it stay as they are unless arguments follow. -/
def processing (sev : Severity) (cause : Option Cause) (text : Bytes) : Error :=
  ⟨codeProcessing, "{0}", [text], sev, cause⟩

/-- Too many recoverable errors. -/
def skipLimit (limit : Nat) : Error :=
  ⟨codeSkipLimit, "Exceeded skip limit of {0}", [Bytes.ofString (toString limit)], .fatal, none⟩

/-- A processor hook that stopped abnormally with a value. -/
def abnormal (hook : String) (value : Bytes) : Error :=
  ⟨codeUnexpected, "Panic in {0}: {1}", [Bytes.ofString hook, value], .fatal,
    some (.text (Bytes.ofString "panic: " ++ value))⟩

/-- A run that was cancelled. -/
def cancelled (cause : Cause) : Error :=
  ⟨codeCancelled, "Batch cancelled", [], .fatal, some cause⟩

/-- A failure that carries no coded error. -/
def unexpected (cause : Cause) : Error :=
  ⟨codeUnexpected, "Unexpected error: {0}", [cause.message], .fatal, some cause⟩

end Error

------------------------------------------------------------
-- Failures
------------------------------------------------------------

/-- Any failure. -/
inductive Failure where
  /-- A failure with no coded error. -/
  | cause (c : Cause)
  /-- A coded error. -/
  | coded (e : Error)
  /-- A failure with text before and after it. -/
  | wrap (before : String) (inner : Failure) (after : String)
  deriving Repr

namespace Failure

/-- A plain message. -/
def plain (msg : String) : Failure := .cause (Cause.plain msg)

/-- The message of a failure. -/
def message : Failure → Bytes
  | .cause c => c.message
  | .coded e => e.message
  | .wrap b i a => Bytes.ofString b ++ i.message ++ Bytes.ofString a

/-- The coded error inside a failure, if any. -/
def codedError? : Failure → Option Error
  | .cause _ => none
  | .coded e => some e
  | .wrap _ i _ => i.codedError?

/-- The failure as a cause, for wrapping into a coded error; a coded error keeps the cause
it carries, so the conditions inside it are still found. -/
def asCause : Failure → Cause
  | .cause c => c
  | .coded e =>
    match e.cause with
    | some k => .within (Bytes.ofString (e.code ++ ": ") ++ e.text ++ Bytes.ofString ": ") k []
    | none => .text e.message
  | .wrap b i a => .wrap b i.asCause a

/-- The coded error of a failure, or an unexpected error made from it. -/
def toError (f : Failure) : Error :=
  match f.codedError? with
  | some e => e
  | none => Error.unexpected f.asCause

/-- Whether a failure is, or wraps, a condition. -/
def has (c : Condition) : Failure → Bool
  | .cause k => k.has c
  | .coded e => e.has c
  | .wrap _ i _ => i.has c

/-- Text before a failure, joined by a colon and a space. -/
def under (prefix_ : String) (f : Failure) : Failure := .wrap (prefix_ ++ ": ") f ""

/-- A failure taken as a cause keeps its message. -/
theorem message_asCause (f : Failure) : f.asCause.message = f.message := by
  induction f with
  | cause c => rfl
  | coded e =>
    cases hk : e.cause <;> simp [asCause, message, Cause.message, Error.message, hk]
  | wrap b i a ih => simp [asCause, message, Cause.message, ih]

/-- A failure taken as a cause wraps the same conditions. -/
theorem has_asCause (c : Condition) (f : Failure) : f.asCause.has c = f.has c := by
  induction f with
  | cause k => rfl
  | coded e => cases hk : e.cause <;> simp [asCause, has, Cause.has, Error.has, hk]
  | wrap b i a ih => simp [asCause, has, Cause.has, ih]

end Failure

end LineBatch
