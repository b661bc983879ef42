import LineBatch.Line
import LineBatch.Log
import LineBatch.Source.Stream
import LineBatch.Charset.Decode
import LineBatch.Units.Size
import LineBatch.Units.Duration

/-
  Readers of line-oriented input.

  A reader reads a source line by line and hands out lines one at a
  time or in sections of up to a fixed number of parsed lines. It keeps
  the offset of the first byte it has not handed out. When a read
  fails it drops its stream and opens the source again at that offset,
  up to a number of retries; failures that say the source is missing,
  shorter than the offset or changed are final at once. A failure is
  reported as a coded error: not found, failed to open (shorter or
  changed), or failed reading after so many tries.

  A line is the bytes up to a line feed, without it and without one
  carriage return before it; the last line needs no line feed. It is
  decoded from the input's encoding, skipped if it is blank and blank
  lines are ignored (blanks are the Unicode white space), and parsed.
  A line the parser refuses is rejected with a format error, unless the
  parser's failure already carries a coded error, which is kept.

  A section that fails gives its lines back: the offset returns to
  where the section started, so the next request reads them again.
  After the end of the input every request gets an empty last section
  or the end; after closing, every request fails.

  Every opening, retry and final failure is logged, each record
  carrying the input's name.

  Key definitions:
    * `ReaderOptions`, `Reader`, `Reader.open`
    * `Reader.readSection`, `Reader.readLine`, `Reader.close`
    * `Reader.countLines`, `Reader.countLogged`
-/

namespace LineBatch

/-- The parser that splits lines on runs of white space. -/
def Parser.whitespace : Parser :=
  match Parser.splitting Parser.defaultSeparator with
  | .ok p => p
  | .error _ => ⟨fun raw => .ok ⟨raw, Parser.defaultSeparator, [raw]⟩⟩

/-- How a reader is set up. -/
structure ReaderOptions where
  sectionSize : Int := 1000
  ignoreEmpty : Bool := true
  encoding : String := "utf-8"
  parser : Parser := Parser.whitespace
  retries : Int := 1
  delay : Duration := Duration.second

/-- A batch of parsed lines handed out at once. Rejected lines do not count toward the
section's size; `last` says the end of the input was reached while filling it. -/
structure Section where
  lines : Array Line
  rejected : Array Error
  last : Bool

/-- A reader over a source of type σ. -/
structure Reader (σ : Type) where
  source : σ
  name : String
  sectionSize : Nat
  ignoreEmpty : Bool
  parser : Parser
  retries : Nat
  delay : Duration
  charset : Charset
  stream : Option Stream
  offset : Nat
  atEnd : Bool
  closed : Bool
  records : Array Record
  /-- The number of raw lines read so far, for observers of every line. -/
  linesRead : Nat

/-- What a reader got when it asked for the next raw line. -/
inductive RawRead where
  | line (bytes : Bytes)
  | finished
  | failed (e : Error)

/-- Strips one line feed and then one carriage return from the end. -/
def trimEol (b : Bytes) : Bytes :=
  let b := if b.getLast? = some 10 then b.dropLast else b
  if b.getLast? = some 13 then b.dropLast else b

/-- Whether a failure means that reading again cannot help. -/
def Failure.isFinal (f : Failure) : Bool :=
  f.has .sourceNotFound || f.has .sourceTruncated || f.has .sourceChanged

/-- The error of a refused line: the coded error the refusal carries, or a format error. -/
def Failure.asLineError (f : Failure) (raw : Bytes) : Error :=
  match f.codedError? with
  | some e => e
  | none => Error.format raw (some f.asCause)

namespace Reader

variable {σ : Type} [ByteSource σ]

/-- Adds a log record carrying the input's name. -/
def log (r : Reader σ) (level : Level) (message : String) (attrs : List (String × String)) :
    Reader σ :=
  { r with records := r.records.push ⟨level, message, ("input", r.name) :: attrs⟩ }

/-- Forgets the open stream. -/
def drop (r : Reader σ) : Reader σ := { r with stream := none }

/-- Opens the source at the offset. -/
def reset (r : Reader σ) : Option Failure × Reader σ :=
  let r := r.drop
  let (res, source) := ByteSource.openAt r.source r.offset
  let r := { r with source }
  match res with
  | .error f => (some f, r)
  | .ok s =>
    let r := { r with stream := some s }
    if r.offset > 0 then
      (none, r.log .info "skipped to resume offset" [("skipped", Size.format r.offset)])
    else (none, r)

/-- The next chunk of the stream, opening the source first if no stream is open. -/
def nextChunk (r : Reader σ) : Chunk × Reader σ :=
  match r.stream with
  | some s =>
    let (c, s) := s.next
    (c, { r with stream := some s })
  | none =>
    match r.reset with
    | (some f, r) => (.fault f, r)
    | (none, r) =>
      match r.stream with
      | some s =>
        let (c, s) := s.next
        (c, { r with stream := some s })
      | none => (.last [], r)

/-- The coded error of a failed read after some tries. -/
def classify (r : Reader σ) (f : Failure) (tries : Nat) : Error :=
  if f.has .sourceNotFound then Error.notFound r.name f.asCause
  else if f.has .sourceTruncated || f.has .sourceChanged then Error.openFailed r.name f.asCause
  else Error.readFailed r.name tries f.asCause

/-- The text of a failure for a log record. -/
def failureText (f : Failure) : String := Utf8.lossy f.message

/-- Tries to read the line starting at `start`: `tries` is the number of this try, and
`fuel` the tries left, which is enough when it starts at the retries plus one. -/
def attempt (start : Nat) : Nat → Nat → Reader σ → RawRead × Reader σ
  | _, 0, r => (.finished, r)
  | tries, fuel + 1, r =>
    match r.nextChunk with
    | (.line b, r) => (.line (trimEol b), { r with offset := start + b.length })
    | (.last [], r) => (.finished, { r with atEnd := true })
    | (.last b, r) => (.line (trimEol b), { r with offset := start + b.length, atEnd := true })
    | (.fault f, r) =>
      if f.isFinal || tries > r.retries then
        let r := r.log .error "read failed"
          [("tries", toString tries), ("offset", toString start), ("error", failureText f)]
        (.failed (r.classify f tries), r.drop)
      else
        let r := r.log .warn "will retry reading"
          [("try", toString (tries + 1)), ("retries", toString r.retries),
           ("offset", toString start), ("delay", Duration.compact r.delay),
           ("error", failureText f)]
        attempt start (tries + 1) fuel r.drop

/-- Reads the next raw line, retrying failed reads. -/
def readRaw (r : Reader σ) : RawRead × Reader σ :=
  if r.atEnd then (.finished, r) else attempt r.offset 1 (r.retries + 1) r

/-- Reads and decodes the next line. -/
def readOneLine (r : Reader σ) : RawRead × Reader σ :=
  match r.readRaw with
  | (.line b, r) => (.line (r.charset.decode b), { r with linesRead := r.linesRead + 1 })
  | other => other

/-- A bound on the lines a reader can still read before its input ends: every line takes at
least one byte of the open stream or of a stream opened later. -/
def lineBound (r : Reader σ) : Nat :=
  (r.stream.map (·.rest.length)).getD 0 + ByteSource.bound r.source + 2

/-- Whether a line is skipped as blank. -/
def skips (r : Reader σ) (text : Bytes) : Bool := r.ignoreEmpty && Blank.isBlankLine text

/-- Fills a section from `start` on, for at most `fuel` more raw lines. -/
def fill (start : Nat) : Nat → Section → Reader σ → Except Error Section × Reader σ
  | 0, sec, r => (.ok sec, r)
  | fuel + 1, sec, r =>
    if r.sectionSize ≤ sec.lines.size then (.ok sec, r)
    else
      match r.readOneLine with
      | (.failed e, r) => (.error e, { r.drop with offset := start })
      | (.finished, r) => (.ok { sec with last := true }, r)
      | (.line t, r) =>
        if r.skips t then fill start fuel sec r
        else
          match r.parser.parse t with
          | .error f => fill start fuel { sec with rejected := sec.rejected.push (f.asLineError t) } r
          | .ok l => fill start fuel { sec with lines := sec.lines.push l } r

/-- Hands out the next section. -/
def readSection (r : Reader σ) : Except Error Section × Reader σ :=
  if r.closed then (.error (Error.closed r.name), r)
  else fill r.offset r.lineBound ⟨#[], #[], false⟩ r

/-- Reads lines until one is not skipped, for at most `fuel` raw lines. `none` is the end. -/
def nextLine : Nat → Reader σ → Except Error (Option Line) × Reader σ
  | 0, r => (.ok none, r)
  | fuel + 1, r =>
    match r.readOneLine with
    | (.failed e, r) => (.error e, r)
    | (.finished, r) => (.ok none, r)
    | (.line t, r) =>
      if r.skips t then nextLine fuel r
      else
        match r.parser.parse t with
        | .error f => (.error (f.asLineError t), r)
        | .ok l => (.ok (some l), r)

/-- Hands out the next line; `none` is the end of the input. -/
def readLine (r : Reader σ) : Except Error (Option Line) × Reader σ :=
  if r.closed then (.error (Error.closed r.name), r) else nextLine r.lineBound r

/-- Closes the reader: the open stream, if any, then the source, their failures joined;
closing again does nothing. -/
def close (r : Reader σ) : Option Error × Reader σ :=
  if r.closed then (none, r)
  else
    let streamFault := r.stream.bind (·.closeFault)
    let r := { r.drop with closed := true }
    let (res, source) := ByteSource.close r.source
    let r := { r with source }
    match Cause.joinLines (streamFault.map Failure.asCause) (res.map Failure.asCause) with
    | some k => (some (Error.closeFailed r.name k), r)
    | none => (none, r)

/-- What closing leaves, whatever failed: no stream, the reader closed and the source closed. -/
theorem close_snd (r : Reader σ) :
    r.close.2 = if r.closed then r
      else { r with stream := none, closed := true, source := (ByteSource.close r.source).2 } := by
  unfold close
  split
  · rfl
  · dsimp only
    split <;> rfl

/-- Sets a reader up on a source and opens the source at its start. A failure gives back
the source as it was left. -/
def «open» (src : σ) (opts : ReaderOptions) : Except Failure (Reader σ) × σ :=
  if opts.sectionSize ≤ 0 then (.error (.plain "batch: section size must be positive"), src)
  else
    match Charset.lookup opts.encoding with
    | .error f => (.error f, src)
    | .ok charset =>
      let r : Reader σ :=
        { source := src, name := ByteSource.name src, sectionSize := opts.sectionSize.toNat,
          ignoreEmpty := opts.ignoreEmpty, parser := opts.parser, retries := opts.retries.toNat,
          delay := opts.delay, charset, stream := none, offset := 0, atEnd := false,
          closed := false, records := #[], linesRead := 0 }
      match r.reset with
      | (some f, r) => (.error (.coded (r.classify f 1)), r.source)
      | (none, r) =>
        let r := r.log .info "input encoding set" [("encoding", charset.name)]
        let r := r.log .info "processing input by sections"
          [("section_size", toString r.sectionSize)]
        (.ok r, r.source)

/-- Counts lines to the end of the input, without decoding or parsing them; blank lines
(white space by the raw octets) are skipped if the reader skips them. Gives the count so far
with the failure that stopped it. -/
def countFrom : Nat → Nat → Reader σ → Nat × Option Error × Reader σ
  | n, 0, r => (n, none, r)
  | n, fuel + 1, r =>
    match r.readRaw with
    | (.failed e, r) => (n, some e, r)
    | (.finished, r) => (n, none, r)
    | (.line b, r) =>
      if r.ignoreEmpty && Blank.isBlankLine b then countFrom n fuel r
      else countFrom (n + 1) fuel r

/-- Counts the lines of a source as a reader with these options would read them, with the
records the counting reader wrote. -/
def countLogged (src : σ) (opts : ReaderOptions) : (Nat × Option Failure × σ) × Array Record :=
  match Reader.open src opts with
  | (.error f, src) => ((0, some f, src), #[])
  | (.ok r, _) =>
    let (n, err, r) := countFrom 0 r.lineBound r
    ((n, err.map Failure.coded, r.drop.source), r.records)

/-- Counts the lines of a source as a reader with these options would read them. -/
def countLines (src : σ) (opts : ReaderOptions) : Nat × Option Failure × σ :=
  (countLogged src opts).1

end Reader

end LineBatch
