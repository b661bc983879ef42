import LineBatch.Yaml.Scalar

/-
  Fetching tokens.

  Each fetch skips blanks, line breaks and comments, closes the block
  collections the new column leaves, and reads one token from its
  first character. Indicators of keys, values and entries open block
  collections where the column goes further in; a ':' after a
  possible simple key puts the key token, and the start of a block
  mapping if one is needed, before the key's first token.

  After a token on a line, a comment on the rest of that line is eaten
  with it. Comment lines that follow one another are eaten together.

  The parser reads tokens from the head of the queue. Before it looks
  at one, the scanner fetches until three tokens are queued past the
  head and the head token is not a possible simple key still waiting
  for its ':'.

  Key definitions:
    * `Scanner.fetchNext`, `Scanner.fetchMore`
    * `Scanner.peek`, `Scanner.advanceToken`
-/

namespace LineBatch

namespace Yaml

namespace Scanner

------------------------------------------------------------
-- Comments and white space
------------------------------------------------------------

/-- The offset of a comment on a following line, looking past the line break at the
current position and then past blanks and line breaks, at most 512 characters. -/
def nextComment? (s : Scanner) : Option Nat :=
  go 1 511
where
  go (p : Nat) : Nat → Option Nat
    | 0 => none
    | n + 1 =>
      let c := s.charAt p
      if isBlank c then go (p + 1) n
      else if s.flowLevel > 0 && (c == ']' || c == '}') then none
      else if isBreak c then go (p + 1) n
      else if c == '#' then some p
      else none

/-- Eats a comment and the comment lines right after it, up to the line break that ends
the last. -/
def scanComments : ScanM Unit := do
  for _ in [0:(← get).fuel] do
    skipWhile fun c => !isBreakz c
    let s ← get
    match nextComment? s with
    | none => break
    | some p =>
      let target := s.pos + p
      for _ in [0:p + 1] do
        let s ← get
        if s.pos ≥ target then break
        if isBreak (s.charAt 0) then skipLine else skip

/-- Eats blanks, line breaks and comments up to the next token. Tabs are eaten only in
flow context or where no simple key may start; a line break in block context lets a
simple key start. -/
def scanToNext : ScanM Unit := do
  for _ in [0:(← get).fuel] do
    let s ← get
    if s.mark.column == 0 && s.charAt 0 == Char.ofNat 0xFEFF then skip
    for _ in [0:(← get).fuel] do
      let s ← get
      let c := s.charAt 0
      if c == ' ' || ((s.flowLevel > 0 || !s.keyAllowed) && c == '\t') then skip else break
    if (← ch 0) == '#' then scanComments
    let s ← get
    if isBreak (s.charAt 0) then
      skipLine
      if s.flowLevel == 0 then modify fun s => { s with keyAllowed := true }
    else break

/-- Eats a comment that follows a token on the same line. -/
def lineComment : ScanM Unit := do
  let s ← get
  if s.newlines == 0 then
    match (List.range 512).find? (fun p => !isBlank (s.charAt p)) with
    | some p =>
      if s.charAt p == '#' then
        for _ in [0:p] do skip
        skipWhile fun c => !isBreakz c
    | none => pure ()

------------------------------------------------------------
-- Fetching one token
------------------------------------------------------------

/-- Starts the stream. -/
def fetchStreamStart : ScanM Unit := do
  modify fun s => { s with indent := -1, keys := #[{}], keyTokens := [], keyAllowed := true,
                           started := true }
  let m ← here
  append .streamStart m m

/-- Ends the stream, on a line of its own. -/
def fetchStreamEnd : ScanM Unit := do
  modify fun s =>
    if s.mark.column != 0 then
      { s with mark := { s.mark with column := 0, line := s.mark.line + 1 } }
    else s
  unrollIndent (-1) (← here)
  removeSimpleKey
  modify fun s => { s with keyAllowed := false }
  let m ← here
  append .streamEnd m m

/-- Reads a directive, which ends every block collection. -/
def fetchDirective : ScanM Unit := do
  unrollIndent (-1) (← here)
  removeSimpleKey
  modify fun s => { s with keyAllowed := false }
  let t ← scanDirective
  append t.kind t.start t.stop

/-- Reads a document start or end marker, which ends every block collection. -/
def fetchDocumentIndicator (kind : TokenKind) : ScanM Unit := do
  unrollIndent (-1) (← here)
  removeSimpleKey
  modify fun s => { s with keyAllowed := false }
  let start ← here
  skip
  skip
  skip
  append kind start (← here)

/-- Reads a one-character token. -/
def single (kind : TokenKind) : ScanM Unit := do
  let start ← here
  skip
  append kind start (← here)

/-- Opens a flow collection, which may be a simple key. -/
def fetchFlowStart (kind : TokenKind) : ScanM Unit := do
  saveSimpleKey
  increaseFlowLevel
  modify fun s => { s with keyAllowed := true }
  single kind

/-- Closes a flow collection. -/
def fetchFlowEnd (kind : TokenKind) : ScanM Unit := do
  removeSimpleKey
  decreaseFlowLevel
  modify fun s => { s with keyAllowed := false }
  single kind

/-- Reads a ',' between flow entries. -/
def fetchFlowEntry : ScanM Unit := do
  removeSimpleKey
  modify fun s => { s with keyAllowed := true }
  single .flowEntry

/-- Reads a '-' block entry, which in block context may open a block sequence. -/
def fetchBlockEntry : ScanM Unit := do
  let s ← get
  if s.flowLevel == 0 then
    if !s.keyAllowed then fail s.mark "block sequence entries are not allowed in this context"
    rollIndent s.mark.column none .blockSequenceStart s.mark
  removeSimpleKey
  modify fun s => { s with keyAllowed := true }
  single .blockEntry

/-- Reads a '?' key indicator, which in block context may open a block mapping. -/
def fetchKey : ScanM Unit := do
  let s ← get
  if s.flowLevel == 0 then
    if !s.keyAllowed then fail s.mark "mapping keys are not allowed in this context"
    rollIndent s.mark.column none .blockMappingStart s.mark
  removeSimpleKey
  modify fun s => { s with keyAllowed := s.flowLevel == 0 }
  single .key

/-- Reads a ':' value indicator. After a possible simple key it puts the key token before
the key, opening a block mapping at the key's column if needed; otherwise the value
follows a '?' key or an empty one. -/
def fetchValue : ScanM Unit := do
  let s ← get
  let i := s.keys.size - 1
  if ← keyValid i then
    let k := (← get).keys.getD i {}
    insertAt k.tokenNumber .key k.mark
    rollIndent k.mark.column (some k.tokenNumber) .blockMappingStart k.mark
    modify fun s =>
      { s with keys := s.keys.setIfInBounds i { k with possible := false },
               keyTokens := forget k.tokenNumber s.keyTokens, keyAllowed := false }
  else
    let s ← get
    if s.flowLevel == 0 then
      if !s.keyAllowed then fail s.mark "mapping values are not allowed in this context"
      rollIndent s.mark.column none .blockMappingStart s.mark
    modify fun s => { s with keyAllowed := s.flowLevel == 0 }
  single .value

/-- Reads an anchor, an alias or a tag, which may start a simple key. -/
def fetchProperty (scan : ScanM Token) : ScanM Unit := do
  saveSimpleKey
  modify fun s => { s with keyAllowed := false }
  let t ← scan
  append t.kind t.start t.stop

/-- Reads a block scalar, after which a simple key may start. -/
def fetchBlockScalar (literal : Bool) : ScanM Unit := do
  removeSimpleKey
  modify fun s => { s with keyAllowed := true }
  let t ← scanBlock literal
  append t.kind t.start t.stop

/-- Whether a character can start a plain scalar, given the next one: not a blank nor an
indicator, except '-' before a non-blank and, in block context, '?' or ':' before one. -/
def startsPlain (flow : Bool) (c c1 : Char) : Bool :=
  !(isBlankz c || ['-', '?', ':', ',', '[', ']', '{', '}', '#', '&', '*', '!', '|', '>', '\'',
      '"', '%', '@', '`'].contains c)
    || (c == '-' && !isBlank c1)
    || (!flow && (c == '?' || c == ':') && !isBlankz c1)

/-- Reads the token that starts with the next character, after which a comment on the
same line is eaten unless the token is a block entry. -/
def fetchToken : ScanM Unit := do
  let s ← get
  let c := s.charAt 0
  let c1 := s.charAt 1
  let flow := s.flowLevel > 0
  if c == '[' then fetchFlowStart .flowSequenceStart
  else if c == '{' then fetchFlowStart .flowMappingStart
  else if c == ']' then fetchFlowEnd .flowSequenceEnd
  else if c == '}' then fetchFlowEnd .flowMappingEnd
  else if c == ',' then fetchFlowEntry
  else if c == '-' && isBlankz c1 then fetchBlockEntry
  else if c == '?' && (flow || isBlankz c1) then fetchKey
  else if c == ':' && (flow || isBlankz c1) then fetchValue
  else if c == '*' then fetchProperty (scanAnchor true)
  else if c == '&' then fetchProperty (scanAnchor false)
  else if c == '!' then fetchProperty scanTag
  else if c == '|' && !flow then fetchBlockScalar true
  else if c == '>' && !flow then fetchBlockScalar false
  else if c == '\'' || c == '"' then fetchProperty (scanQuoted (c == '\''))
  else if startsPlain flow c c1 then fetchProperty scanPlain
  else fail s.mark "found character that cannot start any token"
  match (← get).tokens.back? with
  | some t => if t.kind != .blockEntry then lineComment
  | none => lineComment

/-- Fetches the next token, with the block ends before it. -/
def fetchNext : ScanM Unit := do
  let s ← get
  if !s.started then fetchStreamStart
  else
    let scanMark := s.mark
    scanToNext
    unrollIndent (← here).column scanMark
    let s ← get
    if isZ (s.charAt 0) then fetchStreamEnd
    else if s.mark.column == 0 && s.charAt 0 == '%' then fetchDirective
    else if atDocumentMarker s && s.charAt 0 == '-' then fetchDocumentIndicator .documentStart
    else if atDocumentMarker s then fetchDocumentIndicator .documentEnd
    else fetchToken

------------------------------------------------------------
-- The parser's view
------------------------------------------------------------

/-- Fetches until three tokens are queued past the head and the head token is not a
possible simple key still waiting for its ':'. -/
def fetchMore : ScanM Unit := do
  for _ in [0:(← get).fuel] do
    let s ← get
    if s.head + 2 < s.tokens.size then
      match keyAt s s.head with
      | none => break
      | some i => if !(← keyValid i) then break
    fetchNext
  modify fun s => { s with available := true }

/-- The token at the head of the queue. -/
def peek : ScanM Token := do
  if !(← get).available then fetchMore
  let s ← get
  return s.tokens.getD s.head ⟨.streamEnd, s.mark, s.mark⟩

/-- Moves past the token at the head of the queue. -/
def advanceToken : ScanM Unit :=
  modify fun s => { s with head := s.head + 1, available := false }

end Scanner

end Yaml

end LineBatch
