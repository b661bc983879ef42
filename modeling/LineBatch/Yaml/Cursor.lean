import LineBatch.Yaml.Token
import LineBatch.Text.Utf8

/-
  The state of the YAML scanner and its small moves.

  The scanner reads characters one at a time, keeping the position
  (character count, line, column) of the next one and how many line
  breaks it has crossed since the last character that is not blank.
  It queues the tokens it makes; the parser reads them from the head
  of the queue, and the scanner always keeps a few tokens ahead.

  Block structure comes from indentation: a stack of the columns of
  the enclosing block collections, whose starts and ends the scanner
  adds to the queue when a line starts further in or further out.

  A plain or quoted scalar, an anchor, an alias, a tag or a flow
  collection may turn out to be a simple key, which is only known
  when the ':' after it is found. So every flow level keeps at most
  one possible simple key: the number of its first token and where it
  starts. A key is required where a block mapping must continue, and
  it stops being possible past the end of its line or 1024 characters
  on.

  Key definitions:
    * `SimpleKey`, `Scanner`, `ScanM`
    * `Scanner.skip`, `Scanner.skipLine`, `Scanner.read`, `Scanner.readLine`
    * `Scanner.saveSimpleKey`, `Scanner.removeSimpleKey`, `Scanner.keyValid`
    * `Scanner.rollIndent`, `Scanner.unrollIndent`
    * `Scanner.ofBytes`
-/

namespace LineBatch

namespace Yaml

/-- A place where a simple key may start. -/
structure SimpleKey where
  possible : Bool := false
  required : Bool := false
  tokenNumber : Nat := 0
  mark : Mark := {}
  deriving Repr, Inhabited

/-- The scanner: the text, the position in it, the queued tokens, the indentation stack
and the possible simple keys. -/
structure Scanner where
  text : Array Char
  pos : Nat := 0
  mark : Mark := {}
  newlines : Nat := 0
  tokens : Array Token := #[]
  head : Nat := 0
  available : Bool := false
  started : Bool := false
  indent : Int := -1
  indents : List Int := []
  keys : Array SimpleKey := #[]
  keyTokens : List (Nat × Nat) := []
  keyAllowed : Bool := false
  flowLevel : Nat := 0
  deriving Repr, Inhabited

/-- Scanning steps: they change the scanner or fail. -/
abbrev ScanM := StateT Scanner (Except Fault)

namespace Scanner

/-- The character k places ahead; past the end it is the end character. -/
def charAt (s : Scanner) (k : Nat) : Char := s.text.getD (s.pos + k) endChar

/-- An upper bound on the steps of any loop over the text. -/
def fuel (s : Scanner) : Nat := 4 * s.text.size + 16

/-- The character k places ahead. -/
def ch (k : Nat) : ScanM Char := do return (← get).charAt k

/-- The position of the next character. -/
def here : ScanM Mark := do return (← get).mark

/-- Fails while reading a construct that starts at `context`. -/
def fail {α : Type} (context : Mark) (message : String) : ScanM α := do
  throw (.marked true context (← get).mark message)

------------------------------------------------------------
-- Moving over characters
------------------------------------------------------------

/-- Passes one character on the current line. -/
def advance (s : Scanner) : Scanner :=
  { s with
    pos := s.pos + 1
    mark := { s.mark with index := s.mark.index + 1, column := s.mark.column + 1 }
    newlines := if isBlank (s.charAt 0) then s.newlines else 0 }

/-- Passes one line break; a carriage return and line feed are one break. -/
def advanceLine (s : Scanner) : Scanner :=
  let c0 := s.charAt 0
  if c0 = '\r' && s.charAt 1 = '\n' then
    { s with pos := s.pos + 2, newlines := s.newlines + 1,
             mark := { index := s.mark.index + 2, line := s.mark.line + 1, column := 0 } }
  else if isBreak c0 then
    { s with pos := s.pos + 1, newlines := s.newlines + 1,
             mark := { index := s.mark.index + 1, line := s.mark.line + 1, column := 0 } }
  else s

/-- Skips one character. -/
def skip : ScanM Unit := modify advance

/-- Skips one line break. -/
def skipLine : ScanM Unit := modify advanceLine

/-- Reads one character. -/
def read : ScanM Char := do
  let c ← ch 0
  skip
  return c

/-- Reads one line break: carriage return, line feed, both, and next line read as a line
feed; the line and paragraph separators read as themselves. Nothing is read where no
break is. -/
def readLine : ScanM String := do
  let c0 ← ch 0
  if c0 = '\r' || c0 = '\n' || c0 = '\x85' then
    skipLine
    return "\n"
  else if isBreak c0 then
    skipLine
    return c0.toString
  else return ""

/-- Skips characters while they satisfy a test. -/
def skipWhile (p : Char → Bool) : ScanM Unit := do
  for _ in [0:(← get).fuel] do
    if p (← ch 0) then skip else break

/-- Reads characters while they satisfy a test. -/
def readWhile (p : Char → Bool) : ScanM String := do
  let mut out := ""
  for _ in [0:(← get).fuel] do
    if p (← ch 0) then out := out.push (← read) else break
  return out

------------------------------------------------------------
-- The token queue
------------------------------------------------------------

/-- Adds a token at the end of the queue. -/
def append (kind : TokenKind) (start stop : Mark) : ScanM Unit :=
  modify fun s => { s with tokens := s.tokens.push ⟨kind, start, stop⟩ }

/-- Puts a token into the queue before the token with the given number. -/
def insertAt (n : Nat) (kind : TokenKind) (m : Mark) : ScanM Unit :=
  modify fun s => { s with tokens := s.tokens.insertIdxIfInBounds n ⟨kind, m, m⟩ }

------------------------------------------------------------
-- Simple keys
------------------------------------------------------------

/-- The possible simple key of the current flow level. -/
def topKey (s : Scanner) : SimpleKey := s.keys.back?.getD {}

/-- Replaces the possible simple key of the current flow level. -/
def setTopKey (k : SimpleKey) (s : Scanner) : Scanner := { s with keys := s.keys.pop.push k }

/-- Forgets which level's key starts at a token. -/
def forget (n : Nat) (l : List (Nat × Nat)) : List (Nat × Nat) := l.filter (·.1 != n)

/-- The level whose possible key starts at a token, as recorded. -/
def keyAt (s : Scanner) (n : Nat) : Option Nat := (s.keyTokens.find? (·.1 == n)).map (·.2)

/-- Drops the possible key of the current level; a required one cannot be dropped. -/
def removeSimpleKey : ScanM Unit := do
  let s ← get
  let k := topKey s
  if k.possible then
    if k.required then throw (.marked true k.mark s.mark "could not find expected ':'")
    set (setTopKey { k with possible := false } { s with keyTokens := forget k.tokenNumber s.keyTokens })

/-- Notes that the next token may start a simple key, where keys are allowed. -/
def saveSimpleKey : ScanM Unit := do
  let s ← get
  let required := s.flowLevel == 0 && s.indent == (s.mark.column : Int)
  if s.keyAllowed then
    let k : SimpleKey := { possible := true, required, tokenNumber := s.tokens.size, mark := s.mark }
    removeSimpleKey
    modify fun s => setTopKey k
      { s with keyTokens := (k.tokenNumber, s.keys.size - 1) :: forget k.tokenNumber s.keyTokens }

/-- Whether the key of level `i` is still possible: not if the scanner has left its line or
gone 1024 characters past it, which is a failure for a required key. -/
def keyValid (i : Nat) : ScanM Bool := do
  let s ← get
  let k := s.keys.getD i {}
  if !k.possible then return false
  if k.mark.line < s.mark.line || k.mark.index + 1024 < s.mark.index then
    if k.required then throw (.marked true k.mark s.mark "could not find expected ':'")
    set { s with keys := s.keys.setIfInBounds i { k with possible := false } }
    return false
  return true

/-- Enters a flow collection, with no possible key yet. -/
def increaseFlowLevel : ScanM Unit := do
  let s ← get
  let s := { s with keys := s.keys.push { mark := s.mark }, flowLevel := s.flowLevel + 1 }
  set s
  if s.flowLevel > 10000 then throw (.marked true s.mark s.mark "exceeded max depth of 10000")

/-- Leaves a flow collection. -/
def decreaseFlowLevel : ScanM Unit := modify fun s =>
  if s.flowLevel > 0 then
    { s with flowLevel := s.flowLevel - 1, keys := s.keys.pop,
             keyTokens := forget (topKey s).tokenNumber s.keyTokens }
  else s

------------------------------------------------------------
-- Indentation
------------------------------------------------------------

/-- In block context, a construct at a column further in than the current indentation
starts a block collection: the column is pushed and the start token is queued, at the end
or before the token with the given number. -/
def rollIndent (column : Int) (number : Option Nat) (kind : TokenKind) (m : Mark) :
    ScanM Unit := do
  let s ← get
  if s.flowLevel == 0 && s.indent < column then
    let s := { s with indents := s.indent :: s.indents, indent := column }
    set s
    if s.indents.length > 10000 then
      throw (.marked true (topKey s).mark s.mark "exceeded max depth of 10000")
    match number with
    | some n => insertAt n kind m
    | none => append kind m m

/-- In block context, ends every block collection indented further than a column. -/
def unrollIndent (column : Int) (scanMark : Mark) : ScanM Unit := do
  let s ← get
  if s.flowLevel == 0 then
    let m := { scanMark with index := scanMark.index - 1 }
    for _ in [0:s.indents.length + 1] do
      let s ← get
      if s.indent ≤ column then break
      match s.indents with
      | i :: rest =>
        set { s with tokens := s.tokens.push ⟨.blockEnd, m, m⟩, indent := i, indents := rest }
      | [] => break

------------------------------------------------------------
-- Reading the text
------------------------------------------------------------

/-- The characters of UTF-8 text, or why it cannot be read: a malformed sequence, or a
character YAML does not allow. -/
def decodeText (bs : Bytes) : Except Fault (Array Char) :=
  go bs.length bs #[]
where
  go : Nat → Bytes → Array Char → Except Fault (Array Char)
    | 0, _, acc => .ok acc
    | _, [], acc => .ok acc
    | fuel + 1, b :: rest, acc =>
      let x := b.toNat
      let width := if x < 0x80 then 1 else if x / 32 = 6 then 2 else if x / 16 = 14 then 3
        else if x / 8 = 30 then 4 else 0
      if width = 0 then .error (.plain "invalid leading UTF-8 octet")
      else if rest.length < width - 1 then .error (.plain "incomplete UTF-8 octet sequence")
      else
        let tail := rest.take (width - 1)
        if !tail.all Utf8.isTail then .error (.plain "invalid trailing UTF-8 octet")
        else
          let lead := if width = 1 then x else if width = 2 then x % 32
            else if width = 3 then x % 16 else x % 8
          let v := tail.foldl (fun v t => v * 64 + t.toNat % 64) lead
          if !((width = 1) || (width = 2 && v ≥ 0x80) || (width = 3 && v ≥ 0x800)
              || (width = 4 && v ≥ 0x10000)) then
            .error (.plain "invalid length of a UTF-8 sequence")
          else if (0xD800 ≤ v && v ≤ 0xDFFF) || v > 0x10FFFF then
            .error (.plain "invalid Unicode character")
          else
            let c := Char.ofNat v
            if !isPrintable c then .error (.plain "control characters are not allowed")
            else go fuel (rest.drop (width - 1)) (acc.push c)

/-- A scanner at the start of a text, after a leading byte order mark. -/
def ofBytes (bs : Bytes) : Except Fault Scanner := do
  let bs := if bs.take 3 = [0xEF, 0xBB, 0xBF] then bs.drop 3 else bs
  let text ← decodeText bs
  return { text }

end Scanner

end Yaml

end LineBatch
