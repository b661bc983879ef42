import LineBatch.Yaml.Cursor

/-
  Scanning scalars, anchors, tags and directives.

  Plain scalars run until a ': ' or, in flow context, a flow
  indicator, and may go on over lines indented further than the
  enclosing block. Line breaks inside a scalar fold: a single break
  becomes a space and a run of n breaks becomes n - 1 line feeds.
  Quoted scalars fold the same way; single quotes escape themselves by
  doubling and double quotes allow backslash escapes. Block scalars
  keep (literal) or fold (folded) their lines, with the indentation
  found from the first non-empty line unless given, and keep, strip
  or clip the final line breaks as the chomping indicator says.

  Key definitions:
    * `Scanner.scanPlain`, `Scanner.scanQuoted`, `Scanner.scanBlock`
    * `Scanner.scanAnchor`, `Scanner.scanTag`, `Scanner.scanDirective`
-/

namespace LineBatch

namespace Yaml

namespace Scanner

/-- Whether the next characters, at the start of a line, are a document marker followed by
a blank or the end: three dashes or three dots. -/
def atDocumentMarker (s : Scanner) : Bool :=
  s.mark.column == 0
    && ((s.charAt 0 == '-' && s.charAt 1 == '-' && s.charAt 2 == '-')
      || (s.charAt 0 == '.' && s.charAt 1 == '.' && s.charAt 2 == '.'))
    && isBlankz (s.charAt 3)

/-- Joins the text before a run of blanks or breaks to the text after it: a single line
feed folds to a space, several keep all but the first, other breaks stay, and blanks
within a line stay as they are. -/
def fold (out leadingBreak trailingBreaks whitespaces : String) (leadingBlanks : Bool) :
    String :=
  if leadingBlanks then
    if leadingBreak == "\n" then
      (if trailingBreaks.isEmpty then out.push ' ' else out ++ trailingBreaks)
    else out ++ leadingBreak ++ trailingBreaks
  else out ++ whitespaces

------------------------------------------------------------
-- Plain scalars
------------------------------------------------------------

/-- Scans a plain scalar. A line break inside it lets a simple key follow. -/
def scanPlain : ScanM Token := do
  let s0 ← get
  let indent : Int := s0.indent + 1
  let start := s0.mark
  let mut stop := start
  let mut out := ""
  let mut leadingBreak := ""
  let mut trailingBreaks := ""
  let mut whitespaces := ""
  let mut leadingBlanks := false
  for _ in [0:s0.fuel] do
    let s ← get
    if atDocumentMarker s || s.charAt 0 == '#' then break
    for _ in [0:s0.fuel] do
      let s ← get
      let c := s.charAt 0
      if isBlankz c then break
      if (c == ':' && isBlankz (s.charAt 1))
          || (s.flowLevel > 0 && (c == ',' || c == '?' || c == '[' || c == ']'
            || c == '{' || c == '}')) then break
      if leadingBlanks || !whitespaces.isEmpty then
        out := fold out leadingBreak trailingBreaks whitespaces leadingBlanks
        leadingBreak := ""
        trailingBreaks := ""
        whitespaces := ""
        leadingBlanks := false
      out := out.push (← read)
      stop ← here
    let c ← ch 0
    if !(isBlank c || isBreak c) then break
    for _ in [0:s0.fuel] do
      let s ← get
      let c := s.charAt 0
      if !(isBlank c || isBreak c) then break
      if isBlank c then
        if leadingBlanks && (s.mark.column : Int) < indent && c == '\t' then
          fail start "found a tab character that violates indentation"
        if !leadingBlanks then whitespaces := whitespaces.push (← read) else skip
      else if !leadingBlanks then
        whitespaces := ""
        leadingBreak ← readLine
        leadingBlanks := true
      else
        trailingBreaks := trailingBreaks ++ (← readLine)
    let s ← get
    if s.flowLevel == 0 && (s.mark.column : Int) < indent then break
  if leadingBlanks then modify fun s => { s with keyAllowed := true }
  return ⟨.scalar out .plain, start, stop⟩

------------------------------------------------------------
-- Quoted scalars
------------------------------------------------------------

/-- The character a one-letter escape stands for, after a backslash. -/
def escape? (c : Char) : Option Char :=
  match c with
  | '0' => some '\x00'
  | 'a' => some '\x07'
  | 'b' => some '\x08'
  | 't' => some '\t'
  | '\t' => some '\t'
  | 'n' => some '\n'
  | 'v' => some '\x0b'
  | 'f' => some '\x0c'
  | 'r' => some '\r'
  | 'e' => some '\x1b'
  | ' ' => some ' '
  | '"' => some '"'
  | '/' => some '/'
  | '\'' => some '\''
  | '\\' => some '\\'
  | 'N' => some '\x85'
  | '_' => some '\xa0'
  | 'L' => some (Char.ofNat 0x2028)
  | 'P' => some (Char.ofNat 0x2029)
  | _ => none

/-- The number of hexadecimal digits after a numeric escape letter. -/
def codeLength (c : Char) : Nat :=
  if c == 'x' then 2 else if c == 'u' then 4 else if c == 'U' then 8 else 0

/-- Reads the escape after a backslash in a double-quoted scalar. -/
def scanEscape (start : Mark) : ScanM Char := do
  let c ← ch 1
  match escape? c with
  | some e =>
    skip
    skip
    return e
  | none =>
    let n := codeLength c
    if n == 0 then fail start "found unknown escape character"
    skip
    skip
    let mut v := 0
    for k in [0:n] do
      match hexValue? (← ch k) with
      | some d => v := v * 16 + d
      | none => fail start "did not find expected hexdecimal number"
    if (0xD800 ≤ v && v ≤ 0xDFFF) || v > 0x10FFFF then
      fail start "found invalid Unicode character escape code"
    for _ in [0:n] do skip
    return Char.ofNat v

/-- Scans a single- or double-quoted scalar. -/
def scanQuoted (single : Bool) : ScanM Token := do
  let start ← here
  skip
  let fuel := (← get).fuel
  let mut out := ""
  let mut leadingBreak := ""
  let mut trailingBreaks := ""
  let mut whitespaces := ""
  for _ in [0:fuel] do
    let s ← get
    if atDocumentMarker s then fail start "found unexpected document indicator"
    if isZ (s.charAt 0) then fail start "found unexpected end of stream"
    let mut leadingBlanks := false
    for _ in [0:fuel] do
      let s ← get
      let c := s.charAt 0
      if isBlankz c then break
      let c1 := s.charAt 1
      if single && c == '\'' && c1 == '\'' then
        out := out.push '\''
        skip
        skip
      else if single && c == '\'' then break
      else if !single && c == '"' then break
      else if !single && c == '\\' && isBreak c1 then
        skip
        skipLine
        leadingBlanks := true
        break
      else if !single && c == '\\' then
        out := out.push (← scanEscape start)
      else
        out := out.push (← read)
    let c ← ch 0
    if (single && c == '\'') || (!single && c == '"') then break
    for _ in [0:fuel] do
      let c ← ch 0
      if !(isBlank c || isBreak c) then break
      if isBlank c then
        if !leadingBlanks then whitespaces := whitespaces.push (← read) else skip
      else if !leadingBlanks then
        whitespaces := ""
        leadingBreak ← readLine
        leadingBlanks := true
      else
        trailingBreaks := trailingBreaks ++ (← readLine)
    out := fold out leadingBreak trailingBreaks whitespaces leadingBlanks
    leadingBreak := ""
    trailingBreaks := ""
    whitespaces := ""
  skip
  let stop ← here
  return ⟨.scalar out (if single then .singleQuoted else .doubleQuoted), start, stop⟩

------------------------------------------------------------
-- Block scalars
------------------------------------------------------------

/-- Eats the indentation and the empty lines before a line of a block scalar, giving the
breaks eaten and where they end. An indentation of zero is not yet known: it becomes the
deepest indentation of the empty lines, and at least one more than the enclosing block
and at least one. -/
def blockBreaks (indent : Int) (start : Mark) : ScanM (Int × String × Mark) := do
  let fuel := (← get).fuel
  let mut stop ← here
  let mut maxIndent : Nat := 0
  let mut breaks := ""
  for _ in [0:fuel] do
    for _ in [0:fuel] do
      let s ← get
      if (indent == 0 || (s.mark.column : Int) < indent) && s.charAt 0 == ' ' then skip
      else break
    let s ← get
    if s.mark.column > maxIndent then maxIndent := s.mark.column
    if (indent == 0 || (s.mark.column : Int) < indent) && s.charAt 0 == '\t' then
      fail start "found a tab character where an indentation space is expected"
    if !isBreak (s.charAt 0) then break
    breaks := breaks ++ (← readLine)
    stop ← here
  let s ← get
  let mut ind := indent
  if ind == 0 then
    ind := maxIndent
    if ind < s.indent + 1 then ind := s.indent + 1
    if ind < 1 then ind := 1
  return (ind, breaks, stop)

/-- Scans a literal or folded block scalar. -/
def scanBlock (literal : Bool) : ScanM Token := do
  let start ← here
  skip
  let mut chomping : Int := 0
  let mut increment : Nat := 0
  let c ← ch 0
  if c == '+' || c == '-' then
    chomping := if c == '+' then 1 else -1
    skip
    let d ← ch 0
    if isDigit d then
      if d == '0' then fail start "found an indentation indicator equal to 0"
      increment := d.toNat - 48
      skip
  else if isDigit c then
    if c == '0' then fail start "found an indentation indicator equal to 0"
    increment := c.toNat - 48
    skip
    let d ← ch 0
    if d == '+' || d == '-' then
      chomping := if d == '+' then 1 else -1
      skip
  skipWhile isBlank
  if (← ch 0) == '#' then skipWhile (fun c => !isBreakz c)
  if !isBreakz (← ch 0) then fail start "did not find expected comment or line break"
  if isBreak (← ch 0) then skipLine
  let s ← get
  let first : Int := if increment > 0 then
      (if s.indent ≥ 0 then s.indent + increment else increment)
    else 0
  let (ind, tb, st) ← blockBreaks first start
  let mut indent := ind
  let mut trailingBreaks := tb
  let mut stop := st
  let mut out := ""
  let mut leadingBreak := ""
  let mut leadingBlank := false
  for _ in [0:s.fuel] do
    let s ← get
    if !((s.mark.column : Int) == indent && !isZ (s.charAt 0)) then break
    let trailingBlank := isBlank (s.charAt 0)
    if !literal && !leadingBlank && !trailingBlank && leadingBreak == "\n" then
      if trailingBreaks.isEmpty then out := out.push ' '
    else out := out ++ leadingBreak
    leadingBreak := ""
    out := out ++ trailingBreaks
    trailingBreaks := ""
    leadingBlank := isBlank (s.charAt 0)
    out := out ++ (← readWhile fun c => !isBreakz c)
    leadingBreak ← readLine
    let (ind, tb, st) ← blockBreaks indent start
    indent := ind
    trailingBreaks := tb
    stop := st
  if chomping != -1 then out := out ++ leadingBreak
  if chomping == 1 then out := out ++ trailingBreaks
  return ⟨.scalar out (if literal then .literal else .folded), start, stop⟩

------------------------------------------------------------
-- Anchors, aliases and tags
------------------------------------------------------------

/-- Whether a character may follow an anchor or alias name. -/
def endsName (c : Char) : Bool :=
  isBlankz c || c == '?' || c == ':' || c == ',' || c == ']' || c == '}' || c == '%'
    || c == '@' || c == '`'

/-- Scans an anchor or an alias. -/
def scanAnchor (isAlias : Bool) : ScanM Token := do
  let start ← here
  skip
  let name ← readWhile isAlpha
  let stop ← here
  if name.isEmpty || !endsName (← ch 0) then
    fail start "did not find expected alphabetic or numeric character"
  return ⟨if isAlias then .alias name else .anchor name, start, stop⟩

/-- Whether a character may appear in a tag; the flow indicators only inside a verbatim tag
or a directive. -/
def isUriChar (flow : Bool) (c : Char) : Bool :=
  isAlpha c || ";/?:@&=+$.!~*'()%".toList.contains c
    || (flow && (c == ',' || c == '[' || c == ']'))

/-- Reads one escaped octet sequence of a tag, a percent sign and two hexadecimal digits
per octet, as one character. -/
def scanUriEscape (start : Mark) : ScanM Char := do
  let octet : ScanM Nat := do
    let a ← ch 1
    let b ← ch 2
    match (← ch 0) == '%', hexValue? a, hexValue? b with
    | true, some x, some y =>
      skip
      skip
      skip
      return x * 16 + y
    | _, _, _ => fail start "did not find URI escaped octet"
  let lead ← octet
  let width := if lead < 0x80 then 1 else if lead / 32 = 6 then 2 else if lead / 16 = 14 then 3
    else if lead / 8 = 30 then 4 else 0
  if width == 0 then fail start "found an incorrect leading UTF-8 octet"
  let mut v := if width == 1 then lead else if width == 2 then lead % 32
    else if width == 3 then lead % 16 else lead % 8
  for _ in [1:width] do
    let t ← octet
    if t / 64 != 2 then fail start "found an incorrect trailing UTF-8 octet"
    v := v * 64 + t % 64
  return Char.ofNat v

/-- Reads the rest of a tag after `head`, whose first character is not kept. -/
def scanTagUri (flow : Bool) (head : String) (start : Mark) : ScanM String := do
  let mut out := String.ofList (head.toList.drop 1)
  let mut found := !head.isEmpty
  for _ in [0:(← get).fuel] do
    let c ← ch 0
    if !isUriChar flow c then break
    if c == '%' then out := out.push (← scanUriEscape start)
    else out := out.push (← read)
    found := true
  if !found then fail start "did not find expected tag URI"
  return out

/-- Reads a tag handle: '!', letters, and a closing '!' that only a directive requires. -/
def scanTagHandle (directive : Bool) (start : Mark) : ScanM String := do
  if (← ch 0) != '!' then fail start "did not find expected '!'"
  let mut h := "!"
  skip
  h := h ++ (← readWhile isAlpha)
  if (← ch 0) == '!' then h := h.push (← read)
  else if directive && h != "!" then fail start "did not find expected '!'"
  return h

/-- Scans a tag: verbatim, with a handle, or a bare '!'. -/
def scanTag : ScanM Token := do
  let start ← here
  let (handle, suffix) ← do
    if (← ch 1) == '<' then
      skip
      skip
      let suffix ← scanTagUri true "" start
      if (← ch 0) != '>' then fail start "did not find the expected '>'"
      skip
      pure ("", suffix)
    else
      let h ← scanTagHandle false start
      if h.length > 1 && h.startsWith "!" && h.endsWith "!" then
        pure (h, ← scanTagUri false "" start)
      else
        let suffix ← scanTagUri false h start
        if suffix.isEmpty then pure ("", "!") else pure ("!", suffix)
  let s ← get
  let c := s.charAt 0
  if !isBlankz c && (s.flowLevel == 0 || c != ',') then
    fail start "did not find expected whitespace or line break"
  return ⟨.tag handle suffix, start, s.mark⟩

------------------------------------------------------------
-- Directives
------------------------------------------------------------

/-- Reads one part of a version number: one or two digits. -/
def versionNumber (start : Mark) : ScanM Nat := do
  let mut v := 0
  let mut n := 0
  for _ in [0:3] do
    let c ← ch 0
    if !isDigit c then break
    n := n + 1
    if n > 2 then fail start "found extremely long version number"
    v := v * 10 + (c.toNat - 48)
    skip
  if n == 0 then fail start "did not find expected version number"
  return v

/-- Scans a directive: its name, its value, and the rest of its line. -/
def scanDirective : ScanM Token := do
  let start ← here
  skip
  let name ← readWhile isAlpha
  if name.isEmpty then fail start "could not find expected directive name"
  if !isBlankz (← ch 0) then fail start "found unexpected non-alphabetical character"
  let kind ← do
    if name == "YAML" then
      skipWhile isBlank
      let major ← versionNumber start
      if (← ch 0) != '.' then fail start "did not find expected digit or '.' character"
      skip
      let minor ← versionNumber start
      pure (TokenKind.versionDirective major minor)
    else if name == "TAG" then
      skipWhile isBlank
      let handle ← scanTagHandle true start
      if !isBlank (← ch 0) then fail start "did not find expected whitespace"
      skipWhile isBlank
      let pfx ← scanTagUri true "" start
      if !isBlankz (← ch 0) then fail start "did not find expected whitespace or line break"
      pure (TokenKind.tagDirective handle pfx)
    else fail start "found unknown directive name"
  let stop ← here
  skipWhile isBlank
  if (← ch 0) == '#' then skipWhile (fun c => !isBreakz c)
  if !isBreakz (← ch 0) then fail start "did not find expected comment or line break"
  if isBreak (← ch 0) then skipLine
  return ⟨kind, start, stop⟩

end Scanner

end Yaml

end LineBatch
