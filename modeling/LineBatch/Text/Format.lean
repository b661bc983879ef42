import LineBatch.Text.Quoted

/-
  Messages formatted from a template and one text.

  A template is copied as it stands except for its verbs. A verb is a
  percent sign, then flags (- + # 0 and space), an optional width, an
  optional precision after a point, and a character. An index "[1]"
  may stand before the width, the precision or the verb character; it
  names the one argument, the text. The text fills the first verb that
  asks for a value, or every verb whose index names it:

    * s and v give the text, cut to the precision in characters (v
      with # gives it double-quoted);
    * q gives it double-quoted (between backquotes with #, when it
      can stand there; with + every non-ASCII character is escaped);
    * x and X give the hexadecimal of its octets (precision counts
      octets; a space flag puts a blank between octets, # adds 0x);
    * T gives the name of its kind, "string";
    * any other character marks the mismatch: %!d(string=TEXT).

  The result is padded to the width with blanks on the left (zeros
  with 0, blanks on the right with -). A percent sign as the verb
  gives one. A verb with no text left gives %!s(MISSING), one whose
  index names no argument %!s(BADINDEX), a template that ends inside
  a verb %!(NOVERB), and a text that no verb took is appended as
  %!(EXTRA string=TEXT) unless an index was written. A width or
  precision written as a star takes the next argument as its number,
  which the text is not: %!(BADWIDTH) or %!(BADPREC).

  Key definitions:
    * `Format.Spec`, `Format.render`, `Format.Walk`, `Format.verb`, `Format.apply`
-/

namespace LineBatch.Format

/-- The flags, width and precision of one verb. -/
structure Spec where
  minus : Bool := false
  plus : Bool := false
  sharp : Bool := false
  zero : Bool := false
  space : Bool := false
  width : Option Nat := none
  prec : Option Nat := none

/-- Pads a formatted value to the width of the verb. -/
def Spec.pad (sp : Spec) (body : Bytes) : Bytes :=
  let n := (Utf8.pieces body).length
  match sp.width with
  | some w =>
    if w ≤ n then body
    else if sp.minus then body ++ List.replicate (w - n) 32
    else List.replicate (w - n) (if sp.zero then 48 else 32) ++ body
  | none => body

/-- The text cut to the precision, counted in characters. -/
def Spec.cut (sp : Spec) (text : Bytes) : Bytes :=
  match sp.prec with
  | some p => ((Utf8.pieces text).take p).flatten
  | none => text

/-- Hexadecimal digits of the octets, upper case if asked. -/
def hexOctets (sp : Spec) (upper : Bool) (text : Bytes) : Bytes :=
  let octets := match sp.prec with
    | some p => text.take p
    | none => text
  let digit (n : Nat) : UInt8 :=
    let c := Bytes.hexDigit n
    (if upper then c.toUpper else c).toNat.toUInt8
  let lead : Bytes := if upper then [48, 88] else [48, 120]
  let one (b : UInt8) : Bytes := [digit (b.toNat / 16), digit (b.toNat % 16)]
  if octets.isEmpty then []
  else if sp.space then
    (octets.map fun b => (if sp.sharp then lead else []) ++ one b).intersperse [32] |>.flatten
  else (if sp.sharp then lead else []) ++ (octets.map one).flatten

/-- Quotes a text, escaping every character outside ASCII when `ascii` is set. -/
def quoteText (ascii : Bool) (text : Bytes) : Bytes :=
  let escapeAll (c : Char) : String :=
    if c.toNat < 0x80 then Quoted.escapeChar c
    else if c.toNat < 0x10000 then "\\u" ++ Quoted.hexPadded c.toNat 4
    else "\\U" ++ Quoted.hexPadded c.toNat 8
  if ascii then
    let body := (Utf8.pieces text).map fun piece =>
      match piece with
      | [] => ""
      | b :: rest =>
        if Utf8.startsValid b rest then escapeAll (Utf8.decodeRune b rest).1
        else "\\x" ++ Quoted.hexPadded b.toNat 2
    Bytes.ofString ("\"" ++ String.join body ++ "\"")
  else Bytes.ofString (Quoted.quoteBytes text)

/-- The text as a quoting verb gives it: cut to the precision, then between backquotes
when `sharp` asks and it can stand there, else double-quoted (escaping all but ASCII with
`plus`). -/
def quoted (sp : Spec) (text : Bytes) : Bytes :=
  let t := sp.cut text
  match Utf8.toString? t with
  | some s =>
    if sp.sharp && Quoted.canBackquote s then sp.pad (Bytes.ofString ("`" ++ s ++ "`"))
    else sp.pad (quoteText sp.plus t)
  | none => sp.pad (quoteText sp.plus t)

/-- The text as the value verb gives it: quoted when `goSyntax` asks, else as it is,
cut and padded. -/
def plain (sp : Spec) (goSyntax : Bool) (text : Bytes) : Bytes :=
  if goSyntax then quoted { sp with sharp := false, plus := false } text
  else sp.pad (sp.cut text)

/-- The text as one verb formats it. `goSyntax` is set for the value verbs (v and w)
written with #; those verbs pass no # or + flag on. A letter that formats no text marks
the mismatch, showing the text as the value verb would. -/
def render (sp : Spec) (goSyntax : Bool) (verb : Char) (text : Bytes) : Bytes :=
  match verb with
  | 's' => sp.pad (sp.cut text)
  | 'v' => plain sp goSyntax text
  | 'q' => quoted sp text
  | 'x' => sp.pad (hexOctets sp false text)
  | 'X' => sp.pad (hexOctets sp true text)
  | 'T' => sp.pad (sp.cut (Bytes.ofString "string"))
  | c =>
    Bytes.ofString ("%!" ++ String.singleton c ++ "(string=") ++ plain sp goSyntax text ++
      Bytes.ofString ")"

/-- Reads the decimal digits of a width or precision, on top of what was read before.
A number past a million that would grow further is too large: it reads as no number,
and the rest of the template is used up. -/
def digits (acc : Option Nat) : List Char → Option Nat × List Char
  | c :: rest =>
    if c.isDigit then
      let n := acc.getD 0
      if n > 1000000 then (none, [])
      else digits (some (n * 10 + (c.toNat - 48))) rest
    else (acc, c :: rest)
  | [] => (acc, [])

/-- Reads decimal digits: the number, if any, and the rest. -/
def number (cs : List Char) : Option Nat × List Char := digits none cs

/-- Reads the flags of a verb. -/
def flags (sp : Spec) : List Char → Spec × List Char
  | '-' :: rest => flags { sp with minus := true, zero := false } rest
  | '+' :: rest => flags { sp with plus := true } rest
  | '#' :: rest => flags { sp with sharp := true } rest
  | '0' :: rest => flags { sp with zero := !sp.minus } rest
  | ' ' :: rest => flags { sp with space := true } rest
  | cs => (sp, cs)

/-- Reads the inside of an explicit argument index, after its opening bracket: whether it
is a number closed by a bracket, the number, and the rest. Fewer than two characters
after the bracket, or no closing bracket, leave all but the opening bracket unread. -/
def bracket (cs : List Char) : Bool × Nat × List Char :=
  if cs.length < 2 then (false, 0, cs)
  else
    match cs.findIdx? (· = ']') with
    | none => (false, 0, cs)
    | some j =>
      match number (cs.take j) with
      | (some n, []) => (true, n, cs.drop (j + 1))
      | _ => (false, 0, cs.drop (j + 1))

/-- Where a walk through a template stands while it reads one verb. -/
structure Walk where
  /-- Whether the text was used, so that no argument is left. -/
  taken : Bool
  /-- Whether the verb names only arguments that are there. -/
  good : Bool := true
  /-- Whether any index was written, so that an unused text is not reported. -/
  reordered : Bool
  /-- Whether an index was read just before. -/
  afterIndex : Bool := false

/-- Reads an explicit argument index if one comes next. Index 1 names the text, and
reading it makes the text the next argument again; any other index, or one that does not
read, spoils the verb. -/
def Walk.index (w : Walk) : List Char → Walk × List Char
  | '[' :: r =>
    let (ok, n, rest) := bracket r
    if ok && n = 1 then ({ w with taken := false, reordered := true, afterIndex := true }, rest)
    else ({ w with good := false, reordered := true, afterIndex := ok }, rest)
  | cs => ({ w with afterIndex := false }, cs)

/-- What reading one verb gives: the bytes written, the walk after it, the rest of the
template, and whether the template ended inside the verb. -/
structure Step where
  out : Bytes
  walk : Walk
  rest : List Char
  stop : Bool

/-- Reads and formats one verb, the characters after its percent sign. A width or
precision written as a star takes the next argument as its number; the text is no
number, so the star is reported. -/
def verb (w : Walk) (text : Bytes) (cs : List Char) : Step :=
  let w : Walk := { w with good := true }
  let (sp, cs) := flags {} cs
  let (w, cs) := w.index cs
  -- the width
  let (sp, w, bad, cs) : Spec × Walk × Bytes × List Char := match cs with
    | '*' :: r => (sp, { w with taken := true, afterIndex := false },
        Bytes.ofString "%!(BADWIDTH)", r)
    | _ =>
      let (n, r) := number cs
      ({ sp with width := n }, { w with good := w.good && !(w.afterIndex && n.isSome) }, [], r)
  -- the precision, when something follows its point
  let (sp, w, bad, cs) : Spec × Walk × Bytes × List Char := match cs with
    | '.' :: c :: r =>
      let w : Walk := { w with good := w.good && !w.afterIndex }
      let (w, r) := w.index (c :: r)
      match r with
      | '*' :: r => (sp, { w with taken := true, afterIndex := false },
          bad ++ Bytes.ofString "%!(BADPREC)", r)
      | _ =>
        let (n, r) := number r
        ({ sp with prec := some (n.getD 0) }, w, bad, r)
    | _ => (sp, w, bad, cs)
  let (w, cs) := if w.afterIndex then (w, cs) else w.index cs
  match cs with
  | [] => ⟨bad ++ Bytes.ofString "%!(NOVERB)", w, [], true⟩
  | c :: rest =>
    let mark (why : String) : Bytes := Bytes.ofString ("%!" ++ String.singleton c ++ why)
    if c = '%' then ⟨bad ++ [37], w, rest, false⟩
    else if !w.good then ⟨bad ++ mark "(BADINDEX)", w, rest, false⟩
    else if w.taken then ⟨bad ++ mark "(MISSING)", w, rest, false⟩
    else
      let valueVerb := c = 'v' || c = 'w'
      let shown := if valueVerb then render { sp with sharp := false, plus := false } sp.sharp c text
        else render sp false c text
      ⟨bad ++ shown, { w with taken := true }, rest, false⟩

/-- Formats a template, at most `fuel` verbs and characters of it: the bytes written and
the walk at the end. -/
def go (text : Bytes) (w : Walk) : Nat → List Char → Bytes × Walk
  | 0, _ => ([], w)
  | _, [] => ([], w)
  | fuel + 1, '%' :: rest =>
    let st := verb w text rest
    if st.stop then (st.out, st.walk)
    else
      let (tail, w) := go text st.walk fuel st.rest
      (st.out ++ tail, w)
  | fuel + 1, c :: rest =>
    let (tail, w) := go text w fuel rest
    (Utf8.encodeChar c ++ tail, w)

/-- Formats a template with one text. A text that no verb took is appended, unless the
template wrote an argument index. -/
def apply (template : String) (arg : Bytes) : Bytes :=
  let cs := template.toList
  let (out, w) := go arg { taken := false, reordered := false } cs.length cs
  if !w.reordered && !w.taken then
    out ++ Bytes.ofString "%!(EXTRA string=" ++ arg ++ Bytes.ofString ")"
  else out

end LineBatch.Format
