import LineBatch.Pattern.Syntax

/-
  Reading a pattern.

  The syntax is that of RE2 with Perl extensions: classes in brackets,
  the escapes \d \s \w and their complements, \b \B \A \z, \Q...\E,
  octal and hexadecimal escapes, counted repetition, non-greedy
  repetition, groups with and without names, and the flags i, m, s
  and U. The dot does not match a line feed, and ^ and $ match at the
  ends of the text, unless a flag says otherwise.

  A malformed pattern is refused with the kind of fault and the part
  of the pattern at fault. A second repetition operator right after
  another is refused, as is a count above 1000.

  Key definitions:
    * `ErrorCode`, `ParseError`, `ParseError.message`
    * `parse`
-/

namespace LineBatch.Pattern

/-- The kinds of malformed pattern. -/
inductive ErrorCode where
  | invalidCharClass
  | invalidCharRange
  | invalidEscape
  | invalidNamedCapture
  | invalidPerlOp
  | invalidRepeatOp
  | invalidRepeatSize
  | invalidUtf8
  | missingBracket
  | missingParen
  | missingRepeatArgument
  | trailingBackslash
  | unexpectedParen
  | nestingDepth
  | tooLarge
  deriving DecidableEq, Repr

/-- The wording of each kind of malformed pattern. -/
def ErrorCode.text : ErrorCode → String
  | .invalidCharClass => "invalid character class"
  | .invalidCharRange => "invalid character class range"
  | .invalidEscape => "invalid escape sequence"
  | .invalidNamedCapture => "invalid named capture"
  | .invalidPerlOp => "invalid or unsupported Perl syntax"
  | .invalidRepeatOp => "invalid nested repetition operator"
  | .invalidRepeatSize => "invalid repeat count"
  | .invalidUtf8 => "invalid UTF-8"
  | .missingBracket => "missing closing ]"
  | .missingParen => "missing closing )"
  | .missingRepeatArgument => "missing argument to repetition operator"
  | .trailingBackslash => "trailing backslash at end of expression"
  | .unexpectedParen => "unexpected )"
  | .nestingDepth => "expression nests too deeply"
  | .tooLarge => "expression too large"

/-- A malformed pattern: the kind of fault and the text at fault. -/
structure ParseError where
  code : ErrorCode
  expr : String
  deriving Repr

/-- How a malformed pattern is reported. -/
def ParseError.message (e : ParseError) : String :=
  "error parsing regexp: " ++ e.code.text ++ ": `" ++ e.expr ++ "`"

/-- The flags in force while reading. -/
structure Flags where
  foldCase : Bool := false
  /-- ^ and $ match only at the ends of the text. -/
  oneLine : Bool := true
  /-- The dot matches a line feed too. -/
  dotNewline : Bool := false
  /-- Repetitions prefer fewer rounds. -/
  nonGreedy : Bool := false
  deriving Repr

/-- An open parenthesis and what has been read inside it so far. -/
structure Frame where
  /-- The flags to restore when the parenthesis closes. -/
  saved : Flags
  /-- Finished alternatives, last first. -/
  alts : List Node := []
  /-- Items of the current alternative, last first. -/
  items : List Node := []

/-- The reader's state. The innermost frame comes first; the last frame is the whole
pattern. -/
structure Reader where
  flags : Flags
  frames : List Frame
  /-- The text from the repetition operator read in the previous round, if that round read
  one. -/
  lastRepeat : List Char
  whole : String

/-- The part of `before` that was read to reach `after`, a suffix of it. -/
def consumed (before after : List Char) : String :=
  String.ofList (before.take (before.length - after.length))

/-- Fails with a fault of a kind on a piece of text. -/
def fault {α : Type} (code : ErrorCode) (expr : String) : Except ParseError α :=
  .error { code, expr }

section Pieces

/-- The value of a hexadecimal digit. -/
def hexVal (c : Char) : Option Nat :=
  if '0' ≤ c ∧ c ≤ '9' then some (c.toNat - 48)
  else if 'a' ≤ c ∧ c ≤ 'f' then some (c.toNat - 87)
  else if 'A' ≤ c ∧ c ≤ 'F' then some (c.toNat - 55)
  else none

/-- Up to `k` more octal digits after a value already read. -/
def octalMore : Nat → Nat → List Char → Nat × List Char
  | 0, v, t => (v, t)
  | k + 1, v, c :: t =>
    if '0' ≤ c ∧ c ≤ '7' then octalMore k (v * 8 + (c.toNat - 48)) t else (v, c :: t)
  | _ + 1, v, [] => (v, [])

/-- Hexadecimal digits up to a closing brace, `n` digits read so far with value `v`: the
value and the rest, or the text left where reading stopped (after the offending character)
when the digits are missing, a non-digit comes, or the value passes U+10FFFF. -/
def hexBraced : List Char → Nat → Nat → Except (List Char) (Nat × List Char)
  | [], _, _ => .error []
  | '}' :: t, v, n => if n = 0 then .error t else .ok (v, t)
  | c :: t, v, n =>
    match hexVal c with
    | some d => if v * 16 + d > 0x10FFFF then .error t else hexBraced t (v * 16 + d) (n + 1)
    | none => .error t

/-- Whether an ASCII character is a letter or a digit. -/
def isAlnum (c : Char) : Bool :=
  ('0' ≤ c && c ≤ '9') || ('a' ≤ c && c ≤ 'z') || ('A' ≤ c && c ≤ 'Z')

/-- Reads one escape written for a single character: `s` starts with the backslash. -/
def parseEscape (s : List Char) : Except ParseError (Char × List Char) :=
  match s with
  | [] | [_] => fault .trailingBackslash ""
  | _ :: c :: t =>
    let bad : Except ParseError (Char × List Char) := fault .invalidEscape (consumed s t)
    if c.toNat < 0x80 && !isAlnum c then pure (c, t)
    else if '1' ≤ c ∧ c ≤ '7' then
      match t with
      | d :: _ =>
        if '0' ≤ d ∧ d ≤ '7' then
          let (v, rest) := octalMore 2 (c.toNat - 48) t
          pure (Char.ofNat v, rest)
        else bad
      | [] => bad
    else if c = '0' then
      let (v, rest) := octalMore 2 0 t
      pure (Char.ofNat v, rest)
    else if c = 'x' then
      match t with
      | [] => bad
      | '{' :: u =>
        match hexBraced u 0 0 with
        | .ok (v, rest) => pure (Char.ofNat v, rest)
        | .error stop => fault .invalidEscape (consumed s stop)
      | a :: u =>
        match u with
        | b :: w =>
          match hexVal a, hexVal b with
          | some x, some y => pure (Char.ofNat (x * 16 + y), w)
          | _, _ => fault .invalidEscape (consumed s w)
        | [] => fault .invalidEscape (consumed s [])
    else if c = 'a' then pure (Char.ofNat 7, t)
    else if c = 'f' then pure (Char.ofNat 12, t)
    else if c = 'n' then pure ('\n', t)
    else if c = 'r' then pure ('\r', t)
    else if c = 't' then pure ('\t', t)
    else if c = 'v' then pure (Char.ofNat 11, t)
    else bad

/-- Reads a count: decimal digits without a leading zero. A count of more than eight
digits reads as too large. -/
def parseCount (s : List Char) : Option (Option Nat × List Char) :=
  match s with
  | c :: t =>
    if '0' ≤ c ∧ c ≤ '9' then
      match t with
      | d :: _ =>
        if c = '0' ∧ '0' ≤ d ∧ d ≤ '9' then none
        else
          let ds := s.takeWhile fun x => '0' ≤ x ∧ x ≤ '9'
          let v := ds.foldl (fun acc x => acc * 10 + (x.toNat - 48)) 0
          some (if ds.length > 8 then none else some v, s.drop ds.length)
      | [] => some (some (c.toNat - 48), [])
    else none
  | [] => none

/-- Reads {n}, {n,} or {n,m}: the bounds (none for a count too large, and an absent upper
bound as `.inr ()`) and the rest. Any other text is not a repetition. -/
def parseBraces (s : List Char) : Option ((Option Nat) × (Option Nat ⊕ Unit) × List Char) :=
  match s with
  | '{' :: t => do
    let (lo, t1) ← parseCount t
    match t1 with
    | '}' :: rest => some (lo, .inl lo, rest)
    | ',' :: '}' :: rest => some (lo, .inr (), rest)
    | ',' :: t2 => do
      let (hi, t3) ← parseCount t2
      match t3 with
      | '}' :: rest => some (lo, .inl hi, rest)
      | _ => none
    | _ => none
  | _ => none

/-- Whether a group name is made of letters, digits and underscores. -/
def validName (name : List Char) : Bool :=
  !name.isEmpty && name.all fun c => c = '_' || isAlnum c

end Pieces

section Classes

/-- A group named by a backslash-p escape: `s` starts with the backslash. Returns the
ranges, whether they are complemented, and the rest. -/
def parseNamedGroup (lookup : String → Option (List (Nat × Nat))) (s : List Char) :
    Except ParseError (Option (List (Nat × Nat) × Bool × List Char)) :=
  match s with
  | '\\' :: p :: t =>
    if p = 'p' ∨ p = 'P' then
      let neg0 := p = 'P'
      let (seq, name, rest) : String × List Char × List Char :=
        match t with
        | '{' :: u =>
          match u.findIdx? (· = '}') with
          | some i => (String.ofList (s.take (i + 4)), u.take i, u.drop (i + 1))
          | none => ("", [], [])
        | c :: u => (String.ofList ['\\', p, c], [c], u)
        | [] => (String.ofList ['\\', p], [], [])
      if seq.isEmpty then fault .invalidCharRange (String.ofList s)
      else
        let (neg, name) := match name with
          | '^' :: n => (!neg0, n)
          | n => (neg0, n)
        match lookup (String.ofList name) with
        | some rs => pure (some (rs, neg, rest))
        | none => fault .invalidCharRange seq
    else pure none
  | _ => pure none

/-- One character of a class, written plainly or as an escape. -/
def parseClassChar (s whole : List Char) : Except ParseError (Char × List Char) :=
  match s with
  | [] => fault .missingBracket (String.ofList whole)
  | '\\' :: _ => parseEscape s
  | c :: t => pure (c, t)

/-- Reads the items of a bracketed class up to the closing bracket. `whole` is the class
from its opening bracket, for the fault of a missing bracket. -/
def parseClassItems (lookup : String → Option (List (Nat × Nat))) (whole : List Char) :
    Nat → Bool → List ClassItem → List Char → Except ParseError (List ClassItem × List Char)
  | 0, _, _, _ => fault .missingBracket (String.ofList whole)
  | fuel + 1, first, acc, t =>
    match t with
    | ']' :: rest => if first then one fuel acc t else pure (acc.reverse, rest)
    | _ => one fuel acc t
where
  /-- Reads one item: a bracketed name, a named group, a backslash group, or a character
  or range. -/
  one (fuel : Nat) (acc : List ClassItem) (t : List Char) :
      Except ParseError (List ClassItem × List Char) := do
    -- [:name:]
    let posix : Option (List ClassItem × List Char) ← match t with
      | '[' :: ':' :: u =>
        let rec findClose : List Char → List Char → Option (List Char × List Char)
          | ':' :: ']' :: r, nm => some (nm.reverse, r)
          | c :: r, nm => findClose r (c :: nm)
          | [], _ => none
        match findClose u [] with
        | some (nm, r) =>
          match Groups.posix? (String.ofList nm) with
          | some (rs, neg) => pure (some (ClassItem.group rs neg :: acc, r))
          | none => fault .invalidCharRange (String.ofList ('[' :: ':' :: nm ++ [':', ']']))
        | none => pure none
      | _ => pure none
    if let some (acc', r) := posix then
      return ← parseClassItems lookup whole fuel false acc' r
    if let some (rs, neg, r) ← parseNamedGroup lookup t then
      return ← parseClassItems lookup whole fuel false (ClassItem.group rs neg :: acc) r
    match t with
    | '\\' :: c :: r =>
      if let some (rs, neg) := Groups.perl? c then
        return ← parseClassItems lookup whole fuel false (ClassItem.group rs neg :: acc) r
    | _ => pure ()
    let (lo, t1) ← parseClassChar t whole
    match t1 with
    | '-' :: u =>
      match u with
      | ']' :: _ => parseClassItems lookup whole fuel false (ClassItem.span lo.toNat lo.toNat :: acc) t1
      | [] => parseClassItems lookup whole fuel false (ClassItem.span lo.toNat lo.toNat :: acc) t1
      | _ =>
        let (hi, t2) ← parseClassChar u whole
        if hi < lo then fault .invalidCharRange (consumed t t2)
        else parseClassItems lookup whole fuel false (ClassItem.span lo.toNat hi.toNat :: acc) t2
    | _ => parseClassItems lookup whole fuel false (ClassItem.span lo.toNat lo.toNat :: acc) t1

/-- Reads a bracketed class: `s` starts with the opening bracket. -/
def parseClass (lookup : String → Option (List (Nat × Nat))) (flags : Flags)
    (s : List Char) : Except ParseError (CharClass × List Char) := do
  let t := s.drop 1
  let (negated, t) := match t with
    | '^' :: u => (true, u)
    | u => (false, u)
  let (items, rest) ← parseClassItems lookup s (t.length + 1) true [] t
  pure ({ items, fold := flags.foldCase, negated }, rest)

end Classes

section Reading

/-- The frame being read. -/
def Reader.top (r : Reader) : Frame := r.frames.headD { saved := {} }

/-- Replaces the frame being read. -/
def Reader.setTop (r : Reader) (f : Frame) : Reader :=
  { r with frames := f :: r.frames.drop 1 }

/-- Adds an item to the current alternative. -/
def Reader.push (r : Reader) (n : Node) : Reader :=
  let f := r.top
  r.setTop { f with items := n :: f.items }

/-- The pattern read in a frame: its alternatives in order. -/
def Frame.close (f : Frame) : Node :=
  let last := Node.catAll f.items.reverse
  Node.altAll (last :: f.alts).reverse

/-- How many copies of the innermost pattern a repetition asks for stays within a bound. -/
def repeatWithin : Node → Nat → Bool
  | .rep b m mx _, n =>
    let k := match mx with
      | some 0 => 0
      | some x => x
      | none => m
    if mx = some 0 then true
    else if k > n then false
    else repeatWithin b (if k > 0 then n / k else n)
  | .cat a b, n => repeatWithin a n && repeatWithin b n
  | .alt a b, n => repeatWithin a n && repeatWithin b n
  | .star b _, n => repeatWithin b n
  | .plus b _, n => repeatWithin b n
  | .quest b _, n => repeatWithin b n
  | .group b, n => repeatWithin b n
  | _, _ => true

/-- Applies a repetition operator to the last item. `before` is the text at the operator
and `after` the text after it. -/
def Reader.applyRepeat (r : Reader) (make : Bool → Node → Node) (counted : Bool)
    (before after : List Char) : Except ParseError (Reader × List Char) := do
  let (greedyFlip, after) := match after with
    | '?' :: u => (true, u)
    | u => (false, u)
  let nonGreedy := if greedyFlip then !r.flags.nonGreedy else r.flags.nonGreedy
  if !r.lastRepeat.isEmpty then
    fault .invalidRepeatOp (consumed r.lastRepeat after)
  else
    let f := r.top
    match f.items with
    | [] => fault .missingRepeatArgument (consumed before after)
    | sub :: rest =>
      let node := make (!nonGreedy) sub
      if counted && !repeatWithin node 1000 then
        fault .invalidRepeatSize (consumed before after)
      else
        pure (r.setTop { f with items := node :: rest }, after)

/-- Reads flags and the opening of a group after "(?": `s` starts with the parenthesis. -/
def Reader.perlFlags (r : Reader) (s : List Char) : Except ParseError (Reader × List Char) :=
  let t := s
  let named :=
    match t with
    | '(' :: '?' :: 'P' :: '<' :: _ :: _ => some 4
    | '(' :: '?' :: '<' :: _ :: _ => some 3
    | _ => none
  match named with
  | some begin =>
    match t.findIdx? (· = '>') with
    | none => fault .invalidNamedCapture (String.ofList s)
    | some e =>
      let name := (t.take e).drop begin
      if !validName name then fault .invalidNamedCapture (String.ofList (t.take (e + 1)))
      else pure ({ r with frames := { saved := r.flags } :: r.frames }, t.drop (e + 1))
  | none =>
    let rec loop : List Char → Flags → Bool → Bool → Except ParseError (Reader × List Char)
      | [], _, _, _ => fault .invalidPerlOp (String.ofList s)
      | c :: u, fl, neg, saw =>
        let bad : Except ParseError (Reader × List Char) := fault .invalidPerlOp (consumed s u)
        let set (fl : Flags) : Flags :=
          if c = 'i' then { fl with foldCase := !neg }
          else if c = 'm' then { fl with oneLine := neg }
          else if c = 's' then { fl with dotNewline := !neg }
          else { fl with nonGreedy := !neg }
        if c = 'i' ∨ c = 'm' ∨ c = 's' ∨ c = 'U' then loop u (set fl) neg true
        else if c = '-' then
          if neg then bad else loop u fl true false
        else if c = ':' ∨ c = ')' then
          if neg ∧ !saw then bad
          else if c = ':' then
            pure ({ r with flags := fl, frames := { saved := r.flags } :: r.frames }, u)
          else pure ({ r with flags := fl }, u)
        else bad
    loop (t.drop 2) r.flags false false

/-- Closes the innermost parenthesis. -/
def Reader.closeParen (r : Reader) : Except ParseError Reader :=
  match r.frames with
  | f :: outer :: rest =>
    let body := Node.group f.close
    let r' := { r with flags := f.saved, frames := outer :: rest }
    pure (r'.push body)
  | _ => fault .unexpectedParen r.whole

/-- Reads a backslash escape outside a class: `t` starts with the backslash. -/
def Reader.escape (lookup : String → Option (List (Nat × Nat))) (r : Reader)
    (t : List Char) : Except ParseError (Reader × List Char) := do
  match t with
  | '\\' :: 'A' :: u => return (r.push (.assert .beginText), u)
  | '\\' :: 'b' :: u => return (r.push (.assert .wordBoundary), u)
  | '\\' :: 'B' :: u => return (r.push (.assert .notWordBoundary), u)
  | '\\' :: 'C' :: _ => fault .invalidEscape "\\C"
  | '\\' :: 'z' :: u => return (r.push (.assert .endText), u)
  | '\\' :: 'Q' :: u =>
    let rec cut : List Char → List Char → List Char × List Char
      | '\\' :: 'E' :: w, acc => (acc.reverse, w)
      | c :: w, acc => cut w (c :: acc)
      | [], acc => (acc.reverse, [])
    let (lit, rest) := cut u []
    let r' := lit.foldl (fun rd c => rd.push (.literal c rd.flags.foldCase)) r
    return (r', rest)
  | _ => pure ()
  if let some (rs, neg, rest) ← parseNamedGroup lookup t then
    let cls : CharClass := { items := [.group rs neg], fold := r.flags.foldCase, negated := false }
    return (r.push (.oneOf cls), rest)
  match t with
  | '\\' :: c :: u =>
    if let some (rs, neg) := Groups.perl? c then
      let cls : CharClass :=
        { items := [.group rs neg], fold := r.flags.foldCase, negated := false }
      return (r.push (.oneOf cls), u)
  | _ => pure ()
  let (c, rest) ← parseEscape t
  return (r.push (.literal c r.flags.foldCase), rest)

/-- One round of reading: consumes at least one character of `t`. -/
def Reader.step (lookup : String → Option (List (Nat × Nat))) (r : Reader) (t : List Char) :
    Except ParseError (Reader × List Char) :=
  let plain : Reader := { r with lastRepeat := [] }
  match t with
  | [] => pure (r, [])
  | c :: u =>
    if c = '(' then
      match u with
      | '?' :: _ => plain.perlFlags t
      | _ => pure ({ plain with frames := { saved := r.flags } :: r.frames }, u)
    else if c = '|' then
      let f := r.top
      let alt := Node.catAll f.items.reverse
      pure (plain.setTop { f with alts := alt :: f.alts, items := [] }, u)
    else if c = ')' then do
      let r' ← plain.closeParen
      pure (r', u)
    else if c = '^' then
      pure (plain.push (.assert (if r.flags.oneLine then .beginText else .beginLine)), u)
    else if c = '$' then
      pure (plain.push (.assert (if r.flags.oneLine then .endText else .endLine)), u)
    else if c = '.' then
      pure (plain.push (if r.flags.dotNewline then .anyChar else .anyButNewline), u)
    else if c = '[' then do
      let (cls, rest) ← parseClass lookup r.flags t
      pure (plain.push (.oneOf cls), rest)
    else if c = '*' ∨ c = '+' ∨ c = '?' then do
      let make : Bool → Node → Node := fun g n =>
        if c = '*' then .star n g else if c = '+' then .plus n g else .quest n g
      let (r', rest) ← r.applyRepeat make false t u
      pure ({ r' with lastRepeat := t }, rest)
    else if c = '{' then
      match parseBraces t with
      | none => pure (plain.push (.literal '{' r.flags.foldCase), u)
      | some (lo, hi, after) =>
        let tooBig :=
          match lo, hi with
          | none, _ => true
          | some _, .inl none => true
          | some m, .inl (some x) => m > 1000 || x > 1000 || m > x
          | some m, .inr () => m > 1000
        if tooBig then fault .invalidRepeatSize (consumed t after)
        else do
          let m := lo.getD 0
          let mx : Option Nat := match hi with
            | .inl x => x
            | .inr () => none
          let (r', rest) ← r.applyRepeat (fun g n => .rep n m mx g) true t after
          pure ({ r' with lastRepeat := t }, rest)
    else if c = '\\' then plain.escape lookup t
    else pure (plain.push (.literal c r.flags.foldCase), u)

/-- Reads rounds until the text is used up. Every round consumes at least one character,
so the length of the text bounds the rounds. -/
def Reader.run (lookup : String → Option (List (Nat × Nat))) :
    Nat → Reader → List Char → Except ParseError Reader
  | 0, r, _ => pure r
  | fuel + 1, r, t =>
    match t with
    | [] => pure r
    | _ => do
      let (r', rest) ← r.step lookup t
      r'.run lookup fuel rest

end Reading

/-- Reads a pattern, looking up the names of backslash-p groups with `lookup`. -/
def parseWith (lookup : String → Option (List (Nat × Nat))) (s : String) :
    Except ParseError Node := do
  let start : Reader := { flags := {}, frames := [{ saved := {} }], lastRepeat := [], whole := s }
  let r ← start.run lookup (s.length + 1) s.toList
  match r.frames with
  | [f] => pure f.close
  | _ => fault .missingParen s

end LineBatch.Pattern
