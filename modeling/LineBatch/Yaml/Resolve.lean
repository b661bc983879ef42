import LineBatch.Decimal.Read
import LineBatch.Yaml.Token

/-
  What a plain scalar stands for.

  A scalar without a tag is resolved from its text: the empty text,
  '~' and the spellings of null are null; true and false in three
  cases are booleans; numbers with an optional sign and base prefix
  (0x, 0o, 0b, or a leading 0 for octal), with underscores ignored,
  are integers, or unsigned integers above the signed 64-bit range;
  decimal numbers with a point or an exponent are floats, as are the
  dotted spellings of infinity and not-a-number; dates of the form
  YYYY-M-D, optionally with a time, are timestamps; anything else is a
  string.

  A scalar with a tag of the core schema is resolved the same way and
  must resolve to that tag, except that an integer may stand for a
  float.

  Key definitions:
    * `Resolved`, `shortTag`, `resolveText`, `resolve`
    * `readIntBase0`, `isTimestamp`
-/

namespace LineBatch

namespace Yaml

/-- The value of a scalar. -/
inductive Resolved where
  | null
  | bool (b : Bool)
  /-- An integer within the signed 64-bit range. -/
  | int (i : Int)
  /-- An integer above the signed and within the unsigned 64-bit range. -/
  | uint (n : Nat)
  | float (x : Binary64)
  | timestamp
  | text (s : String)
  deriving Repr, Inhabited

/-- The prefix of the tags of the core schema. -/
def tagPrefix : String := "tag:yaml.org,2002:"

/-- A tag of the core schema written with the "!!" handle; other tags as they are. -/
def shortTag (tag : String) : String :=
  if tag.startsWith tagPrefix then "!!" ++ String.ofList (tag.toList.drop tagPrefix.length)
  else tag

/-- The tags a scalar may be resolved against. -/
def resolvable (tag : String) : Bool :=
  tag == "" || tag == "!!str" || tag == "!!bool" || tag == "!!int" || tag == "!!float"
    || tag == "!!timestamp" || tag == "!!null"

/-- The fixed spellings and what they stand for. -/
def spelled? (s : String) : Option (String × Resolved) :=
  if s == "true" || s == "True" || s == "TRUE" then some ("!!bool", .bool true)
  else if s == "false" || s == "False" || s == "FALSE" then some ("!!bool", .bool false)
  else if s == "" || s == "~" || s == "null" || s == "Null" || s == "NULL" then
    some ("!!null", .null)
  else if s == ".nan" || s == ".NaN" || s == ".NAN" then some ("!!float", .float .nan)
  else if s == ".inf" || s == ".Inf" || s == ".INF" || s == "+.inf" || s == "+.Inf"
      || s == "+.INF" then some ("!!float", .float (.inf false))
  else if s == "-.inf" || s == "-.Inf" || s == "-.INF" then some ("!!float", .float (.inf true))
  else if s == "<<" then some ("!!merge", .text "<<")
  else none

------------------------------------------------------------
-- Integers
------------------------------------------------------------

/-- The value of digits in a base, if all are digits of it. -/
def digitsIn (base : Nat) (cs : List Char) : Option Nat :=
  if cs.isEmpty then none
  else cs.foldl (fun acc c => do
    let v ← acc
    let d ← hexValue? c
    if d < base then some (v * base + d) else none) (some 0)

/-- The base and digits of an unsigned number written with an optional base prefix: 0x,
0o and 0b in either case, or a leading 0 for octal. -/
def splitBase (cs : List Char) : Nat × List Char :=
  match cs with
  | '0' :: x :: rest =>
    if x == 'x' || x == 'X' then (16, rest)
    else if x == 'o' || x == 'O' then (8, rest)
    else if x == 'b' || x == 'B' then (2, rest)
    else (8, x :: rest)
  | _ => (10, cs)

/-- Reads an unsigned 64-bit number with an optional base prefix. -/
def readUintBase0 (cs : List Char) : Option Nat := do
  let (base, ds) := splitBase cs
  let v ← digitsIn base ds
  if v < Nat.pow 2 64 then some v else none

/-- Reads a signed 64-bit number with an optional sign and base prefix. -/
def readIntBase0 (cs : List Char) : Option Int :=
  let (neg, rest) : Bool × List Char := match cs with
    | '+' :: r => (false, r)
    | '-' :: r => (true, r)
    | r => (false, r)
  match readUintBase0 rest with
  | some v =>
    if neg then (if v ≤ Nat.pow 2 63 then some (-(v : Int)) else none)
    else if v < Nat.pow 2 63 then some v else none
  | none => none

/-- Reads a number in a base with an optional minus sign, within the signed 64-bit range. -/
def readIntIn (base : Nat) (neg : Bool) (cs : List Char) : Option Int := do
  let v ← digitsIn base cs
  if neg then (if v ≤ Nat.pow 2 63 then some (-(v : Int)) else none)
  else if v < Nat.pow 2 63 then some v else none

------------------------------------------------------------
-- Floats
------------------------------------------------------------

/-- Whether a text is a decimal float: an optional sign, then digits with an optional
point and fraction or a point and digits, then an optional exponent. -/
def isDecimalFloat (cs : List Char) : Bool :=
  let rest := match cs with
    | '+' :: r => r
    | '-' :: r => r
    | r => r
  let whole := rest.takeWhile Decimal.isDigit
  let rest := rest.drop whole.length
  let mantissa : Option (List Char) :=
    if whole.isEmpty then
      match rest with
      | '.' :: r =>
        let frac := r.takeWhile Decimal.isDigit
        if frac.isEmpty then none else some (r.drop frac.length)
      | _ => none
    else
      match rest with
      | '.' :: r => some (r.dropWhile Decimal.isDigit)
      | r => some r
  match mantissa with
  | none => false
  | some [] => true
  | some (e :: r) =>
    (e == 'e' || e == 'E') &&
      (let ds := match r with
        | '+' :: d => d
        | '-' :: d => d
        | d => d
       !ds.isEmpty && ds.all Decimal.isDigit)

/-- Reads a float, if the text is one and within range. -/
def readFloat? (cs : List Char) : Option Binary64 :=
  match Decimal.readFloat cs with
  | .value x => some x
  | _ => none

------------------------------------------------------------
-- Timestamps
------------------------------------------------------------

/-- Reads one or two digits. -/
def number12 (cs : List Char) : Option (Nat × List Char) :=
  match cs with
  | a :: b :: rest =>
    if !Decimal.isDigit a then none
    else if Decimal.isDigit b then some ((a.toNat - 48) * 10 + (b.toNat - 48), rest)
    else some (a.toNat - 48, b :: rest)
  | [a] => if Decimal.isDigit a then some (a.toNat - 48, []) else none
  | [] => none

/-- The number of days of a month. -/
def daysIn (month year : Nat) : Nat :=
  if month == 2 then
    (if year % 4 == 0 && (year % 100 != 0 || year % 400 == 0) then 29 else 28)
  else if month == 4 || month == 6 || month == 9 || month == 11 then 30
  else 31

/-- Reads a time of day H:M:S with an optional fraction; gives the rest. -/
def readClock (cs : List Char) : Option (List Char) := do
  let (h, r) ← number12 cs
  let r ← match r with | ':' :: r => some r | _ => none
  let (m, r) ← number12 r
  let r ← match r with | ':' :: r => some r | _ => none
  let (sec, r) ← number12 r
  if h ≥ 24 || m ≥ 60 || sec ≥ 60 then none
  let r := match r with
    | c :: d :: more =>
      if (c == '.' || c == ',') && Decimal.isDigit d then more.dropWhile Decimal.isDigit
      else c :: d :: more
    | r => r
  some r

/-- Reads a zone: Z, or a sign and hours and minutes of two digits each, with a colon. -/
def readZone (cs : List Char) : Option (List Char) :=
  match cs with
  | 'Z' :: r => some r
  | s :: h1 :: h2 :: ':' :: m1 :: m2 :: r =>
    if (s == '+' || s == '-') && [h1, h2, m1, m2].all Decimal.isDigit
        && (h1.toNat - 48) * 10 + (h2.toNat - 48) ≤ 24 && (m1.toNat - 48) * 10 + (m2.toNat - 48) ≤ 60
    then some r else none
  | _ => none

/-- Whether a text is a timestamp: a date YYYY-M-D, alone, or followed by 'T' or 't', a
time and a zone, or by a space and a time. -/
def isTimestamp (s : String) : Bool :=
  let cs := s.toList
  let date : Option (List Char) := do
    let year := cs.take 4
    if year.length != 4 || !year.all Decimal.isDigit then none
    let y := Decimal.digitValue year
    let r ← match cs.drop 4 with | '-' :: r => some r | _ => none
    let (mo, r) ← number12 r
    let r ← match r with | '-' :: r => some r | _ => none
    let (d, r) ← number12 r
    if mo < 1 || mo > 12 || d < 1 || d > daysIn mo y then none
    some r
  match date with
  | none => false
  | some [] => true
  | some (c :: r) =>
    if c == 'T' || c == 't' then
      match (readClock r).bind readZone with
      | some [] => true
      | _ => false
    else if c == ' ' then
      match readClock r with
      | some [] => true
      | _ => false
    else false

------------------------------------------------------------
-- Resolution
------------------------------------------------------------

/-- The first character's hint: a sign, a digit, a character of a fixed spelling, a point,
or nothing. -/
def hint (s : String) : Char :=
  match s.toList with
  | [] => 'N'
  | c :: _ =>
    if c == '+' || c == '-' then 'S'
    else if Decimal.isDigit c then 'D'
    else if "yYnNtTfFoO~".toList.contains c then 'M'
    else if c == '.' then '.'
    else ' '

/-- Resolves a scalar's text, knowing its tag (empty when it has none). -/
def resolveText (tag s : String) : String × Resolved :=
  let h := hint s
  if h == ' ' || tag == "!!str" || tag == "!!binary" then ("!!str", .text s)
  else match spelled? s with
  | some r => r
  | none =>
    if h == '.' then
      match readFloat? s.toList with
      | some x => ("!!float", .float x)
      | none => ("!!str", .text s)
    else if h == 'D' || h == 'S' then
      if (tag == "" || tag == "!!timestamp") && isTimestamp s then ("!!timestamp", .timestamp)
      else
        let plain := s.toList.filter (· != '_')
        match readIntBase0 plain with
        | some i => ("!!int", .int i)
        | none =>
          match readUintBase0 plain with
          | some n => ("!!int", .uint n)
          | none =>
            match (if isDecimalFloat plain then readFloat? plain else none) with
            | some x => ("!!float", .float x)
            | none =>
              let signed := match plain with
                | '-' :: '0' :: 'b' :: r => readIntIn 2 true r
                | '-' :: '0' :: 'o' :: r => readIntIn 8 true r
                | '0' :: 'b' :: r => readIntIn 2 false r
                | '0' :: 'o' :: r => readIntIn 8 false r
                | _ => none
              let unsigned := match plain with
                | '0' :: 'b' :: r => (digitsIn 2 r).filter (· < Nat.pow 2 64)
                | '0' :: 'o' :: r => (digitsIn 8 r).filter (· < Nat.pow 2 64)
                | _ => none
              match signed, unsigned with
              | some i, _ => ("!!int", .int i)
              | none, some n => ("!!int", .uint n)
              | none, none => ("!!str", .text s)
    else ("!!str", .text s)

/-- Resolves a scalar with a tag (empty when it has none). A tag outside the core schema
keeps the text; a tag of the core schema must be what the text resolves to, else the
scalar cannot be read, though an integer may stand for a float. -/
def resolve (tag s : String) : Except String (String × Resolved) :=
  let tag := shortTag tag
  if !resolvable tag then .ok (tag, .text s)
  else
    let (rtag, r) := resolveText tag s
    if tag == "" || tag == rtag || tag == "!!str" then .ok (rtag, r)
    else if tag == "!!float" && rtag == "!!int" then
      match r with
      | .int i => .ok ("!!float", .float (Binary64.ofInt i))
      | _ => .error ("cannot decode " ++ rtag ++ " `" ++ s ++ "` as a " ++ tag)
    else .error ("cannot decode " ++ rtag ++ " `" ++ s ++ "` as a " ++ tag)

end Yaml

end LineBatch
