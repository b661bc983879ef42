import LineBatch.Units.Duration
import LineBatch.Text.Utf8

/-
  Reading durations.

  A written duration is an optional sign and then one or more
  decimal numbers, each with an optional fraction and a unit: ns, us
  (or µs, μs), ms, s, m or h, as in 300ms, -1.5h or 2h45m. A lone
  "0" is zero. The whole numbers are exact; a fraction is turned into
  nanoseconds in double precision and cut toward zero. A total above
  2^63 - 1 nanoseconds (2^63 when negative) does not fit.

  Failures quote the text: octets that are not printable ASCII as
  \xNN, a quote and a backslash behind a backslash.

  Key definitions:
    * `Duration.parse`
-/

namespace LineBatch

namespace Duration

/-- A text between double quotes, as failures show it. -/
def quote (s : Bytes) : String :=
  let body := s.flatMap fun b =>
    if b.toNat < 0x20 || b.toNat ≥ 0x80 then
      ['\\', 'x', Bytes.hexDigit (b.toNat / 16), Bytes.hexDigit (b.toNat % 16)]
    else if b.toNat = 34 || b.toNat = 92 then ['\\', Char.ofNat b.toNat]
    else [Char.ofNat b.toNat]
  "\"" ++ String.ofList body ++ "\""

/-- The units a duration may be written in, with their lengths. -/
def unitTable : List (String × Nat) :=
  [("ns", 1), ("us", 1000), ("µs", 1000), ("μs", 1000), ("ms", 1000000),
    ("s", 1000000000), ("m", 60000000000), ("h", 3600000000000)]

/-- Whether an octet is a decimal digit. -/
def isDigitOctet (b : UInt8) : Bool := 48 ≤ b.toNat && b.toNat ≤ 57

/-- Reads leading digits onto `x`; none when the value passes 2^63. -/
def leadingInt : Bytes → Nat → Option (Nat × Bytes)
  | [], x => some (x, [])
  | b :: rest, x =>
    if !isDigitOctet b then some (x, b :: rest)
    else if x > Nat.pow 2 63 / 10 then none
    else
      let y := x * 10 + (b.toNat - 48)
      if y > Nat.pow 2 63 then none else leadingInt rest y

/-- Reads the digits of a fraction onto `x` with its scale, a double; digits past what
fits are skipped without changing the value. -/
def leadingFraction : Bytes → Nat → Binary64 → Bool → Nat × Binary64 × Bytes
  | [], x, scale, _ => (x, scale, [])
  | b :: rest, x, scale, full =>
    if !isDigitOctet b then (x, scale, b :: rest)
    else if full then leadingFraction rest x scale true
    else if x > (Nat.pow 2 63 - 1) / 10 then leadingFraction rest x scale true
    else
      let y := x * 10 + (b.toNat - 48)
      if y > Nat.pow 2 63 then leadingFraction rest x scale true
      else leadingFraction rest y (Binary64.mul scale (Binary64.ofInt 10)) false

/-- Adds up the numbers and units of a duration onto `d`, for at most `fuel` numbers;
`orig` is the whole text, for failures. -/
def sumParts (orig : Bytes) : Nat → Bytes → Nat → Except String Nat
  | 0, _, d => .ok d
  | _, [], d => .ok d
  | fuel + 1, s, d => do
    let invalid := "time: invalid duration " ++ quote orig
    match s.head? with
    | some c => if !(c.toNat = 46 || isDigitOctet c) then throw invalid
    | none => pure ()
    let some (v, s') := leadingInt s 0 | throw invalid
    let pre := s'.length ≠ s.length
    let (f, scale, s'', post) :=
      if s'.head? = some 46 then
        let (f, scale, r) := leadingFraction s'.tail 0 (Binary64.ofInt 1) false
        (f, scale, r, r.length ≠ s'.tail.length)
      else (0, Binary64.ofInt 1, s', false)
    if !pre && !post then throw invalid
    let u := s''.takeWhile fun b => !(b.toNat = 46 || isDigitOctet b)
    let rest := s''.drop u.length
    if u.isEmpty then throw ("time: missing unit in duration " ++ quote orig)
    let some (_, unit) := unitTable.find? fun (n, _) => Bytes.ofString n = u
      | throw ("time: unknown unit " ++ quote u ++ " in duration " ++ quote orig)
    if v > Nat.pow 2 63 / unit then throw invalid
    let v := v * unit
    let v ← if f > 0 then do
        let part := Binary64.mul (Binary64.ofInt f) (Binary64.div (Binary64.ofInt unit) scale)
        let v := v + (part.truncate?.getD 0).toNat
        if v > Nat.pow 2 63 then throw invalid
        pure v
      else pure v
    let d := d + v
    if d > Nat.pow 2 63 then throw invalid
    sumParts orig fuel rest d

/-- Reads a written duration. -/
def parse (text : String) : Except String Duration := do
  let orig := Bytes.ofString text
  let (neg, s) := match orig with
    | 45 :: rest => (true, rest)
    | 43 :: rest => (false, rest)
    | s => (false, s)
  if s = [48] then return 0
  if s.isEmpty then throw ("time: invalid duration " ++ quote orig)
  let d ← sumParts orig (s.length + 1) s 0
  if neg then return -(d : Int)
  if d > Nat.pow 2 63 - 1 then throw ("time: invalid duration " ++ quote orig)
  return d

end Duration

end LineBatch
