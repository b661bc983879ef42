import LineBatch.Decimal.Binary64

/-
  Reading decimal numbers as doubles.

  A number is an optional sign, decimal digits with at most one point
  and at least one digit, and an optional exponent: e or E, an
  optional sign and at least one digit. Its exact value is rounded
  once to the nearest double. A value too large for any double is out
  of range; one too small becomes zero. The words inf, infinity and nan
  stand for the special values, in any case, the first two with an
  optional sign.

  Key definitions:
    * `FloatRead`, `Decimal.readFloat`
-/

namespace LineBatch

/-- The outcome of reading a number. -/
inductive FloatRead where
  | value (x : Binary64)
  | malformed
  | outOfRange
  deriving Repr, DecidableEq

namespace Decimal

/-- Whether a character is a decimal digit. -/
def isDigit (c : Char) : Bool := '0' ≤ c && c ≤ '9'

/-- The value of decimal digits. -/
def digitValue (ds : List Char) : Nat := ds.foldl (fun n d => n * 10 + (d.toNat - 48)) 0

/-- Splits off a leading sign: whether it is a minus, and the rest. -/
def sign (cs : List Char) : Bool × List Char :=
  match cs with
  | '+' :: r => (false, r)
  | '-' :: r => (true, r)
  | r => (false, r)

/-- The special values spelled out, ignoring case. -/
def special? (cs : List Char) : Option Binary64 :=
  let (neg, rest) := sign cs
  let low := String.ofList (rest.map Char.toLower)
  if low = "inf" || low = "infinity" then some (.inf neg)
  else if cs.map Char.toLower = ['n', 'a', 'n'] then some .nan
  else none

/-- The double nearest to ± d · 10^k, or out of range. -/
def scale (neg : Bool) (d : Nat) (k : Int) : FloatRead :=
  if d = 0 then .value (.finite neg 0 0)
  else
    let size : Int := ((Nat.toDigits 10 d).length : Int) + k
    if size > 310 then .outOfRange
    else if size < -330 then .value (.finite neg 0 0)
    else
      let x := if 0 ≤ k then Binary64.ofRatio neg (d * Nat.pow 10 k.toNat) 1
        else Binary64.ofRatio neg d (Nat.pow 10 (-k).toNat)
      match x with
      | .inf _ => .outOfRange
      | x => .value x

/-- Reads the digits of an exponent, which saturate at a large bound. -/
def exponentDigits (ds : List Char) : Nat :=
  ds.foldl (fun n d => if n < 100000 then n * 10 + (d.toNat - 48) else n) 0

/-- Reads a whole decimal number. -/
def readFloat (cs : List Char) : FloatRead :=
  match special? cs with
  | some x => .value x
  | none =>
    let (neg, rest) := sign cs
    let whole := rest.takeWhile isDigit
    let rest := rest.drop whole.length
    let (frac, rest) : List Char × List Char :=
      match rest with
      | '.' :: r => (r.takeWhile isDigit, r.drop (r.takeWhile isDigit).length)
      | r => ([], r)
    if whole.isEmpty && frac.isEmpty then .malformed
    else
      let expPart : Option Int :=
        match rest with
        | [] => some 0
        | e :: r =>
          if e = 'e' || e = 'E' then
            let (eneg, r) := sign r
            if r.isEmpty || !r.all isDigit then none
            else
              let n : Int := exponentDigits r
              some (if eneg then -n else n)
          else none
      match expPart with
      | none => .malformed
      | some ex => scale neg (digitValue (whole ++ frac)) (ex - frac.length)

end Decimal

end LineBatch
