import LineBatch.Text.Quoted

/-
  Reading integers.

  A decimal integer is an optional sign and one or more digits. The
  digits are read from left to right: a character that is not a
  digit makes the text malformed, and a value growing past 2^64 - 1
  makes it out of range at once, whatever follows. The value must
  then fit the signed range of the given width.

  Failures are reported with the name of the reading function, the
  quoted text and the reason.

  Key definitions:
    * `IntRead`, `Decimal.readInt`, `Decimal.parseInt`
-/

namespace LineBatch

/-- The result of reading an integer. -/
inductive IntRead where
  | value (n : Int)
  | malformed
  | outOfRange
  deriving DecidableEq, Repr

namespace Decimal

/-- Reads unsigned digits, with the value so far. -/
def readDigits : List Char → Nat → IntRead
  | [], n => .value n
  | c :: cs, n =>
    if !('0' ≤ c && c ≤ '9') then .malformed
    else
      let m := n * 10 + (c.toNat - 48)
      if m ≥ Nat.pow 2 64 then .outOfRange else readDigits cs m

/-- Reads a signed decimal integer of `bits` bits. -/
def readInt (bits : Nat) (s : String) : IntRead :=
  let (neg, ds) := match s.toList with
    | '+' :: ds => (false, ds)
    | '-' :: ds => (true, ds)
    | ds => (false, ds)
  if ds.isEmpty then .malformed
  else
    match readDigits ds 0 with
    | .value n =>
      if neg then (if n ≤ Nat.pow 2 (bits - 1) then .value (-(n : Int)) else .outOfRange)
      else if n < Nat.pow 2 (bits - 1) then .value n else .outOfRange
    | r => r

/-- Reads a signed 64-bit decimal integer; `fn` names the reader in the failure. -/
def parseInt (fn : String) (s : String) : Except String Int :=
  match readInt 64 s with
  | .value n => .ok n
  | .malformed => .error (fn ++ ": parsing " ++ Quoted.quote s ++ ": invalid syntax")
  | .outOfRange => .error (fn ++ ": parsing " ++ Quoted.quote s ++ ": value out of range")

end Decimal

end LineBatch
