import LineBatch.Decimal.Binary64

/-
  Decimal text of doubles with a fixed number of places.

  The exact binary value is rounded once to the given number of
  places, a tie going to the even last digit; the digits before the
  point are never fewer than one. The sign of a negative value is
  written even when the rounded digits are all zero.

  Key definitions:
    * `Decimal.placed`, `Binary64.fixed`
-/

namespace LineBatch

namespace Decimal

/-- Decimal digits of a natural number. -/
def digits (n : Nat) : String := String.ofList (Nat.toDigits 10 n)

/-- The decimal text of n / 10^p with exactly p places. -/
def placed (n p : Nat) : String :=
  let ds := Nat.toDigits 10 n
  let ds := List.replicate (p + 1 - ds.length) '0' ++ ds
  if p = 0 then String.ofList ds
  else String.ofList (ds.take (ds.length - p)) ++ "." ++ String.ofList (ds.drop (ds.length - p))

end Decimal

namespace Binary64

/-- The value with p places after the point. -/
def fixed : Binary64 → Nat → String
  | .finite s m e, p =>
    let (num, den) := toRatio false m e
    let n := roundHalfEven (num.toNat * Nat.pow 10 p) den
    (if s then "-" else "") ++ Decimal.placed n p
  | .inf s, _ => if s then "-Inf" else "+Inf"
  | .nan, _ => "NaN"

end Binary64

end LineBatch
