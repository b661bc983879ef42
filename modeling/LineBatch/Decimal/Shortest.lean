import LineBatch.Decimal.Fixed

/-
  The shortest decimal text of a double.

  Every double is the nearest double to all reals of an interval
  around it: half the gap to each neighbour on either side, the ends
  included when the significand is even. The shortest text is a
  decimal c · 10^k in that interval with the largest k, and so the
  fewest significant digits; of those, the one nearest the value is
  taken. Reading the text back gives the same double.

  Numbers from a millionth up to 10^21 are written with a point and
  no exponent; an integral value has no point at all.

  Key definitions:
    * `Binary64.shortest`, `Binary64.decimal?`, `Binary64.plain`
-/

namespace LineBatch

namespace Binary64

/-- The exponent t with 10^t ≤ a / b < 10^(t+1), for positive a and b. -/
def decimalExponent (a b : Nat) : Int :=
  if b ≤ a then ((Nat.toDigits 10 (a / b)).length : Int) - 1
  else
    -- the least j with a · 10^j ≥ b
    let j := ((List.range 400).find? fun j => b ≤ a * Nat.pow 10 (j + 1)).getD 399
    (-1 : Int) - j

/-- The ratio a · 10^k / b as a pair of naturals. -/
def scaled10 (a b : Nat) (k : Int) : Nat × Nat :=
  if 0 ≤ k then (a * Nat.pow 10 k.toNat, b) else (a, b * Nat.pow 10 (-k).toNat)

/-- The integers c with c · 10^k between lo / den and hi / den, ends included when
`closed`: the least and the greatest. -/
def window (lo hi den : Nat) (closed : Bool) (k : Int) : Nat × Nat :=
  -- c ≥ lo / (den · 10^k) and c ≤ hi / (den · 10^k)
  let (la, lb) := scaled10 lo den (-k)
  let (ha, hb) := scaled10 hi den (-k)
  let cmin := if la % lb = 0 then (if closed then la / lb else la / lb + 1) else la / lb + 1
  let cmax := if ha % hb = 0 then (if closed then ha / hb else ha / hb - 1) else ha / hb
  (cmin, cmax)

/-- Searches from the exponent k downward for the first one whose window holds an
integer; gives that integer nearest the value, and the exponent. -/
def firstFit (v lo hi den : Nat) (closed : Bool) : Nat → Int → Nat × Int
  | 0, k => (0, k)
  | fuel + 1, k =>
    let (cmin, cmax) := window lo hi den closed k
    if cmin ≤ cmax ∧ 0 < cmax then
      let (va, vb) := scaled10 v den (-k)
      let near := roundHalfEven va vb
      (min cmax (max cmin near), k)
    else firstFit v lo hi den closed fuel (k - 1)

/-- The shortest digits c and exponent k with c · 10^k reading back as the positive
finite double m · 2^e. -/
def shortest (m : Nat) (e : Int) : Nat × Int :=
  -- in units of 2^(e-2): the value, and the ends of its interval
  let v := 4 * m
  let hi := v + 2
  let lo := if m = Nat.pow 2 52 ∧ e > minExp then v - 1 else v - 2
  let den := if e - 2 < 0 then Nat.pow 2 (2 - e).toNat else 1
  let num (x : Nat) : Nat := if e - 2 < 0 then x else x * Nat.pow 2 (e - 2).toNat
  let t := decimalExponent (num v) den
  firstFit (num v) (num lo) (num hi) den (m % 2 == 0) 20 (t + 1)

/-- Digits c times 10^k written with a point and no exponent. -/
def positional (c : Nat) (k : Int) : String :=
  if 0 ≤ k then Decimal.digits c ++ String.ofList (List.replicate k.toNat '0')
  else Decimal.placed c (-k).toNat

/-- The shortest decimal of a finite double: signed digits c and a power k of ten with
c · 10^k reading back as the double. Infinities and not a number have none. -/
def decimal? : Binary64 → Option (Int × Int)
  | .finite s m e =>
    if m = 0 then some (0, 0)
    else
      let (c, k) := shortest m e
      some (if s then -(c : Int) else c, k)
  | _ => none

/-- The shortest text of a double with a point and no exponent, as numbers between a
millionth and 10^21 are written; integral values have no point. -/
def plain : Binary64 → String
  | .finite s m e =>
    if m = 0 then (if s then "-0" else "0")
    else
      let (c, k) := shortest m e
      (if s then "-" else "") ++ positional c k
  | .inf s => if s then "-Inf" else "+Inf"
  | .nan => "NaN"

end Binary64

end LineBatch
