/-
  Double-precision binary floating point, exactly.

  A finite double is (-1)^neg · mant · 2^exp with a significand of at
  most 53 bits and an exponent of its last bit of at least -1074 (the
  subnormals) and at most 971. Every operation here computes the exact
  rational result and then rounds it once to the nearest double, a tie
  going to the even significand, as IEEE 754 prescribes; a result too
  large for any double is an infinity.

  Keeping the value as integers makes the arithmetic exact and open to
  proof: nothing here goes through a machine float.

  Key definitions:
    * `Binary64`, `Binary64.ofRatio`, `Binary64.ofInt`
    * `Binary64.add`, `Binary64.mul`, `Binary64.div`, `Binary64.ldexp`
    * `Binary64.truncate?`, `Binary64.isNeg`
-/

namespace LineBatch

/-- A double: a finite value (-1)^neg · mant · 2^exp, an infinity, or not a number. -/
inductive Binary64 where
  | finite (neg : Bool) (mant : Nat) (exp : Int)
  | inf (neg : Bool)
  | nan
  deriving Repr, DecidableEq

namespace Binary64

/-- The exponent of the last significand bit of the smallest subnormal. -/
def minExp : Int := -1074

/-- The greatest exponent of the last significand bit of a finite double. -/
def maxExp : Int := 971

/-- Positive zero. -/
def zero : Binary64 := .finite false 0 0

/-- The ratio n · 2^k / d as a pair of naturals. -/
def scaled (n d : Nat) (k : Int) : Nat × Nat :=
  if 0 ≤ k then (n * Nat.pow 2 k.toNat, d) else (n, d * Nat.pow 2 (-k).toNat)

/-- The floor of the base-2 logarithm of n / d, for positive n and d. -/
def log2Floor (n d : Nat) : Int :=
  let c : Int := (Nat.log2 n : Int) - (Nat.log2 d : Int)
  let (a, b) := scaled d 1 c
  -- n / d < 2^c exactly when n · 1 < d · 2^c
  if n * b < a then c - 1 else c

/-- Rounds the quotient a / b to an integer, a tie going to the even one. -/
def roundHalfEven (a b : Nat) : Nat :=
  let q := a / b
  let r := a % b
  if 2 * r > b || (2 * r == b && q % 2 == 1) then q + 1 else q

/-- The double nearest to ± n / d. A zero numerator gives a zero of the given sign. -/
def ofRatio (neg : Bool) (n d : Nat) : Binary64 :=
  if n = 0 || d = 0 then .finite neg 0 0
  else
    let q := max (log2Floor n d - 52) minExp
    let (a, b) := scaled n d (-q)
    let m := roundHalfEven a b
    let (m, q) := if m = Nat.pow 2 53 then (Nat.pow 2 52, q + 1) else (m, q)
    if q > maxExp then .inf neg else .finite neg m q

/-- The double nearest to an integer. -/
def ofInt (i : Int) : Binary64 := ofRatio (i < 0) i.natAbs 1

/-- The exact value of a finite double as a signed numerator over a power of two. -/
def toRatio (neg : Bool) (m : Nat) (e : Int) : Int × Nat :=
  let num : Int := if neg then -((m * Nat.pow 2 e.toNat : Nat) : Int) else ((m * Nat.pow 2 e.toNat : Nat) : Int)
  if 0 ≤ e then (num, 1)
  else ((if neg then -(m : Int) else (m : Int)), Nat.pow 2 (-e).toNat)

/-- The double nearest to a signed ratio; `negZero` chooses the sign of a zero result. -/
def ofSigned (num : Int) (den : Nat) (negZero : Bool) : Binary64 :=
  if num = 0 then .finite negZero 0 0 else ofRatio (num < 0) num.natAbs den

/-- The rounded sum. -/
def add : Binary64 → Binary64 → Binary64
  | .nan, _ => .nan
  | _, .nan => .nan
  | .inf a, .inf b => if a == b then .inf a else .nan
  | .inf a, _ => .inf a
  | _, .inf b => .inf b
  | .finite sa ma ea, .finite sb mb eb =>
    let (na, da) := toRatio sa ma ea
    let (nb, db) := toRatio sb mb eb
    ofSigned (na * db + nb * da) (da * db) (sa && sb)

/-- The rounded product. -/
def mul : Binary64 → Binary64 → Binary64
  | .nan, _ => .nan
  | _, .nan => .nan
  | .inf a, .finite b m _ => if m = 0 then .nan else .inf (a != b)
  | .finite a m _, .inf b => if m = 0 then .nan else .inf (a != b)
  | .inf a, .inf b => .inf (a != b)
  | .finite sa ma ea, .finite sb mb eb =>
    let (na, da) := toRatio sa ma ea
    let (nb, db) := toRatio sb mb eb
    ofSigned (na * nb) (da * db) (sa != sb)

/-- The rounded quotient. -/
def div : Binary64 → Binary64 → Binary64
  | .nan, _ => .nan
  | _, .nan => .nan
  | .inf _, .inf _ => .nan
  | .inf a, .finite b _ _ => .inf (a != b)
  | .finite a _ _, .inf b => .finite (a != b) 0 0
  | .finite sa ma ea, .finite sb mb eb =>
    if mb = 0 then (if ma = 0 then .nan else .inf (sa != sb))
    else
      let (na, da) := toRatio sa ma ea
      let (nb, db) := toRatio sb mb eb
      -- (na / da) / (nb / db) = na · db / (da · nb)
      ofSigned (na * db * (if nb < 0 then -1 else 1)) (da * nb.natAbs) (sa != sb)

/-- The value times 2^k, rounded. -/
def ldexp (x : Binary64) (k : Int) : Binary64 :=
  match x with
  | .finite s m e =>
    let (n, d) := toRatio s m e
    let (a, b) := scaled n.natAbs d k
    ofSigned (if n < 0 then -(a : Int) else a) b s
  | other => other

/-- Whether the sign of a value is negative; not a number has none. -/
def isNeg : Binary64 → Bool
  | .finite s _ _ => s
  | .inf s => s
  | .nan => false

/-- Whether a value is below zero. -/
def ltZero : Binary64 → Bool
  | .finite s m _ => s && m != 0
  | .inf s => s
  | .nan => false

/-- The integer part of a finite value, rounded toward zero. -/
def truncate? : Binary64 → Option Int
  | .finite s m e =>
    let (n, d) := toRatio s m e
    some (if n < 0 then -((n.natAbs / d : Nat) : Int) else ((n.natAbs / d : Nat) : Int))
  | _ => none

/-- The value as a 64-bit signed integer, rounded toward zero. A value outside the range
of such integers, an infinity or not a number gives the least one, -2^63, as the usual
processor conversion does. -/
def toInt64 (x : Binary64) : Int :=
  match x.truncate? with
  | some i => if -Int.pow 2 63 ≤ i ∧ i < Int.pow 2 63 then i else -Int.pow 2 63
  | none => -Int.pow 2 63

/-- Whether one value is below another; nothing is ordered with not a number, and the two
zeros are equal. -/
def lt : Binary64 → Binary64 → Bool
  | .nan, _ => false
  | _, .nan => false
  | .inf a, .inf b => a && !b
  | .inf a, .finite _ _ _ => a
  | .finite _ _ _, .inf b => !b
  | .finite sa ma ea, .finite sb mb eb =>
    let (na, da) := toRatio sa ma ea
    let (nb, db) := toRatio sb mb eb
    na * (db : Int) < nb * (da : Int)

theorem ofInt_zero : ofInt 0 = .finite false 0 0 := by decide

end Binary64

end LineBatch
