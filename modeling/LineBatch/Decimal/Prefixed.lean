import LineBatch.Decimal.Integer

/-
  Reading integers in the base their prefix names.

  After an optional sign, "0b", "0o" and "0x" (in either case)
  choose binary, octal and hexadecimal when a digit may follow them;
  any other leading zero means octal, and no prefix means decimal.
  Digits of bases over ten are letters in either case. Single
  underscores may separate digits: each must stand between two digits,
  where the prefix counts as a digit, and none may end the number.

  Digits are read from left to right: a character that is not a digit
  of the base makes the text malformed, and a value growing past
  2^64 - 1 makes it out of range at once, whatever follows. Misplaced
  underscores are found after the digits were read. The value must
  then fit the signed 64-bit range.

  Key definitions:
    * `Decimal.baseDigit`, `Decimal.splitPrefix`
    * `Decimal.underscoresFit`, `Decimal.readPrefixed`
-/

namespace LineBatch

namespace Decimal

/-- An ASCII letter in lower case; other characters as they are. -/
def lowerAscii (c : Char) : Char :=
  if 'A' ≤ c && c ≤ 'Z' then Char.ofNat (c.toNat + 32) else c

/-- The value of a digit in the bases up to 36: a decimal digit, or a letter of either
case counting from ten. -/
def baseDigit (c : Char) : Option Nat :=
  if '0' ≤ c && c ≤ '9' then some (c.toNat - 48)
  else
    let l := lowerAscii c
    if 'a' ≤ l && l ≤ 'z' then some (l.toNat - 87) else none

/-- The base a number chooses by its prefix, and what follows the prefix. A base letter
counts only when something follows it. -/
def splitPrefix : List Char → Nat × List Char
  | '0' :: x :: y :: rest =>
    match lowerAscii x with
    | 'b' => (2, y :: rest)
    | 'o' => (8, y :: rest)
    | 'x' => (16, y :: rest)
    | _ => (8, x :: y :: rest)
  | '0' :: rest => (8, rest)
  | cs => (10, cs)

/-- Reads the digits of a base, with the value so far; underscores are skipped. -/
def readBaseDigits (base : Nat) : List Char → Nat → IntRead
  | [], n => .value n
  | c :: cs, n =>
    if c = '_' then readBaseDigits base cs n
    else
      match baseDigit c with
      | none => .malformed
      | some d =>
        if d ≥ base then .malformed
        else
          let m := n * base + d
          if m ≥ Nat.pow 2 64 then .outOfRange else readBaseDigits base cs m

/-- What came last while checking underscores. -/
inductive Seen where
  | start
  | digit
  | underscore
  | other
  deriving DecidableEq

/-- Whether the underscores of the rest of a number fit, given what came before. -/
def underscoresFrom (hex : Bool) : Seen → List Char → Bool
  | seen, [] => seen ≠ .underscore
  | seen, c :: cs =>
    if ('0' ≤ c && c ≤ '9') || (hex && 'a' ≤ lowerAscii c && lowerAscii c ≤ 'f') then
      underscoresFrom hex .digit cs
    else if c = '_' then seen = .digit && underscoresFrom hex .underscore cs
    else if seen = .underscore then false
    else underscoresFrom hex .other cs

/-- Whether every underscore of a number stands between two digits, the base prefix
counting as one, and none ends it. -/
def underscoresFit (cs : List Char) : Bool :=
  let cs := match cs with
    | '+' :: r => r
    | '-' :: r => r
    | r => r
  match cs with
  | '0' :: x :: r =>
    let l := lowerAscii x
    if l = 'b' || l = 'o' || l = 'x' then underscoresFrom (l = 'x') .digit r
    else underscoresFrom false .start cs
  | _ => underscoresFrom false .start cs

/-- Reads a signed 64-bit integer in the base its prefix names. -/
def readPrefixed (s : String) : IntRead :=
  let (neg, body) : Bool × List Char := match s.toList with
    | '+' :: r => (false, r)
    | '-' :: r => (true, r)
    | r => (false, r)
  if body.isEmpty then .malformed
  else
    let (base, ds) := splitPrefix body
    match readBaseDigits base ds 0 with
    | .value n =>
      if body.contains '_' && !underscoresFit body then .malformed
      else if neg then (if n ≤ Nat.pow 2 63 then .value (-(n : Int)) else .outOfRange)
      else if n < Nat.pow 2 63 then .value n else .outOfRange
    | r => r

end Decimal

end LineBatch
