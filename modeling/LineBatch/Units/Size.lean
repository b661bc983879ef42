import LineBatch.Decimal.Fixed
import LineBatch.Decimal.Read
import LineBatch.Text.Blank

/-
  Sizes in bytes, written and read by people.

  A size of at least a kibibyte is written in the largest binary unit
  (KiB, MiB, GiB, TiB) that it reaches, with one decimal place; a
  smaller one, or a negative one, as a whole number of bytes with B.

  A written size is a number with an optional unit. The first of TiB,
  GiB, MiB, KiB, TB, GB, MB, KB and B that ends the text is its unit,
  case counting; the number is read from the start of what remains,
  and whatever follows it is ignored. The number may have a sign, a
  point, an exponent with e, E, p or P, and underscores among its
  digits, or be inf or nan; a p exponent scales by a power of two.
  What cannot be read, and a negative number, are refused. The size is
  the number times the unit, rounded as a double, cut toward zero to a
  64-bit integer; a product outside that range gives -2^63.

  Key definitions:
    * `Size.format`, `Size.parse`, `Size.numberToken`
-/

namespace LineBatch

namespace Size

/-- The binary units, largest first, with their sizes. -/
def binaryUnits : List (String × Nat) :=
  [("TiB", Nat.pow 2 40), ("GiB", Nat.pow 2 30), ("MiB", Nat.pow 2 20), ("KiB", Nat.pow 2 10)]

/-- A size in the largest binary unit it reaches, with one place; below a kibibyte, in
bytes. -/
def format (b : Int) : String :=
  match binaryUnits.find? fun (_, n) => (n : Int) ≤ b with
  | some (name, n) =>
    (Binary64.div (Binary64.ofInt b) (Binary64.ofInt n)).fixed 1 ++ " " ++ name
  | none => toString b ++ " B"

/-- The units a written size may end with, in the order they are tried, with their
sizes. -/
def units : List (String × Nat) :=
  [("TiB", Nat.pow 2 40), ("GiB", Nat.pow 2 30), ("MiB", Nat.pow 2 20), ("KiB", Nat.pow 2 10),
   ("TB", Nat.pow 10 12), ("GB", Nat.pow 10 9), ("MB", Nat.pow 10 6), ("KB", Nat.pow 10 3), ("B", 1)]

/-- Takes one character from the front if it is one of `set`. -/
def accept (set : List Char) : List Char × List Char → Bool × (List Char × List Char)
  | (tok, c :: rest) => if set.contains c then (true, (tok ++ [c], rest)) else (false, (tok, c :: rest))
  | st => (false, st)

/-- Takes characters from the front while they are in `set`. -/
def acceptAll (set : List Char) : List Char × List Char → List Char × List Char
  | (tok, rest) =>
    let run := rest.takeWhile set.contains
    (tok ++ run, rest.drop run.length)

/-- The number at the front of a text, as far as it can belong to one: nan, or a sign
followed by inf or by digits, a point, more digits and an exponent. Characters are taken
while they fit, even when what they start is not completed. -/
def numberToken (cs : List Char) : List Char :=
  let st : List Char × List Char := ([], cs)
  let (n1, st) := accept ['n', 'N'] st
  let (a1, st) := if n1 then accept ['a', 'A'] st else (false, st)
  let (n2, st) := if a1 then accept ['n', 'N'] st else (false, st)
  if n2 then st.1
  else
    let (_, st) := accept ['+', '-'] st
    let (i1, st) := accept ['i', 'I'] st
    let (n3, st) := if i1 then accept ['n', 'N'] st else (false, st)
    let (f1, st) := if n3 then accept ['f', 'F'] st else (false, st)
    if f1 then st.1
    else
      let dec := "0123456789_".toList
      let (z, st) := accept ['0'] st
      let (x, st) := if z then accept ['x', 'X'] st else (false, st)
      let digits := if x then "0123456789aAbBcCdDeEfF_".toList else dec
      let expo := if x then ['p', 'P'] else ['e', 'E', 'p', 'P']
      let st := acceptAll digits st
      let (dot, st) := accept ['.'] st
      let st := if dot then acceptAll digits st else st
      let (e, st) := accept expo st
      let st := if e then acceptAll dec (accept ['+', '-'] st).2 else st
      st.1

/-- Reads a decimal integer with an optional sign, as a 64-bit integer. -/
def readInt64? (cs : List Char) : Option Int :=
  let (neg, ds) := Decimal.sign cs
  if ds.isEmpty || !ds.all Decimal.isDigit then none
  else
    let n : Int := Decimal.digitValue ds
    let v := if neg then -n else n
    if -Int.pow 2 63 ≤ v ∧ v < Int.pow 2 63 then some v else none

/-- Reads a number token: a decimal number, optionally followed by p and a power of two.
Hexadecimal digits and underscores are refused. -/
def readToken (tok : List Char) : Option Binary64 :=
  let plainRead (cs : List Char) : Option Binary64 :=
    if cs.contains '_' || cs.contains 'x' || cs.contains 'X' then none
    else match Decimal.readFloat cs with
      | .value v => some v
      | _ => none
  match tok.idxOf? 'p' with
  | some i =>
    match plainRead (tok.take i), readInt64? (tok.drop (i + 1)) with
    | some v, some k => some (v.ldexp k)
    | _, _ => none
  | none => plainRead tok

/-- Reads a written size. -/
def parse (s : String) : Except String Int :=
  let s := Blank.trimString s
  let (mult, s) := match units.find? fun (u, _) => s.endsWith u with
    | some (u, n) => (n, Blank.trimString (String.ofList (s.toList.take (s.length - u.length))))
    | none => (1, s)
  let fail : Except String Int := .error ("invalid byte string: " ++ s)
  if s.isEmpty then fail
  else
    match readToken (numberToken s.toList) with
    | some v =>
      if v.ltZero then fail else .ok (Binary64.mul v (Binary64.ofInt mult)).toInt64
    | none => fail

end Size

end LineBatch
