import LineBatch.Decimal.Fixed

/-
  Durations, counted in nanoseconds.

  Two ways of writing a duration:

    * for people: under a minute, the seconds rounded to a whole
      number (a half going to the even one) and s; under an hour,
      minutes and seconds, 1m 5s; else hours, minutes and seconds,
      25h 1m 1s. The seconds, minutes and hours are each computed as a
      double from whole units and the rest, then cut toward zero.
    * compactly, as log records show it: 0s for zero; under a second
      in the largest of ns, µs and ms that fits, with the fraction's
      trailing zeros left out (1.5ms); else hours, minutes and seconds
      run together (1h2m3.5s), leaving out leading zero units.

  Key definitions:
    * `Duration`, `Duration.human`, `Duration.compact`
-/

namespace LineBatch

/-- A span of time in nanoseconds. -/
abbrev Duration := Int

namespace Duration

def second : Int := 1000000000
def minute : Int := 60 * second
def hour : Int := 60 * minute

/-- The duration in a unit as a double: whole units plus the rest, each rounded. -/
def inUnit (d unit : Int) : Binary64 :=
  Binary64.add (Binary64.ofInt (d.tdiv unit)) (Binary64.div (Binary64.ofInt (d.tmod unit)) (Binary64.ofInt unit))

/-- The whole number of units, cut toward zero from the double. -/
def wholeUnits (d unit : Int) : Int := ((inUnit d unit).truncate?).getD 0

/-- A duration for people: seconds under a minute, then minutes and seconds, then hours,
minutes and seconds. -/
def human (d : Duration) : String :=
  if d < minute then (inUnit d second).fixed 0 ++ "s"
  else if d < hour then
    toString (wholeUnits d minute) ++ "m " ++ toString (wholeUnits d second % 60) ++ "s"
  else
    toString (wholeUnits d hour) ++ "h " ++ toString (wholeUnits d minute % 60) ++ "m " ++
      toString (wholeUnits d second % 60) ++ "s"

/-- The fraction v / 10^prec as ".digits" without trailing zeros (nothing when it is zero),
and the whole part. -/
def fraction (v prec : Nat) : String × Nat :=
  let frac := v % Nat.pow 10 prec
  let ds := Nat.toDigits 10 frac
  let ds := List.replicate (prec - ds.length) '0' ++ ds
  let ds := (ds.reverse.dropWhile (· = '0')).reverse
  ((if ds.isEmpty then "" else "." ++ String.ofList ds), v / Nat.pow 10 prec)

/-- A duration as log records show it: 1.5ms, 2m3s, 1h0m0s. -/
def compact (d : Duration) : String :=
  let u := d.natAbs
  let sign := if d < 0 then "-" else ""
  if u = 0 then "0s"
  else if u < 1000000000 then
    let (prec, unit) : Nat × String :=
      if u < 1000 then (0, "ns") else if u < 1000000 then (3, "µs") else (6, "ms")
    let (frac, whole) := fraction u prec
    sign ++ toString whole ++ frac ++ unit
  else
    let (frac, secs) := fraction u 9
    let s := toString (secs % 60) ++ frac ++ "s"
    let mins := secs / 60
    if mins = 0 then sign ++ s
    else
      let m := toString (mins % 60) ++ "m" ++ s
      let hours := mins / 60
      if hours = 0 then sign ++ m else sign ++ toString hours ++ "h" ++ m

end Duration

end LineBatch
