import LineBatch.Text.Utf8
import LineBatch.Text.Unicode

/-
  Quoted text.

  Messages show names, patterns and values between double quotes:
  printable characters stand as they are, a quote and a backslash get
  a backslash, the usual control characters get their letter escapes
  (\a \b \f \n \r \t \v), other characters below U+0080 and every
  invalid octet are written \xNN, and other characters that are not
  printable are written \uNNNN or \UNNNNNNNN.

  A text may instead stand between backquotes when it has no
  backquote, no control character but the tab, no U+FEFF and no
  invalid octet.

  Key definitions:
    * `Quoted.quoteBytes`, `Quoted.quote`
    * `Quoted.canBackquote`
-/

namespace LineBatch.Quoted

/-- Lower-case hexadecimal digits of a number, padded with zeros to `width`. -/
def hexPadded (n width : Nat) : String :=
  let ds := Nat.toDigits 16 n
  String.ofList (List.replicate (width - ds.length) '0' ++ ds)

/-- The escaped form of one character of a double-quoted text. -/
def escapeChar (c : Char) : String :=
  let n := c.toNat
  if c = '"' then "\\\""
  else if c = '\\' then "\\\\"
  else if Unicode.isPrint c then String.singleton c
  else if n = 7 then "\\a"
  else if n = 8 then "\\b"
  else if n = 12 then "\\f"
  else if n = 10 then "\\n"
  else if n = 13 then "\\r"
  else if n = 9 then "\\t"
  else if n = 11 then "\\v"
  else if n < 0x80 then "\\x" ++ hexPadded n 2
  else if n < 0x10000 then "\\u" ++ hexPadded n 4
  else "\\U" ++ hexPadded n 8

/-- The body of a double-quoted byte string, without the quotes. -/
def escapeBytes : Bytes → String
  | [] => ""
  | b :: rest =>
    let d := Utf8.decodeRune b rest
    let piece :=
      if Utf8.startsValid b rest then escapeChar d.1 else "\\x" ++ hexPadded b.toNat 2
    piece ++ escapeBytes (rest.drop d.2)
termination_by l => l.length
decreasing_by
  simp only [List.length_drop, List.length_cons]
  omega

/-- A byte string between double quotes. -/
def quoteBytes (bs : Bytes) : String := "\"" ++ escapeBytes bs ++ "\""

/-- A string between double quotes. -/
def quote (s : String) : String := quoteBytes (Utf8.encode s)

/-- Whether a string can stand between backquotes unchanged. -/
def canBackquote (s : String) : Bool :=
  s.toList.all fun c =>
    let n := c.toNat
    if n ≥ 0x80 then n ≠ 0xFEFF
    else !((n < 32 && n ≠ 9) || c = '`' || n = 0x7F)

end LineBatch.Quoted
