import Std.Data.HashSet
import LineBatch.Charset.Decode

/-
  The size of text written back in an encoding.

  Text is measured by the octets it takes when encoded, where a
  character that the encoding cannot write takes the one octet of its
  substitute, and so does each octet that is not valid UTF-8 (read as
  the replacement character). UTF-8 text is measured by its octets as
  they are. The sizes per character are these:

    * single-octet encodings: one octet per character;
    * Shift_JIS: two for a character of the JIS X 0208 table, else one
      (ASCII and the half-width katakana included);
    * EUC-JP: two for JIS X 0208 and for half-width katakana, three
      for a character found only in JIS X 0212, else one;
    * ISO-2022-JP: one per ASCII character, two per JIS X 0208
      character, and three for each escape sequence that switches
      between the two, including the one back to ASCII at the end or
      before a character it cannot write;
    * GBK: two for a character of the table, one for the euro sign,
      which has an octet of its own, else one;
    * GB 18030: two for a character of the table, one for ASCII, and
      four for every other character, since it can write them all;
    * Big5 and EUC-KR: two for a character of the table, else one;
    * the replacement encoding writes UTF-8, where an invalid octet
      becomes the three octets of U+FFFD.

  Key definitions:
    * `Charset.encodedLength`
-/

namespace LineBatch

namespace Measure

/-- The code points of the characters of a table, for membership tests. -/
def charsOf (t : Array Char) : Std.HashSet Nat :=
  t.foldl (fun s c => if c.toNat = 0 then s else s.insert c.toNat) {}

def jis0208Chars : Std.HashSet Nat := charsOf Table.jis0208
def jis0212Chars : Std.HashSet Nat := charsOf Table.jis0212
def gbChars : Std.HashSet Nat := charsOf Table.gb18030
def big5Chars : Std.HashSet Nat := charsOf Table.big5
def eucKrChars : Std.HashSet Nat := charsOf Table.eucKr

/-- Whether a character is a half-width katakana. -/
def isHalfKatakana (c : Char) : Bool := 0xFF61 ≤ c.toNat && c.toNat < 0xFFA0

/-- The characters of a text, each octet that is not valid UTF-8 read as U+FFFD. -/
def chars (text : Bytes) : List Char := Utf8.runes text

/-- The size of one character in an encoding without shift states. -/
def width (e : Encoding) (c : Char) : Nat :=
  let ascii := c.toNat < 0x80
  match e with
  | .shiftJis => if ascii || isHalfKatakana c then 1 else if jis0208Chars.contains c.toNat then 2 else 1
  | .eucJp =>
    if ascii then 1 else if isHalfKatakana c || jis0208Chars.contains c.toNat then 2
    else if jis0212Chars.contains c.toNat then 3 else 1
  | .gbk => if ascii || c = '€' then 1 else if gbChars.contains c.toNat then 2 else 1
  | .gb18030 => if ascii then 1 else if gbChars.contains c.toNat then 2 else 4
  | .big5 => if ascii then 1 else if big5Chars.contains c.toNat then 2 else 1
  | .eucKr => if ascii then 1 else if eucKrChars.contains c.toNat then 2 else 1
  | _ => 1

/-- The size of a text in ISO-2022-JP, given whether the writer is in its JIS state. -/
def iso2022Jp (jis : Bool) : List Char → Nat
  | [] => if jis then 3 else 0
  | c :: rest =>
    if c.toNat < 0x80 then (if jis then 3 else 0) + 1 + iso2022Jp false rest
    else if jis0208Chars.contains c.toNat || isHalfKatakana c then
      (if jis then 0 else 3) + 2 + iso2022Jp true rest
    else (if jis then 3 else 0) + 1 + iso2022Jp false rest

end Measure

namespace Charset

/-- The number of octets a text takes in this encoding. -/
def encodedLength (c : Charset) (text : Bytes) : Nat :=
  if c.isUtf8 then text.length
  else
    match c.encoding with
    | .utf8 => text.length
    | .replacement => (Measure.chars text).foldl (fun n ch => n + Utf8.charWidth ch) 0
    | .iso2022Jp => Measure.iso2022Jp false (Measure.chars text)
    | e => (Measure.chars text).foldl (fun n ch => n + Measure.width e ch) 0

end Charset

end LineBatch
