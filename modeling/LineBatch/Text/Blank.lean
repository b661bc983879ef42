import LineBatch.Text.Utf8

/-
  Blank characters and trimming.

  A character is blank when it has the Unicode White_Space property:
  the ASCII controls tab, line feed, vertical tab, form feed and
  carriage return, the space, U+0085 and U+00A0, and the spaces of
  the general punctuation and ideographic blocks. A line is blank when
  all its characters are blank. Invalid octets read as U+FFFD, which is
  not blank.

  Key definitions:
    * `isBlank`
    * `Blank.trimStart`, `Blank.trimEnd`, `Blank.trim`
    * `Blank.trimString`, `Blank.isBlankLine`
-/

namespace LineBatch

/-- The Unicode White_Space property. -/
def isBlank (c : Char) : Bool :=
  let n := c.toNat
  (9 ≤ n && n ≤ 13) || n = 32 || n = 0x85 || n = 0xA0 || n = 0x1680
    || (0x2000 ≤ n && n ≤ 0x200A) || n = 0x2028 || n = 0x2029 || n = 0x202F
    || n = 0x205F || n = 0x3000

namespace Blank

/-- The characters that are blank, each with its UTF-8 octets; every one takes at most three. -/
def encodings : List Bytes :=
  ([9, 10, 11, 12, 13, 32, 0x85, 0xA0, 0x1680, 0x2000, 0x2001, 0x2002, 0x2003, 0x2004,
    0x2005, 0x2006, 0x2007, 0x2008, 0x2009, 0x200A, 0x2028, 0x2029, 0x202F, 0x205F,
    0x3000] : List Nat).map fun n => Utf8.encodeChar (Char.ofNat n)

/-- Drops blank characters from the front of a byte string. -/
def trimStart : Bytes → Bytes
  | [] => []
  | b :: rest =>
    let d := Utf8.decodeRune b rest
    if isBlank d.1 && Utf8.startsValid b rest then trimStart (rest.drop d.2) else b :: rest
termination_by l => l.length
decreasing_by
  simp only [List.length_drop, List.length_cons]
  omega

/-- The blank character whose encoding ends a byte string, as the octets to remove. -/
def blankSuffix? (bs : Bytes) : Option Nat :=
  (encodings.find? fun e => e.length ≤ bs.length && bs.drop (bs.length - e.length) == e).map
    List.length

/-- Drops blank characters from the end of a byte string. -/
def trimEnd (bs : Bytes) : Bytes :=
  go bs.length bs
where
  /-- Each round removes at least one octet, so the length bounds the rounds. -/
  go : Nat → Bytes → Bytes
    | 0, bs => bs
    | fuel + 1, bs =>
      match blankSuffix? bs with
      | some k => if k = 0 then bs else go fuel (bs.take (bs.length - k))
      | none => bs

/-- Drops blank characters from both ends. -/
def trim (bs : Bytes) : Bytes := trimEnd (trimStart bs)

/-- Whether a byte string holds only blank characters. -/
def isBlankLine (bs : Bytes) : Bool := (trimStart bs).isEmpty

/-- Drops blank characters from both ends of a string. -/
def trimString (s : String) : String :=
  String.ofList ((s.toList.dropWhile isBlank).reverse.dropWhile isBlank).reverse

end Blank

end LineBatch
