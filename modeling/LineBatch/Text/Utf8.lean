/-
  Byte strings and their reading as UTF-8.

  A source may hold any bytes, so the texts read from it are byte
  strings (lists of octets). They are shown as text where they are
  valid UTF-8 and as hexadecimal otherwise.

  Reading runes follows the usual forgiving rule: an octet that does
  not start a complete, shortest-form sequence stands for U+FFFD and is
  one octet wide.

  Key definitions:
    * `Bytes`
    * `Utf8.encodeChar`, `Utf8.encode`
    * `Utf8.decodeRune`, `Utf8.runes`, `Utf8.runeSpans`
    * `Utf8.isValid`, `Utf8.toString?`
    * `Bytes.hex`, `Bytes.ofHex?`, `Bytes.replaceAll`
-/

namespace LineBatch

/-- Raw octets, as read from a source. -/
abbrev Bytes := List UInt8

namespace Utf8

------------------------------------------------------------
-- Encoding
------------------------------------------------------------

/-- The UTF-8 octets of one character. -/
def encodeChar (c : Char) : Bytes :=
  let n := c.toNat
  if n < 0x80 then [n.toUInt8]
  else if n < 0x800 then
    [(0xC0 + n / 64).toUInt8, (0x80 + n % 64).toUInt8]
  else if n < 0x10000 then
    [(0xE0 + n / 4096).toUInt8, (0x80 + n / 64 % 64).toUInt8, (0x80 + n % 64).toUInt8]
  else
    [(0xF0 + n / 262144).toUInt8, (0x80 + n / 4096 % 64).toUInt8,
      (0x80 + n / 64 % 64).toUInt8, (0x80 + n % 64).toUInt8]

/-- The UTF-8 octets of a list of characters. -/
def encodeChars (cs : List Char) : Bytes :=
  cs.flatMap encodeChar

/-- The UTF-8 octets of a string. -/
def encode (s : String) : Bytes :=
  encodeChars s.toList

/-- The width in octets of a character written in UTF-8. -/
def charWidth (c : Char) : Nat :=
  (encodeChar c).length

------------------------------------------------------------
-- Decoding
------------------------------------------------------------

/-- The character read for an octet that starts no valid sequence. -/
def replacement : Char := '�'

/-- An octet of the form 10xxxxxx. -/
def isTail (b : UInt8) : Bool := 0x80 ≤ b.toNat && b.toNat ≤ 0xBF

/-- The range allowed for the second octet after a given lead octet: narrower than a plain
tail after E0, ED, F0 and F4, which rules out overlong forms, surrogates and values above
U+10FFFF. -/
def secondRange (lead : Nat) : Nat × Nat :=
  if lead = 0xE0 then (0xA0, 0xBF)
  else if lead = 0xED then (0x80, 0x9F)
  else if lead = 0xF0 then (0x90, 0xBF)
  else if lead = 0xF4 then (0x80, 0x8F)
  else (0x80, 0xBF)

/-- Whether an octet lies within a range. -/
def inRange (r : Nat × Nat) (b : UInt8) : Bool := r.1 ≤ b.toNat && b.toNat ≤ r.2

/-- The first character of the octets `b0 :: rest`, and how many octets of `rest` it takes.
An invalid or incomplete sequence reads as U+FFFD and takes none of `rest`. -/
def decodeRune (b0 : UInt8) (rest : Bytes) : Char × Nat :=
  let x := b0.toNat
  if x < 0x80 then (Char.ofNat x, 0)
  else if x < 0xC2 then (replacement, 0)
  else if x < 0xE0 then
    match rest with
    | b1 :: _ =>
      if isTail b1 then (Char.ofNat ((x % 32) * 64 + b1.toNat % 64), 1)
      else (replacement, 0)
    | [] => (replacement, 0)
  else if x < 0xF0 then
    match rest with
    | b1 :: b2 :: _ =>
      if inRange (secondRange x) b1 && isTail b2 then
        (Char.ofNat ((x % 16) * 4096 + (b1.toNat % 64) * 64 + b2.toNat % 64), 2)
      else (replacement, 0)
    | _ => (replacement, 0)
  else if x < 0xF5 then
    match rest with
    | b1 :: b2 :: b3 :: _ =>
      if inRange (secondRange x) b1 && isTail b2 && isTail b3 then
        (Char.ofNat ((x % 8) * 262144 + (b1.toNat % 64) * 4096 + (b2.toNat % 64) * 64
          + b3.toNat % 64), 3)
      else (replacement, 0)
    | _ => (replacement, 0)
  else (replacement, 0)

/-- Whether the first character of `b0 :: rest` is a valid sequence (possibly the encoding
of U+FFFD itself). -/
def startsValid (b0 : UInt8) (rest : Bytes) : Bool :=
  (decodeRune b0 rest).2 > 0 || b0.toNat < 0x80

theorem decodeRune_take_le (b0 : UInt8) (rest : Bytes) :
    (decodeRune b0 rest).2 ≤ rest.length := by
  rcases rest with _ | ⟨b1, _ | ⟨b2, _ | ⟨b3, t⟩⟩⟩ <;>
    simp only [decodeRune] <;> (repeat' split) <;> simp

/-- The characters of a byte string, each invalid octet read as U+FFFD. -/
def runes : Bytes → List Char
  | [] => []
  | b :: rest =>
    let d := decodeRune b rest
    d.1 :: runes (rest.drop d.2)
termination_by l => l.length
decreasing_by
  simp only [List.length_drop, List.length_cons]
  omega

/-- Each character of a byte string with its offset and width in octets, starting at `base`. -/
def runeSpans (base : Nat) : Bytes → List (Char × Nat × Nat)
  | [] => []
  | b :: rest =>
    let d := decodeRune b rest
    (d.1, base, d.2 + 1) :: runeSpans (base + d.2 + 1) (rest.drop d.2)
termination_by l => l.length
decreasing_by
  simp only [List.length_drop, List.length_cons]
  omega

/-- The octets of each character of a byte string, an invalid octet standing alone. -/
def pieces : Bytes → List Bytes
  | [] => []
  | b :: rest =>
    let n := (decodeRune b rest).2
    (b :: rest.take n) :: pieces (rest.drop n)
termination_by l => l.length
decreasing_by
  simp only [List.length_drop, List.length_cons]
  omega

/-- Whether every octet belongs to a valid UTF-8 sequence. -/
def isValid : Bytes → Bool
  | [] => true
  | b :: rest =>
    startsValid b rest && isValid (rest.drop (decodeRune b rest).2)
termination_by l => l.length
decreasing_by
  simp only [List.length_drop, List.length_cons]
  omega

/-- The text of a byte string that is valid UTF-8. -/
def toString? (bs : Bytes) : Option String :=
  if isValid bs then some (String.ofList (runes bs)) else none

/-- The text of a byte string, each invalid octet read as U+FFFD. -/
def lossy (bs : Bytes) : String :=
  String.ofList (runes bs)

end Utf8

namespace Bytes

/-- The octets of a string written in UTF-8. -/
def ofString (s : String) : Bytes := Utf8.encode s

/-- A digit of base sixteen, lower case. -/
def hexDigit (n : Nat) : Char :=
  if n < 10 then Char.ofNat (48 + n) else Char.ofNat (87 + n)

/-- Lower-case hexadecimal, two digits per octet. -/
def hex (bs : Bytes) : String :=
  String.ofList (bs.flatMap fun b => [hexDigit (b.toNat / 16), hexDigit (b.toNat % 16)])

/-- The value of a hexadecimal digit of either case. -/
def hexValue? (c : Char) : Option Nat :=
  if '0' ≤ c ∧ c ≤ '9' then some (c.toNat - 48)
  else if 'a' ≤ c ∧ c ≤ 'f' then some (c.toNat - 87)
  else if 'A' ≤ c ∧ c ≤ 'F' then some (c.toNat - 55)
  else none

/-- The octets written by pairs of hexadecimal digits. -/
def ofHexChars : List Char → Option Bytes
  | [] => some []
  | a :: b :: rest => do
    let x ← hexValue? a
    let y ← hexValue? b
    let tail ← ofHexChars rest
    pure ((x * 16 + y).toUInt8 :: tail)
  | [_] => none

/-- The octets written in hexadecimal, two digits each. -/
def ofHex? (s : String) : Option Bytes := ofHexChars s.toList

/-- Shows a byte string as text, reading invalid octets as U+FFFD. -/
def lossy (bs : Bytes) : String := Utf8.lossy bs

/-- Replaces every occurrence of a non-empty pattern, from left to right without overlaps. -/
def replaceAll (pat rep : Bytes) : Bytes → Bytes
  | [] => []
  | b :: rest =>
    if _h : pat.length > 0 ∧ pat.isPrefixOf (b :: rest) = true then
      rep ++ replaceAll pat rep ((b :: rest).drop pat.length)
    else b :: replaceAll pat rep rest
termination_by l => l.length
decreasing_by
  · simp only [List.length_drop, List.length_cons]; omega
  · simp only [List.length_cons]; omega

end Bytes

end LineBatch
