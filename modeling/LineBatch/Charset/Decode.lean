import LineBatch.Charset.Basic
import LineBatch.Charset.Table.Jis0208
import LineBatch.Charset.Table.Jis0212
import LineBatch.Charset.Table.Gb18030
import LineBatch.Charset.Table.Big5
import LineBatch.Charset.Table.EucKr

/-
  Decoding a line to text.

  A multi-octet encoding reads a lead octet and, for most leads, one or
  more trail octets, and looks the pair up in its table. Where the
  sequence is broken, a replacement character U+FFFD stands for it;
  how many octets the broken part takes differs by encoding and is
  part of the rule: a trail octet that could start a character of its
  own (an ASCII one, mostly) is left to be read again, while a trail
  in the trail range whose pair has no character is taken with the
  lead. Each decoder below is a step that reads one character from the
  front and says how many further octets it took.

  ISO-2022-JP is read with a state, switched by escape sequences, that
  starts over on every line.

  Key definitions:
    * `Charset.decode`, `Encoding.step`
-/

namespace LineBatch

namespace Decoding

/-- The replacement character. -/
def bad : Char := '�'

/-- The character at a pointer of a table, or the replacement character. -/
def lookup (t : Array Char) (i : Nat) : Char :=
  match t[i]? with
  | some c => if c.toNat = 0 then bad else c
  | none => bad

/-- The character of a code point. -/
def cp (n : Nat) : Char := Char.ofNat n

/-- One step of Shift_JIS: the characters read and the further octets taken. -/
def shiftJis (b0 : UInt8) (rest : Bytes) : List Char × Nat :=
  let c0 := b0.toNat
  if c0 < 0x80 then ([cp c0], 0)
  else if 0xA1 ≤ c0 ∧ c0 < 0xE0 then ([cp (c0 + 0xFF61 - 0xA1)], 0)
  else if (0x81 ≤ c0 ∧ c0 < 0xA0) ∨ (0xE0 ≤ c0 ∧ c0 < 0xFD) then
    let row := 2 * (if c0 ≤ 0x9F then c0 - 0x70 else c0 - 0xB0) - 0x21
    match rest with
    | [] => ([bad], 0)
    | b1 :: _ =>
      let c1 := b1.toNat
      if c1 < 0x40 then ([bad], 0)
      else if c1 < 0x7F then ([lookup Table.jis0208 ((row - 1) * 94 + (c1 - 0x40))], 1)
      else if c1 = 0x7F then ([bad], 0)
      else if c1 < 0x9F then ([lookup Table.jis0208 ((row - 1) * 94 + (c1 - 0x41))], 1)
      else if c1 < 0xFD then ([lookup Table.jis0208 (row * 94 + (c1 - 0x9F))], 1)
      else ([bad], 1)
  else if c0 = 0x80 then ([cp 0x80], 0)
  else ([bad], 0)

/-- One step of EUC-JP. -/
def eucJp (b0 : UInt8) (rest : Bytes) : List Char × Nat :=
  let c0 := b0.toNat
  if c0 < 0x80 then ([cp c0], 0)
  else if c0 = 0x8E then
    match rest with
    | [] => ([bad], 0)
    | b1 :: _ =>
      let c1 := b1.toNat
      if c1 < 0xA1 then ([bad], 0)
      else if c1 > 0xDF then ([bad], if c1 = 0xFF then 0 else 1)
      else ([cp (c1 + 0xFF61 - 0xA1)], 1)
  else if c0 = 0x8F then
    match rest with
    | b1 :: b2 :: _ =>
      let c1 := b1.toNat
      let c2 := b2.toNat
      if c1 < 0xA1 ∨ 0xFE < c1 then ([bad], 0)
      else if c2 < 0xA1 ∨ 0xFE < c2 then ([bad], 1)
      else ([lookup Table.jis0212 ((c1 - 0xA1) * 94 + (c2 - 0xA1))], 2)
    | [b1] => ([bad], if 0xA1 ≤ b1.toNat ∧ b1.toNat < 0xFE then 1 else 0)
    | [] => ([bad], 0)
  else if 0xA1 ≤ c0 ∧ c0 ≤ 0xFE then
    match rest with
    | [] => ([bad], 0)
    | b1 :: _ =>
      let c1 := b1.toNat
      if c1 < 0xA1 ∨ 0xFE < c1 then ([bad], 0)
      else ([lookup Table.jis0208 ((c0 - 0xA1) * 94 + (c1 - 0xA1))], 1)
  else ([bad], 0)

/-- The character of a four-octet GB 18030 pointer below 39420, from the ranges. -/
def gbRange (p : Nat) : Char :=
  let start := (Table.gb18030Ranges.toList.filter fun (s, _) => s ≤ p).getLast?
  match start with
  | some (s, c) => cp (c + (p - s))
  | none => bad

/-- One step of GBK, or of GB 18030 when `four` allows four-octet sequences. -/
def gb (four : Bool) (b0 : UInt8) (rest : Bytes) : List Char × Nat :=
  let c0 := b0.toNat
  if c0 < 0x80 then ([cp c0], 0)
  else if c0 = 0x80 then (['€'], 0)
  else if c0 < 0xFF then
    match rest with
    | [] => ([bad], 0)
    | b1 :: more =>
      let c1 := b1.toNat
      let pair (t : Nat) : List Char × Nat := ([lookup Table.gb18030 ((c0 - 0x81) * 190 + t)], 1)
      if 0x40 ≤ c1 ∧ c1 < 0x7F then pair (c1 - 0x40)
      else if 0x80 ≤ c1 ∧ c1 < 0xFF then pair (c1 - 0x41)
      else if four ∧ 0x30 ≤ c1 ∧ c1 < 0x40 then
        match more with
        | b2 :: b3 :: _ =>
          let c2 := b2.toNat
          let c3 := b3.toNat
          if c2 < 0x81 ∨ c2 = 0xFF then ([bad], 0)
          else if c3 < 0x30 ∨ 0x3A ≤ c3 then ([bad], 0)
          else
            let p := (((c0 - 0x81) * 10 + (c1 - 0x30)) * 126 + (c2 - 0x81)) * 10 + (c3 - 0x30)
            if p < 39420 then ([gbRange p], 3)
            else if 189000 ≤ p ∧ p < 189000 + 0x100000 then ([cp (p - 189000 + 0x10000)], 3)
            else ([bad], 0)
        | _ => ([bad], 0)
      else ([bad], 0)
  else ([bad], 0)

/-- One step of Big5. Four pointers stand for two characters each. -/
def big5 (b0 : UInt8) (rest : Bytes) : List Char × Nat :=
  let c0 := b0.toNat
  if c0 < 0x80 then ([cp c0], 0)
  else if 0x81 ≤ c0 ∧ c0 < 0xFF then
    match rest with
    | [] => ([bad], 0)
    | b1 :: _ =>
      let c1 := b1.toNat
      let pointer (t : Nat) : List Char × Nat :=
        let i := (c0 - 0x81) * 157 + t
        if i = 1133 then (['Ê', '̄'], 1)
        else if i = 1135 then (['Ê', '̌'], 1)
        else if i = 1164 then (['ê', '̄'], 1)
        else if i = 1166 then (['ê', '̌'], 1)
        else ([lookup Table.big5 i], 1)
      if 0x40 ≤ c1 ∧ c1 < 0x7F then pointer (c1 - 0x40)
      else if 0xA1 ≤ c1 ∧ c1 < 0xFF then pointer (c1 - 0x62)
      else if c1 < 0x40 then ([bad], 0)
      else ([bad], 1)
  else ([bad], 0)

/-- One step of EUC-KR. -/
def eucKr (b0 : UInt8) (rest : Bytes) : List Char × Nat :=
  let c0 := b0.toNat
  if c0 < 0x80 then ([cp c0], 0)
  else if 0x81 ≤ c0 ∧ c0 < 0xFF then
    match rest with
    | [] => ([bad], 0)
    | b1 :: _ =>
      let c1 := b1.toNat
      let broken : List Char × Nat := ([bad], if c1 < 0x80 then 0 else 1)
      let index : Option Nat :=
        if c0 < 0xC7 then
          if 0x41 ≤ c1 ∧ c1 < 0x5B then some (178 * (c0 - 0x81) + (c1 - 0x41))
          else if 0x61 ≤ c1 ∧ c1 < 0x7B then some (178 * (c0 - 0x81) + (c1 - 0x61) + 26)
          else if 0x81 ≤ c1 ∧ c1 < 0xFF then some (178 * (c0 - 0x81) + (c1 - 0x81) + 52)
          else none
        else if 0xA1 ≤ c1 ∧ c1 < 0xFF then some (178 * (0xC7 - 0x81) + (c0 - 0xC7) * 94 + (c1 - 0xA1))
        else none
      match index with
      | some i =>
        match Table.eucKr[i]? with
        | some c => if c.toNat = 0 then broken else ([c], 1)
        | none => broken
      | none => broken
  else ([bad], 0)

/-- Reads a whole line with a step that gives the characters of its front and the number
of further octets they took. -/
def run (step : UInt8 → Bytes → List Char × Nat) : Bytes → List Char
  | [] => []
  | b :: rest =>
    let (cs, n) := step b rest
    cs ++ run step (rest.drop n)
termination_by l => l.length
decreasing_by
  simp only [List.length_drop, List.length_cons]
  omega

/-- The states of an ISO-2022-JP line. -/
inductive JisState where
  | ascii
  | katakana
  | jis0208
  | jis0212
  deriving DecidableEq

/-- One step of ISO-2022-JP in a state: the characters read, the further octets taken and
the state after. -/
def jisStep (st : JisState) (b : UInt8) (rest : Bytes) : List Char × Nat × JisState :=
  let c0 := b.toNat
  if c0 ≥ 0x80 then ([bad], 0, st)
  else if c0 = 0x1B then
    match rest with
    | b1 :: b2 :: more =>
      let c1 := b1.toNat
      let c2 := b2.toNat
      if c1 = 0x24 ∧ (c2 = 0x40 ∨ c2 = 0x42) then ([], 2, .jis0208)
      else if c1 = 0x28 ∧ (c2 = 0x42 ∨ c2 = 0x4A) then ([], 2, .ascii)
      else if c1 = 0x28 ∧ c2 = 0x49 then ([], 2, .katakana)
      else if c1 = 0x24 ∧ c2 = 0x28 then
        match more with
        | b3 :: _ => if b3.toNat = 0x44 then ([], 3, .jis0212) else ([bad], 0, st)
        | [] => ([bad], 0, st)
      else ([bad], 0, st)
    | _ => ([bad], 0, st)
  else
    match st with
    | .ascii => ([cp c0], 0, st)
    | .katakana => ([if c0 < 0x21 ∨ 0x60 ≤ c0 then bad else cp (c0 + 0xFF61 - 0x21)], 0, st)
    | _ =>
      if c0 = 0x0A then (['\n'], 0, .ascii)
      else
        match rest with
        | [] => ([bad], 0, st)
        | b1 :: _ =>
          let i := ((c0 + 256 - 0x21) % 256) * 94 + (b1.toNat + 256 - 0x21) % 256
          let table := if st = .jis0208 then Table.jis0208 else Table.jis0212
          ([lookup table i], 1, st)

/-- Reads a whole line with a step that also moves a state. -/
def runFrom {σ : Type} (step : σ → UInt8 → Bytes → List Char × Nat × σ) (st : σ) :
    Bytes → List Char
  | [] => []
  | b :: rest =>
    let (cs, n, st') := step st b rest
    cs ++ runFrom step st' (rest.drop n)
termination_by l => l.length
decreasing_by
  simp only [List.length_drop, List.length_cons]
  omega

end Decoding

namespace Charset

/-- The text of a line read in an encoding, as UTF-8 octets. UTF-8 lines are kept as they
are, invalid sequences and all. -/
def decode (c : Charset) (raw : Bytes) : Bytes :=
  match c.encoding with
  | .utf8 => raw
  | .utf16 _ => raw
  | .replacement => Utf8.encodeChar '�'
  | .userDefined =>
    Utf8.encodeChars (raw.map fun b => if b.toNat < 0x80 then Decoding.cp b.toNat
      else Decoding.cp (0xF780 + b.toNat - 0x80))
  | .singleByte t =>
    Utf8.encodeChars (raw.map fun b => if b.toNat < 0x80 then Decoding.cp b.toNat
      else Decoding.lookup t (b.toNat - 0x80))
  | .shiftJis => Utf8.encodeChars (Decoding.run Decoding.shiftJis raw)
  | .eucJp => Utf8.encodeChars (Decoding.run Decoding.eucJp raw)
  | .iso2022Jp => Utf8.encodeChars (Decoding.runFrom Decoding.jisStep .ascii raw)
  | .gbk => Utf8.encodeChars (Decoding.run (Decoding.gb false) raw)
  | .gb18030 => Utf8.encodeChars (Decoding.run (Decoding.gb true) raw)
  | .big5 => Utf8.encodeChars (Decoding.run Decoding.big5 raw)
  | .eucKr => Utf8.encodeChars (Decoding.run Decoding.eucKr raw)

end Charset

end LineBatch
