import LineBatch.Text.Blank

/-
  Keywords of settings.

  Names of levels, formats, policies and encodings are read without
  the blanks around them and without regard to case. Lower case is
  the simple Unicode mapping; the only characters outside ASCII whose
  lower case lies inside it are U+0130 (capital I with dot above),
  which becomes "i", and the Kelvin sign U+212A, which becomes "k".
  Keywords are ASCII, so other characters are kept as they are: they
  can never be part of a match.

  Key definitions:
    * `Keyword.lowerChar`, `Keyword.normalize`
-/

namespace LineBatch.Keyword

/-- The lower case of a character, where it is ASCII. -/
def lowerChar (c : Char) : Char :=
  if 'A' ≤ c && c ≤ 'Z' then Char.ofNat (c.toNat + 32)
  else if c.toNat = 0x130 then 'i'
  else if c.toNat = 0x212A then 'k'
  else c

/-- A name as keywords are compared: trimmed of blanks, in lower case. -/
def normalize (s : String) : String := String.ofList ((Blank.trimString s).toList.map lowerChar)

end LineBatch.Keyword
