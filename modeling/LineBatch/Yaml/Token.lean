/-
  Tokens of YAML text.

  The scanner turns the characters of a document into tokens: the
  ends of the stream, directives, document markers, the starts and
  ends of block and flow collections, entry, key and value
  indicators, anchors, aliases, tags and scalars. Every token carries
  the positions where it starts and stops.

  A failure names the position it was found at and, for most, the
  position of the construct being read. Its text gives the line of
  the construct when that is not the first line, else the line of the
  failure when that is not the first; failures of the scanner count
  lines from one, those of the parser from zero.

  Key definitions:
    * `Mark`, `Style`, `TokenKind`, `Token`
    * `Fault`, `Fault.text`
    * the character classes `isBreak`, `isBlank`, `isBlankz`, ...
-/

namespace LineBatch

namespace Yaml

/-- A position in the text: characters read, line and column, all counted from zero. -/
structure Mark where
  index : Nat := 0
  line : Nat := 0
  column : Nat := 0
  deriving Repr, Inhabited, BEq

/-- How a scalar was written. -/
inductive Style where
  | plain
  | singleQuoted
  | doubleQuoted
  | literal
  | folded
  deriving Repr, Inhabited, BEq

/-- What a token is. -/
inductive TokenKind where
  | streamStart
  | streamEnd
  | versionDirective (major minor : Nat)
  | tagDirective (handle pfx : String)
  | documentStart
  | documentEnd
  | blockSequenceStart
  | blockMappingStart
  | blockEnd
  | flowSequenceStart
  | flowSequenceEnd
  | flowMappingStart
  | flowMappingEnd
  | blockEntry
  | flowEntry
  | key
  | value
  | alias (name : String)
  | anchor (name : String)
  | tag (handle suffix : String)
  | scalar (text : String) (style : Style)
  deriving Repr, Inhabited, BEq

/-- A token with where it starts and stops. -/
structure Token where
  kind : TokenKind
  start : Mark
  stop : Mark
  deriving Repr, Inhabited

/-- Why reading YAML failed. -/
inductive Fault where
  /-- A failure of the scanner or the parser at a position, within a construct that
  starts at another. -/
  | marked (scanner : Bool) (context problem : Mark) (message : String)
  /-- A failure with no position. -/
  | plain (message : String)
  deriving Repr, Inhabited

namespace Fault

/-- The text of a failure, with the line it concerns unless that is the first. -/
def text : Fault → String
  | .marked scanner context problem message =>
    let shift := if scanner then 1 else 0
    let line := if context.line ≠ 0 then context.line + shift
      else if problem.line ≠ 0 then problem.line + shift else 0
    (if line ≠ 0 then "line " ++ toString line ++ ": " else "") ++ message
  | .plain message => message

end Fault

------------------------------------------------------------
-- Character classes
------------------------------------------------------------

/-- The character standing for the end of the text. -/
def endChar : Char := '\x00'

/-- A line break: carriage return, line feed, next line, line or paragraph separator. -/
def isBreak (c : Char) : Bool :=
  c = '\r' || c = '\n' || c = '\x85' || c.toNat = 0x2028 || c.toNat = 0x2029

/-- A space or a tab. -/
def isBlank (c : Char) : Bool := c = ' ' || c = '\t'

/-- The end of the text. -/
def isZ (c : Char) : Bool := c = endChar

/-- A line break or the end of the text. -/
def isBreakz (c : Char) : Bool := isBreak c || isZ c

/-- A blank, a line break or the end of the text. -/
def isBlankz (c : Char) : Bool := isBlank c || isBreakz c

/-- A character of an anchor name or a tag handle: a letter, a digit, '_' or '-'. -/
def isAlpha (c : Char) : Bool :=
  ('0' ≤ c && c ≤ '9') || ('a' ≤ c && c ≤ 'z') || ('A' ≤ c && c ≤ 'Z') || c = '_' || c = '-'

/-- A decimal digit. -/
def isDigit (c : Char) : Bool := '0' ≤ c && c ≤ '9'

/-- The value of a hexadecimal digit. -/
def hexValue? (c : Char) : Option Nat :=
  if '0' ≤ c && c ≤ '9' then some (c.toNat - 48)
  else if 'a' ≤ c && c ≤ 'f' then some (c.toNat - 87)
  else if 'A' ≤ c && c ≤ 'F' then some (c.toNat - 55)
  else none

/-- Whether a character may appear in YAML text: tab, line feed, carriage return, the
printable ASCII characters, next line, and the printable planes above them. -/
def isPrintable (c : Char) : Bool :=
  let v := c.toNat
  v = 0x09 || v = 0x0A || v = 0x0D || (0x20 ≤ v && v ≤ 0x7E) || v = 0x85
    || (0xA0 ≤ v && v ≤ 0xD7FF) || (0xE000 ≤ v && v ≤ 0xFFFD) || (0x10000 ≤ v && v ≤ 0x10FFFF)

end Yaml

end LineBatch
