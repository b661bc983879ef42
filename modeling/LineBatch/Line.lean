import LineBatch.Error
import LineBatch.Pattern.Regex

/-
  Lines and their fields.

  A line is the text read from an input, without its terminator,
  together with the separator pattern it was split on and the fields
  the split gave. An empty text has no fields at all; any other text
  has the pieces between the matches of the separator, so it has at
  least one field.

  A parser turns a raw line into a line, or fails with a failure that
  the reader reports. The splitting parser needs a valid pattern: it
  is built once, and building it with an invalid pattern is an abort
  of the program, not an error to report.

  Key definitions:
    * `Line`, `Line.ofRegex`, `Line.make`, `Line.field?`
    * `Parser`, `Parser.splitting`
    * `Line.fields_ofRegex_nil`
-/

namespace LineBatch

------------------------------------------------------------
-- Lines
------------------------------------------------------------

/-- A parsed line: its text, the separator it was split on, and its fields. -/
structure Line where
  text : Bytes
  separator : String
  fields : List Bytes
  deriving Repr, DecidableEq

namespace Line

/-- Splits a text on a compiled separator; an empty text gets no fields. -/
def ofRegex (re : Regex) (text : Bytes) : Line :=
  { text, separator := re.source, fields := if text.isEmpty then [] else re.split text }

/-- Compiles the separator and splits a text on it. A separator that does not compile
is reported with the separator quoted. -/
def make (text : Bytes) (separator : String) : Except Failure Line :=
  match Regex.compile separator with
  | .ok re => .ok (ofRegex re text)
  | .error e =>
    .error (.wrap ("compile separator " ++ Quoted.quote separator ++ ": ")
      (.plain e.message) "")

/-- The number of fields. -/
def numFields (l : Line) : Nat := l.fields.length

/-- The field at a position, if the line has one there. -/
def field? (l : Line) (i : Int) : Option Bytes :=
  if i < 0 then none else l.fields[i.toNat]?

/-- An empty text has no fields. -/
theorem fields_ofRegex_nil (re : Regex) : (ofRegex re []).fields = [] := rfl

/-- A negative position holds no field. -/
theorem field?_neg (l : Line) (i : Int) (h : i < 0) : l.field? i = none := by
  simp [field?, h]

end Line

------------------------------------------------------------
-- Parsers
------------------------------------------------------------

/-- A way to turn raw lines into lines. -/
structure Parser where
  parse : Bytes → Except Failure Line

namespace Parser

/-- The parser that splits every line on a separator. An invalid separator gives the
text of the abort instead of a parser. -/
def splitting (separator : String) : Except String Parser :=
  match Regex.compile separator with
  | .ok re => .ok ⟨fun raw => .ok (Line.ofRegex re raw)⟩
  | .error e => .error (Regex.failureText separator e)

/-- A parser that refuses the lines a pattern finds a match in, with the failure `refuse`
makes of each, and hands the others to `inner`. -/
def refusing (re : Regex) (refuse : Bytes → Failure) (inner : Parser) : Parser :=
  ⟨fun raw => if re.findsIn raw then .error (refuse raw) else inner.parse raw⟩

/-- The separator of lines when none is given: runs of white space. -/
def defaultSeparator : String := "\\s+"

end Parser

end LineBatch
