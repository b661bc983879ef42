import LineBatch.Text.Unicode
import LineBatch.Text.Quoted
import LineBatch.Pattern.Parse
import LineBatch.Pattern.Search

/-
  Compiled patterns with their text.

  Key definitions:
    * `Regex`, `Regex.compile`, `Regex.split`, `Regex.findsIn`
    * `Regex.failureText`
-/

namespace LineBatch

/-- A pattern with the text it was written as. -/
structure Regex where
  source : String
  program : Pattern.Program

namespace Regex

/-- Reads and compiles a pattern. Backslash-p groups are the Unicode categories and
scripts. -/
def compile (s : String) : Except Pattern.ParseError Regex := do
  let node ← Pattern.parseWith Unicode.group? s
  pure { source := s, program := Pattern.Program.compile node }

/-- Splits a byte string around the matches of the pattern. -/
def split (re : Regex) (bs : Bytes) : List Bytes := re.program.split bs

/-- Whether the pattern matches somewhere in a byte string. -/
def findsIn (re : Regex) (bs : Bytes) : Bool :=
  (re.program.search ⟨bs.toArray⟩ 0).isSome

/-- The report of a pattern that a caller required to be valid: the pattern between
backquotes when it can stand there, else between double quotes, then the fault. -/
def failureText (s : String) (e : Pattern.ParseError) : String :=
  let shown := if Quoted.canBackquote s then "`" ++ s ++ "`" else Quoted.quote s
  "regexp: Compile(" ++ shown ++ "): " ++ e.message

end Regex

end LineBatch
