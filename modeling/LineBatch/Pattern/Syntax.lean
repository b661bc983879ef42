import LineBatch.Text.CaseFold

/-
  The syntax tree of a pattern.

  A pattern is read into a tree whose leaves match one character
  (a literal, a class, the dot) or assert something about a position
  (start or end of text or line, a word boundary). Inner nodes join,
  choose and repeat. Choices are ordered: the left one is preferred,
  and a greedy repetition prefers one more round.

  Key definitions:
    * `Assertion`, `ClassItem`, `CharClass`, `CharClass.contains`
    * `Node`, `Node.nullable`
    * `Groups.digit`, `Groups.space`, `Groups.word`, `Groups.posix?`
-/

namespace LineBatch.Pattern

/-- A condition on a position of the text, matched without taking a character. -/
inductive Assertion where
  /-- At the start of the text or after a line feed. -/
  | beginLine
  /-- At the end of the text or before a line feed. -/
  | endLine
  /-- At the start of the text. -/
  | beginText
  /-- At the end of the text. -/
  | endText
  /-- Between a word character and a non-word character. -/
  | wordBoundary
  /-- Not between a word character and a non-word character. -/
  | notWordBoundary
  deriving DecidableEq, Repr

/-- Whether a list of ranges holds a code point. -/
def inRanges (rs : List (Nat × Nat)) (n : Nat) : Bool :=
  rs.any fun (lo, hi) => lo ≤ n && n ≤ hi

/-- A part of a character class. -/
inductive ClassItem where
  /-- The characters from `lo` to `hi`. -/
  | span (lo hi : Nat)
  /-- A named group of ranges, or its complement. Under case folding the group is folded
  before it is complemented. -/
  | group (ranges : List (Nat × Nat)) (negated : Bool)
  deriving Repr

/-- A set of characters: the union of its items, folded for case if `fold`, and then
complemented if `negated`. -/
structure CharClass where
  items : List ClassItem
  fold : Bool
  negated : Bool
  deriving Repr

/-- Whether a class item holds a character, folding case if asked. -/
def ClassItem.contains (fold : Bool) (c : Char) : ClassItem → Bool
  | .span lo hi =>
    if fold then (CaseFold.orbit c).any fun o => lo ≤ o.toNat && o.toNat ≤ hi
    else lo ≤ c.toNat && c.toNat ≤ hi
  | .group rs neg =>
    let inside :=
      if fold then (CaseFold.orbit c).any fun o => inRanges rs o.toNat else inRanges rs c.toNat
    if neg then !inside else inside

/-- Whether a class holds a character. -/
def CharClass.contains (cls : CharClass) (c : Char) : Bool :=
  let inside := cls.items.any (ClassItem.contains cls.fold c)
  if cls.negated then !inside else inside

/-- A pattern. Groups do not change what is matched, so they are kept only as structure. -/
inductive Node where
  /-- Matches the empty text. -/
  | empty
  /-- Matches nothing. -/
  | noMatch
  /-- One character, or any character of its case orbit when `fold` is set. -/
  | literal (c : Char) (fold : Bool)
  /-- One character of a class. -/
  | oneOf (cls : CharClass)
  /-- Any one character. -/
  | anyChar
  /-- Any one character but the line feed. -/
  | anyButNewline
  /-- A condition on the position. -/
  | assert (a : Assertion)
  /-- The first pattern, then the second. -/
  | cat (a b : Node)
  /-- The first pattern, or else the second. -/
  | alt (a b : Node)
  /-- Any number of rounds. -/
  | star (body : Node) (greedy : Bool)
  /-- One or more rounds. -/
  | plus (body : Node) (greedy : Bool)
  /-- Zero or one round. -/
  | quest (body : Node) (greedy : Bool)
  /-- From `min` to `max` rounds; no `max` means no upper bound. -/
  | rep (body : Node) (min : Nat) (max : Option Nat) (greedy : Bool)
  /-- A parenthesised pattern. -/
  | group (body : Node)
  deriving Repr

/-- Whether a pattern can match the empty text. -/
def Node.nullable : Node → Bool
  | .empty => true
  | .noMatch => false
  | .literal _ _ => false
  | .oneOf _ => false
  | .anyChar => false
  | .anyButNewline => false
  | .assert _ => true
  | .cat a b => a.nullable && b.nullable
  | .alt a b => a.nullable || b.nullable
  | .star _ _ => true
  | .plus b _ => b.nullable
  | .quest _ _ => true
  | .rep b m _ _ => m == 0 || b.nullable
  | .group b => b.nullable

/-- Joins a list of patterns in order; the empty list is the empty pattern. -/
def Node.catAll : List Node → Node
  | [] => .empty
  | [n] => n
  | n :: ns => .cat n (catAll ns)

/-- Offers a list of patterns in order of preference. -/
def Node.altAll : List Node → Node
  | [] => .noMatch
  | [n] => n
  | n :: ns => .alt n (altAll ns)

namespace Groups

/-- Decimal digits. -/
def digit : List (Nat × Nat) := [(0x30, 0x39)]

/-- Tab, line feed, form feed, carriage return and space (not the vertical tab). -/
def space : List (Nat × Nat) := [(9, 10), (12, 13), (32, 32)]

/-- Letters, digits and the underscore, of ASCII. -/
def word : List (Nat × Nat) := [(0x30, 0x39), (0x41, 0x5A), (0x5F, 0x5F), (0x61, 0x7A)]

/-- The groups written with a backslash and a letter: the letter's group and whether it
is complemented. -/
def perl? : Char → Option (List (Nat × Nat) × Bool)
  | 'd' => some (digit, false)
  | 'D' => some (digit, true)
  | 's' => some (space, false)
  | 'S' => some (space, true)
  | 'w' => some (word, false)
  | 'W' => some (word, true)
  | _ => none

/-- The bracketed classes named like [:alpha:]. -/
def posixNamed? : String → Option (List (Nat × Nat))
  | "alnum" => some [(0x30, 0x39), (0x41, 0x5A), (0x61, 0x7A)]
  | "alpha" => some [(0x41, 0x5A), (0x61, 0x7A)]
  | "ascii" => some [(0, 0x7F)]
  | "blank" => some [(9, 9), (32, 32)]
  | "cntrl" => some [(0, 0x1F), (0x7F, 0x7F)]
  | "digit" => some [(0x30, 0x39)]
  | "graph" => some [(0x21, 0x7E)]
  | "lower" => some [(0x61, 0x7A)]
  | "print" => some [(0x20, 0x7E)]
  | "punct" => some [(0x21, 0x2F), (0x3A, 0x40), (0x5B, 0x60), (0x7B, 0x7E)]
  | "space" => some [(9, 13), (32, 32)]
  | "upper" => some [(0x41, 0x5A)]
  | "word" => some [(0x30, 0x39), (0x41, 0x5A), (0x5F, 0x5F), (0x61, 0x7A)]
  | "xdigit" => some [(0x30, 0x39), (0x41, 0x46), (0x61, 0x66)]
  | _ => none

/-- A bracketed class name such as "alpha" or "^alpha": its ranges and whether they are
complemented. -/
def posix? (name : String) : Option (List (Nat × Nat) × Bool) :=
  match name.toList with
  | '^' :: rest => (posixNamed? (String.ofList rest)).map fun rs => (rs, true)
  | _ => (posixNamed? name).map fun rs => (rs, false)

end Groups

end LineBatch.Pattern
