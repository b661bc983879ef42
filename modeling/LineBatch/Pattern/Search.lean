import Std.Data.HashSet
import LineBatch.Text.Utf8
import LineBatch.Pattern.Program

/-
  Finding matches of a compiled pattern in a byte string.

  The text is read as UTF-8, an invalid octet standing for U+FFFD.
  A search tries each starting position from left to right and, from
  each, follows the program depth first, the preferred way of a fork
  first: the first match found is the leftmost, and among matches at
  that position the one the pattern prefers. A state (instruction,
  position) that was explored once is not explored again, since what
  follows from it does not depend on how it was reached; this keeps the
  search within the number of states.

  Key definitions:
    * `Text`, `Text.runeAt`, `Text.holds`
    * `Program.search`, `Program.allMatches`, `Program.split`
-/

namespace LineBatch.Pattern

/-- A text to search: its octets. -/
structure Text where
  bytes : Array UInt8

/-- The character at a position and its width; the end of the text has none. -/
def Text.runeAt (t : Text) (pos : Nat) : Option (Char × Nat) :=
  if pos < t.bytes.size then
    let rest := ((List.range 3).filterMap fun k => t.bytes[pos + 1 + k]?)
    let b0 := t.bytes[pos]!
    let d := Utf8.decodeRune b0 rest
    some (d.1, d.2 + 1)
  else none

/-- Whether an octet is an ASCII letter, digit or underscore. -/
def isWordByte (b : UInt8) : Bool :=
  (0x30 ≤ b && b ≤ 0x39) || (0x41 ≤ b && b ≤ 0x5A) || b == 0x5F || (0x61 ≤ b && b ≤ 0x7A)

/-- Whether a condition holds at a position. Only ASCII characters are word characters, so
the octets next to the position decide. -/
def Text.holds (t : Text) (pos : Nat) : Assertion → Bool
  | .beginText => pos == 0
  | .endText => pos == t.bytes.size
  | .beginLine => pos == 0 || t.bytes[pos - 1]? == some 10
  | .endLine => pos == t.bytes.size || t.bytes[pos]? == some 10
  | .wordBoundary => wordBefore t pos != wordAfter t pos
  | .notWordBoundary => wordBefore t pos == wordAfter t pos
where
  wordBefore (t : Text) (pos : Nat) : Bool :=
    pos > 0 && (t.bytes[pos - 1]?.map isWordByte).getD false
  wordAfter (t : Text) (pos : Nat) : Bool :=
    (t.bytes[pos]?.map isWordByte).getD false

/-- Explores states depth first from a stack of pending (instruction, position) pairs. Returns
the end of the first match found, and the states explored so far. Each round either drops a
pending state or explores a new one, which pushes at most two; the rounds are bounded by
`fuel`. -/
def Program.explore (p : Program) (t : Text) :
    Nat → List (Nat × Nat) → Std.HashSet Nat → Option Nat × Std.HashSet Nat
  | 0, _, seen => (none, seen)
  | _, [], seen => (none, seen)
  | fuel + 1, (pc, pos) :: rest, seen =>
    let key := pc * (t.bytes.size + 1) + pos
    if seen.contains key then p.explore t fuel rest seen
    else
      let seen := seen.insert key
      match p.insts[pc]? with
      | some (.take test next) =>
        match t.runeAt pos with
        | some (c, w) =>
          if test.accepts c then p.explore t fuel ((next, pos + w) :: rest) seen
          else p.explore t fuel rest seen
        | none => p.explore t fuel rest seen
      | some (.check a next) =>
        if t.holds pos a then p.explore t fuel ((next, pos) :: rest) seen
        else p.explore t fuel rest seen
      | some (.fork x y) => p.explore t fuel ((x, pos) :: (y, pos) :: rest) seen
      | some .accept => (some pos, seen)
      | some .fail => p.explore t fuel rest seen
      | none => p.explore t fuel rest seen

/-- Enough rounds to explore every state of a program on a text. -/
def Program.budget (p : Program) (t : Text) : Nat :=
  3 * (p.insts.size + 1) * (t.bytes.size + 2)

/-- The leftmost match starting at or after `start`, as its start and end. Starting
positions advance by whole characters. -/
def Program.search (p : Program) (t : Text) (start : Nat) : Option (Nat × Nat) :=
  go (t.bytes.size + 1 - start) start {}
where
  go : Nat → Nat → Std.HashSet Nat → Option (Nat × Nat)
    | 0, _, _ => none
    | fuel + 1, pos, seen =>
      if pos > t.bytes.size then none
      else
        match p.explore t (p.budget t) [(p.start, pos)] seen with
        | (some e, _) => some (pos, e)
        | (none, seen) =>
          match t.runeAt pos with
          | some (_, w) => go fuel (pos + w) seen
          | none => none

/-- All successive matches: after a match the search goes on from its end, and an empty
match right where the previous match ended is skipped. -/
def Program.allMatches (p : Program) (t : Text) : List (Nat × Nat) :=
  go (t.bytes.size + 2) 0 none
where
  go : Nat → Nat → Option Nat → List (Nat × Nat)
    | 0, _, _ => []
    | fuel + 1, pos, prevEnd =>
      if pos > t.bytes.size then []
      else
        match p.search t pos with
        | none => []
        | some (s, e) =>
          let skip := e == pos && prevEnd == some s
          let next :=
            if e == pos then
              match t.runeAt pos with
              | some (_, w) => pos + w
              | none => t.bytes.size + 1
            else e
          let rest := go fuel next (some e)
          if skip then rest else (s, e) :: rest

/-- The octets of a text from `a` up to `b`. -/
def Text.slice (t : Text) (a b : Nat) : Bytes :=
  (t.bytes.extract a b).toList

/-- Splits a text around the matches of a pattern. A match of width zero at the start
gives no empty field; the text after the last match is a field unless that match starts at
the very end. -/
def Program.split (p : Program) (bs : Bytes) : List Bytes :=
  let t : Text := ⟨bs.toArray⟩
  let ms := p.allMatches t
  let step (st : List Bytes × Nat × Nat) (m : Nat × Nat) : List Bytes × Nat × Nat :=
    let (acc, beg, _) := st
    let (s, e) := m
    (if e != 0 then t.slice beg s :: acc else acc, e, s)
  let (fields, beg, last) := ms.foldl step ([], 0, 0)
  let fields := if last != t.bytes.size then t.slice beg t.bytes.size :: fields else fields
  fields.reverse

end LineBatch.Pattern
