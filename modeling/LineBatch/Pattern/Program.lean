import LineBatch.Pattern.Syntax

/-
  Patterns compiled to instructions.

  A program is an array of instructions. An instruction takes one
  character that passes a test, checks a condition on the position,
  offers two ways on in order of preference, reports a match, or
  fails. Each instruction names the instruction that follows it, so
  a program is laid out from its end: the code of a pattern is
  emitted knowing where to continue.

  Counted repetition is first spelled out with joins, options and
  loops: x{2,4} is x x (x (x)?)?. A loop whose body can match the
  empty text is compiled as (x+)?, so that an empty round is tried
  once and then left, as in Perl.

  Key definitions:
    * `CharTest`, `CharTest.accepts`, `Inst`, `Program`
    * `Node.expand`, `Program.compile`
-/

namespace LineBatch.Pattern

/-- The test of an instruction that takes one character. -/
inductive CharTest where
  | literal (c : Char) (fold : Bool)
  | oneOf (cls : CharClass)
  | any
  | anyButNewline
  deriving Repr

/-- Whether a character passes a test. -/
def CharTest.accepts : CharTest → Char → Bool
  | .literal c fold, r => if fold then (CaseFold.orbit c).contains r else r == c
  | .oneOf cls, r => cls.contains r
  | .any, _ => true
  | .anyButNewline, r => r != '\n'

/-- One instruction. -/
inductive Inst where
  /-- Takes a character that passes the test, then goes on at `next`. -/
  | take (test : CharTest) (next : Nat)
  /-- Goes on at `next` if the position satisfies the condition. -/
  | check (a : Assertion) (next : Nat)
  /-- Goes on at `first`, and failing that at `second`. -/
  | fork (first second : Nat)
  /-- Reports a match. -/
  | accept
  /-- Fails. -/
  | fail
  deriving Repr

/-- A compiled pattern: its instructions and where it starts. -/
structure Program where
  insts : Array Inst
  start : Nat
  deriving Repr

/-- `n` copies of a pattern joined, followed by `tail`. -/
def Node.copies (sub : Node) : Nat → Node → Node
  | 0, tail => tail
  | k + 1, tail => .cat sub (copies sub k tail)

/-- The nested options x (x (x)?)? of `k` further optional rounds. -/
def Node.optionalRounds (sub : Node) (greedy : Bool) : Nat → Node
  | 0 => .empty
  | 1 => .quest sub greedy
  | k + 2 => .quest (.cat sub (optionalRounds sub greedy (k + 1))) greedy

/-- From `min` to `max` rounds of a pattern, spelled out. -/
def Node.spellRepeat (sub : Node) (min : Nat) (max : Option Nat) (greedy : Bool) : Node :=
  match max with
  | none =>
    if min = 0 then .star sub greedy
    else if min = 1 then .plus sub greedy
    else Node.copies sub (min - 1) (.plus sub greedy)
  | some mx =>
    if min = 0 ∧ mx = 0 then .empty
    else if min = 1 ∧ mx = 1 then sub
    else if mx < min then .noMatch
    else Node.copies sub min (Node.optionalRounds sub greedy (mx - min))

/-- Spells out every counted repetition of a pattern. -/
def Node.expand : Node → Node
  | .rep b m mx g => Node.spellRepeat b.expand m mx g
  | .cat a b => .cat a.expand b.expand
  | .alt a b => .alt a.expand b.expand
  | .star b g => .star b.expand g
  | .plus b g => .plus b.expand g
  | .quest b g => .quest b.expand g
  | .group b => .group b.expand
  | n => n

/-- The two ways of a fork in order of preference: the loop body first when greedy. -/
def forkFor (greedy : Bool) (body next : Nat) : Inst :=
  if greedy then .fork body next else .fork next body

/-- Emits the code of a pattern that goes on at `next`; returns the program so far and the
entry of the pattern's code. -/
def emit : Node → Nat → Array Inst → Array Inst × Nat
  | .empty, next, p => (p, next)
  | .noMatch, _, p => (p.push .fail, p.size)
  | .literal c f, next, p => (p.push (.take (.literal c f) next), p.size)
  | .oneOf cls, next, p => (p.push (.take (.oneOf cls) next), p.size)
  | .anyChar, next, p => (p.push (.take .any next), p.size)
  | .anyButNewline, next, p => (p.push (.take .anyButNewline next), p.size)
  | .assert a, next, p => (p.push (.check a next), p.size)
  | .cat a b, next, p =>
    let (p, eb) := emit b next p
    emit a eb p
  | .alt a b, next, p =>
    let (p, ea) := emit a next p
    let (p, eb) := emit b next p
    (p.push (.fork ea eb), p.size)
  | .quest b g, next, p =>
    let (p, eb) := emit b next p
    (p.push (forkFor g eb next), p.size)
  | .plus b g, next, p =>
    let loopAt := p.size
    let (p, eb) := emit b loopAt (p.push .fail)
    (p.set! loopAt (forkFor g eb next), eb)
  | .star b g, next, p =>
    let loopAt := p.size
    let (p, eb) := emit b loopAt (p.push .fail)
    let p := p.set! loopAt (forkFor g eb next)
    if b.nullable then
      -- (x+)?: enter the body at most once before the loop's own fork
      (p.push (forkFor g eb next), p.size)
    else (p, loopAt)
  | .group b, next, p => emit b next p
  | .rep _ _ _ _, _, p => (p.push .fail, p.size)

/-- Compiles a pattern. -/
def Program.compile (n : Node) : Program :=
  let base : Array Inst := #[.accept]
  let (insts, start) := emit n.expand 0 base
  { insts, start }

end LineBatch.Pattern
