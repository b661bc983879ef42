import LineBatch.Error

/-
  Byte streams and the sources that open them.

  A stream hands out its bytes a line at a time: everything through
  the next line feed, or, when no line feed is left, the rest at the
  end (possibly nothing). A stream may carry a budget: it delivers
  that many bytes and then fails with its fault on every later
  request. A line is delivered only if all of its bytes fit in the
  budget, and the end is reached only if the rest is shorter than what
  is left of the budget: once the budget is spent the stream fails,
  even with nothing left to give.

  A source has a name, opens streams at an offset (recording whatever
  it keeps of the opening), and is closed once. `bound` is the length
  of what a stream opened now would hold, which bounds how many lines
  it can give.

  Key definitions:
    * `Chunk`, `Stream`, `Stream.next`
    * `ByteSource`
-/

namespace LineBatch

/-- What a stream gives for one request. -/
inductive Chunk where
  /-- A line, through its line feed. -/
  | line (bytes : Bytes)
  /-- The rest of the stream, with no line feed, at its end. -/
  | last (bytes : Bytes)
  /-- A failure of the stream. -/
  | fault (f : Failure)

/-- An open stream: the bytes not yet delivered, and the budget of bytes it still delivers
before it fails with `fault`; no budget means it never fails. -/
structure Stream where
  rest : Bytes
  budget : Option Nat
  fault : Failure
  /-- The failure of closing the stream, if closing it fails. -/
  closeFault : Option Failure := none

namespace Stream

/-- A stream over some bytes that never fails. -/
def ofBytes (data : Bytes) : Stream := ⟨data, none, Failure.plain "", none⟩

/-- Whether `n` more bytes can be delivered. -/
def allows (s : Stream) (n : Nat) : Bool :=
  match s.budget with
  | some b => n ≤ b
  | none => true

/-- The next line of a stream, or its end, or its fault. -/
def next (s : Stream) : Chunk × Stream :=
  match s.rest.idxOf? 10 with
  | some j =>
    if s.allows (j + 1) then
      (.line (s.rest.take (j + 1)),
        { s with rest := s.rest.drop (j + 1), budget := s.budget.map (· - (j + 1)) })
    else (.fault s.fault, s)
  | none =>
    if s.allows (s.rest.length + 1) then (.last s.rest, { s with rest := [] })
    else (.fault s.fault, s)

/-- Every line a stream gives is a prefix of what it holds, and the stream keeps the rest. -/
theorem next_line {s t : Stream} {b : Bytes} (h : s.next = (.line b, t)) :
    b ++ t.rest = s.rest := by
  unfold next at h
  split at h
  · split at h
    · cases h; simp
    · cases h
  · split at h <;> cases h

end Stream

/-- A source of bytes that streams are opened on. -/
class ByteSource (σ : Type) where
  /-- The name that messages use. -/
  name : σ → String
  /-- Opens a stream at an offset. -/
  openAt : σ → Nat → Except Failure Stream × σ
  /-- Closes the source. -/
  close : σ → Option Failure × σ
  /-- The length of what a stream opened now would hold. -/
  bound : σ → Nat

end LineBatch
