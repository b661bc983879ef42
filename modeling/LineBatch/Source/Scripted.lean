import LineBatch.Source.Blob

/-
  Sources with scripted faults.

  A scripted source wraps a blob source to rehearse failures. It
  records the offset of every opening. Its script lists, for the next
  openings in turn, a fault to report instead of opening (or none);
  after the list runs out, openings go through. The next
  `flakyOpens` openings that succeed give streams that deliver at most
  `flakyAfter` bytes and then fail with a reset connection. Closing
  fails if the script says so.

  The reported faults carry the same conditions as the real ones, so
  that readers treat them alike.

  Key definitions:
    * `OpenFault`, `Faults`, `ScriptedSource`, `ScriptedSource.openAt`
-/

namespace LineBatch

/-- A fault reported instead of opening. -/
inductive OpenFault where
  | notFound
  | truncated
  | changed
  | other
  deriving DecidableEq, Repr

/-- The failure an opening fault reports. -/
def OpenFault.failure : OpenFault → Failure
  | .notFound => .cause (.wrap "injected: " (.condition .sourceNotFound) "")
  | .truncated => .cause (.wrap "injected: " (.condition .sourceTruncated) "")
  | .changed => .cause (.wrap "injected: " (.condition .sourceChanged) "")
  | .other => .plain "injected: open failed"

/-- The script of a source's faults. -/
structure Faults where
  openErrors : List (Option OpenFault) := []
  flakyOpens : Nat := 0
  flakyAfter : Nat := 0
  closeFails : Bool := false
  deriving Repr

/-- A blob source with scripted faults, and the offsets it was opened at. -/
structure ScriptedSource where
  inner : BlobSource
  faults : Faults
  opens : List Nat

namespace ScriptedSource

/-- The failure of a flaky stream. -/
def reset : Failure := .plain "flaky: connection reset"

/-- Opens at an offset, following the script. -/
def openAt (s : ScriptedSource) (offset : Nat) : Except Failure Stream × ScriptedSource :=
  let s := { s with opens := s.opens ++ [offset] }
  let (fault, rest) : Option OpenFault × List (Option OpenFault) :=
    match s.faults.openErrors with
    | f :: r => (f, r)
    | [] => (none, [])
  let s := { s with faults := { s.faults with openErrors := rest } }
  match fault with
  | some f => (.error f.failure, s)
  | none =>
    let (res, inner) := s.inner.openAt offset
    let s := { s with inner }
    match res with
    | .error e => (.error e, s)
    | .ok st =>
      if s.faults.flakyOpens > 0 then
        (.ok { st with budget := some s.faults.flakyAfter, fault := reset },
          { s with faults := { s.faults with flakyOpens := s.faults.flakyOpens - 1 } })
      else (.ok st, s)

instance : ByteSource ScriptedSource where
  name s := s.inner.name
  openAt s offset := s.openAt offset
  close s := (if s.faults.closeFails then some (.plain "injected: close failed") else none, s)
  bound s := ByteSource.bound s.inner

end ScriptedSource

end LineBatch
