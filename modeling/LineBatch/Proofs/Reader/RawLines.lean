import LineBatch.Reader.Basic

/-
  The raw lines of a content, and what a reader makes of them when
  nothing fails.

  A content splits into raw lines: a line ends after each line feed,
  and a final piece without one is a line when it is not empty. The
  lines put back together give the content. A prefix that ends where a
  line ends (`LineStart`) splits the lines of the content into those
  of the prefix and those of the rest; reading one more line extends
  the lines of the prefix by exactly that line.

  Each raw line gives one item: it is skipped when blank lines are
  skipped and its decoded text is blank, and is otherwise parsed, into
  a line or a rejection.

  Key definitions:
    * `rawLines`, `LineStart`
    * `Item`, `Reader.item`, `Reader.accepted`
    * `rawLines_append_lf`, `LineStart.split`, `LineStart.take_add`
-/

------------------------------------------------------------
-- Raw Lines
------------------------------------------------------------

namespace LineBatch

/- The raw lines of a content. -/
def rawLines : Bytes → List Bytes
  | [] => []
  | b :: rest =>
    if b = 10 then [10] :: rawLines rest
    else
      match rawLines rest with
      | [] => [[b]]
      | l :: ls => (b :: l) :: ls

@[simp] theorem rawLines_nil : rawLines [] = [] := rfl

theorem rawLines_lf_cons (rest : Bytes) :
    rawLines (10 :: rest) = [10] :: rawLines rest := by
  simp [rawLines]

/- The lines put back together give the content. -/
@[simp] theorem flatten_rawLines (C : Bytes) : (rawLines C).flatten = C := by
  induction C with
  | nil => rfl
  | cons b rest ih =>
    by_cases hb : b = 10
    · simp [rawLines, hb, ih]
    · simp only [rawLines, hb, if_false]
      split
      · rename_i hNil
        rw [hNil] at ih
        simp_all
      · rename_i l ls hCons
        rw [hCons] at ih
        simp [← ih]

theorem rawLines_eq_nil_iff (C : Bytes) : rawLines C = [] ↔ C = [] := by
  constructor
  · intro h
    simpa [h] using (flatten_rawLines C).symm
  · rintro rfl
    rfl

/-
  Joining a content that ends with a line feed to another one joins
  their lines: the line feed closes the last line of the first.
-/
theorem rawLines_append_lf
    (X Y : Bytes) :
    rawLines (X ++ 10 :: Y) =
      rawLines (X ++ [10]) ++ rawLines Y := by
  induction X with
  | nil => simp [rawLines_lf_cons]
  | cons b rest ih =>
    by_cases hb : b = 10
    · subst hb
      simp [rawLines_lf_cons, ih]
    · have hNe : rawLines (rest ++ [10]) ≠ [] := by
        simp [rawLines_eq_nil_iff]
      obtain ⟨l, ls, hLines⟩ := List.exists_cons_of_ne_nil hNe
      have hJoined :
          rawLines (rest ++ 10 :: Y) = l :: (ls ++ rawLines Y) := by
        rw [ih, hLines, List.cons_append]
      simp [rawLines, hb, hJoined, hLines]

/- A nonempty piece without a line feed is one line. -/
theorem rawLines_of_lf_not_mem
    {b : Bytes}
    (hLf : 10 ∉ b)
    (hNe : b ≠ []) :
    rawLines b = [b] := by
  induction b with
  | nil => exact absurd rfl hNe
  | cons c rest ih =>
    have hc : c ≠ 10 := fun h => hLf (h ▸ List.mem_cons_self)
    have hRest : 10 ∉ rest := fun h => hLf (List.mem_cons_of_mem c h)
    by_cases hEmpty : rest = []
    · subst hEmpty
      simp [rawLines, hc]
    · simp [rawLines, hc, ih hRest hEmpty]

/- A piece whose only line feed ends it is one line. -/
theorem rawLines_lf_end
    {b : Bytes}
    (hLf : 10 ∉ b) :
    rawLines (b ++ [10]) = [b ++ [10]] := by
  induction b with
  | nil => rfl
  | cons c rest ih =>
    have hc : c ≠ 10 := fun h => hLf (h ▸ List.mem_cons_self)
    have hRest : 10 ∉ rest := fun h => hLf (List.mem_cons_of_mem c h)
    simp [rawLines, hc, ih hRest]

/-
  The first line of a content with a line feed runs through its first
  line feed.
-/
theorem rawLines_of_idxOf
    {R : Bytes}
    {j : Nat}
    (hj : R.idxOf? 10 = some j) :
    rawLines R = R.take (j + 1) :: rawLines (R.drop (j + 1)) := by
  induction R generalizing j with
  | nil => simp at hj
  | cons c rest ih =>
    rw [List.idxOf?_cons] at hj
    by_cases hc : c = 10
    · subst hc
      simp at hj
      subst hj
      simp [rawLines_lf_cons]
    · have hcb : (c == 10) = false := by simpa using hc
      rw [hcb, if_neg (by simp)] at hj
      obtain ⟨i, hi, rfl⟩ := Option.map_eq_some_iff.1 hj
      simp [rawLines, hc, ih hi]

/-
  The first line of a content with a line feed is a piece without one,
  closed by the line feed.
-/
theorem take_idxOf_lf
    {R : Bytes}
    {j : Nat}
    (hj : R.idxOf? 10 = some j) :
    ∃ Z, 10 ∉ Z ∧ R.take (j + 1) = Z ++ [10] := by
  induction R generalizing j with
  | nil => simp at hj
  | cons c rest ih =>
    rw [List.idxOf?_cons] at hj
    by_cases hc : c = 10
    · subst hc
      simp at hj
      subst hj
      exact ⟨[], by simp, rfl⟩
    · have hcb : (c == 10) = false := by simpa using hc
      rw [hcb, if_neg (by simp)] at hj
      obtain ⟨i, hi, rfl⟩ := Option.map_eq_some_iff.1 hj
      obtain ⟨Z, hZ, hTake⟩ := ih hi
      refine ⟨c :: Z, ?_, by simp [hTake]⟩
      simp only [List.mem_cons, not_or]
      exact ⟨Ne.symm hc, hZ⟩

------------------------------------------------------------
-- Line Starts
------------------------------------------------------------

/-
  The first `n` octets of a content end where a line ends: `n` is the
  whole content, or the prefix is empty or ends with a line feed.
-/
def LineStart
    (C : Bytes)
    (n : Nat) : Prop :=
  n ≤ C.length ∧
    (n = C.length ∨ (C.take n).getLast?.all (· = 10))

theorem lineStart_zero (C : Bytes) : LineStart C 0 :=
  ⟨Nat.zero_le _, .inr (by simp)⟩

theorem lineStart_length (C : Bytes) : LineStart C C.length :=
  ⟨Nat.le_refl _, .inl rfl⟩

/- A prefix that is empty or ends with a line feed. -/
private theorem take_complete
    {C : Bytes}
    {n : Nat}
    (h : (C.take n).getLast?.all (· = 10)) :
    C.take n = [] ∨ ∃ Z, C.take n = Z ++ [10] := by
  rcases List.eq_nil_or_concat (C.take n) with hNil | ⟨Z, c, hZ⟩
  · exact .inl hNil
  · refine .inr ⟨Z, ?_⟩
    rw [hZ] at h ⊢
    simp at h
    rw [h, List.concat_eq_append]

/- The lines of a content are those before a line start and those after it. -/
theorem LineStart.split
    {C : Bytes}
    {n : Nat}
    (h : LineStart C n) :
    rawLines C = rawLines (C.take n) ++ rawLines (C.drop n) := by
  obtain ⟨_, hAll | hLast⟩ := h
  · subst hAll
    simp
  · rcases take_complete hLast with hNil | ⟨Z, hZ⟩
    · conv => lhs; rw [← List.take_append_drop n C]
      rw [hNil]
      simp
    · have hC : C = Z ++ 10 :: C.drop n := by
        conv => lhs; rw [← List.take_append_drop n C]
        simp [hZ]
      conv => lhs; rw [hC]
      rw [rawLines_append_lf, hZ]

/-
  Reading one more line from a line start: the lines of the longer
  prefix are those of the shorter one and that line.
-/
theorem LineStart.take_add
    {C b X : Bytes}
    {n : Nat}
    (h : LineStart C n)
    (hOne : rawLines b = [b])
    (hDrop : C.drop n = b ++ X)
    (hNe : b ≠ []) :
    rawLines (C.take (n + b.length)) = rawLines (C.take n) ++ [b] := by
  have hTake : C.take (n + b.length) = C.take n ++ b := by
    rw [List.take_add, hDrop, List.take_left']
    rfl
  obtain ⟨_, hAll | hLast⟩ := h
  · subst hAll
    simp at hDrop
    exact absurd hDrop.1 hNe
  · rw [hTake]
    rcases take_complete hLast with hNil | ⟨Z, hZ⟩
    · simp [hNil, hOne]
    · obtain ⟨b₀, bs, rfl⟩ := List.exists_cons_of_ne_nil hNe
      have hSplit := rawLines_append_lf Z (b₀ :: bs)
      rw [hOne] at hSplit
      rw [hZ]
      simpa using hSplit

/-
  A line start is the end of the first `j` raw lines, for some `j`:
  the offsets a reader may stop at are sums of whole lines.
-/
theorem LineStart.eq_flatten_take
    {C : Bytes}
    {n : Nat}
    (h : LineStart C n) :
    (rawLines C).take (rawLines (C.take n)).length = rawLines (C.take n) ∧
      ((rawLines (C.take n)).flatten).length = n := by
  constructor
  · rw [h.split, List.take_left']
    rfl
  · simp [Nat.min_eq_left h.1]

/-
  Reading a piece from a line start ends at a line start again when the
  piece ends with a line feed or is all that is left.
-/
theorem LineStart.advance
    {C b X : Bytes}
    {n : Nat}
    (h : LineStart C n)
    (hDrop : C.drop n = b ++ X)
    (hEnd : b.getLast? = some 10 ∨ X = []) :
    LineStart C (n + b.length) := by
  have hLen : n + b.length ≤ C.length := by
    have hn := h.1
    have := congrArg List.length hDrop
    simp at this
    omega
  refine ⟨hLen, ?_⟩
  rcases hEnd with hLf | rfl
  · right
    have hTake : C.take (n + b.length) = C.take n ++ b := by
      rw [List.take_add, hDrop, List.take_left']
      rfl
    rw [hTake, List.getLast?_append, hLf]
    rfl
  · left
    have hn := h.1
    have := congrArg List.length hDrop
    simp at this
    omega

------------------------------------------------------------
-- Items
------------------------------------------------------------

/- What a reader makes of one raw line when no read fails. -/
inductive Item where
  | skipped
  | line (l : Line)
  | rejected (e : Error)

/- The line of an item, if it is one. -/
def Item.line? : Item → Option Line
  | .line l => some l
  | _ => none

/-
  The item of a raw line under a setup: the line is stripped of its
  terminator and decoded, skipped if it is blank and blank lines are
  skipped, and parsed otherwise.
-/
def lineItem
    (cs : Charset)
    (ignoreEmpty : Bool)
    (parser : Parser)
    (raw : Bytes) : Item :=
  let t := cs.decode (trimEol raw)
  if ignoreEmpty && Blank.isBlankLine t then .skipped
  else
    match parser.parse t with
    | .error f => .rejected (f.asLineError t)
    | .ok l => .line l

namespace Reader

variable {σ : Type} [ByteSource σ]

/- The item of a raw line under the setup of a reader. -/
def item (r : Reader σ) (raw : Bytes) : Item :=
  lineItem r.charset r.ignoreEmpty r.parser raw

/- The line a reader hands out for a raw line when no read fails, if any. -/
def accepted (r : Reader σ) (raw : Bytes) : Option Line :=
  (r.item raw).line?

end Reader

end LineBatch
