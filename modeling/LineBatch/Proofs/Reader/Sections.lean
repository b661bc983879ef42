import LineBatch.Proofs.Reader.Resume

/-
  The sections a reader hands out.

  When no read fails, a request for a section goes through the items
  of the raw lines from the offset on: skipped items are passed over,
  rejected items are set aside, and lines are gathered until the
  section holds its size; running out of items marks it last
  (`Section.fillItems`). Requests in a row cut the items into sections
  so (`Section.cut`): every section before the last holds exactly its
  size in lines, the last one holds the lines left over, and every
  section after it is empty and last (`Section.cut_shape`).

  Faults change nothing of this. A request that succeeds hands out the
  section that a request at the same offset hands out when nothing
  fails, and a request that fails leaves the offset where it was
  (`Reader.readSection_ok`). So the sections handed out are, in order,
  the first ones of the cut, and once the last one was handed out
  every request hands out an empty last section.

  Main declarations:
    * `Section.fillItems`, `Section.cut`, `Section.cut_shape`
    * `Serves.Sized`, `Reader.Keeps`, `Reader.itemsFrom`, `Reader.sectionAt`
    * `Reader.fill_items`, `Reader.readSection_ok`
    * `Reader.claims`, `Reader.claimed_sections_follow_the_cut`
-/

------------------------------------------------------------
-- Filling Sections from Items
------------------------------------------------------------

namespace LineBatch

/- The refusal of an item, if it is one. -/
def Item.rejected? : Item → Option Error
  | .rejected e => some e
  | _ => none

@[simp] theorem Item.line?_skipped : Item.skipped.line? = none := rfl
@[simp] theorem Item.line?_rejected (e : Error) : (Item.rejected e).line? = none := rfl
@[simp] theorem Item.line?_line (l : Line) : (Item.line l).line? = some l := rfl
@[simp] theorem Item.rejected?_skipped : Item.skipped.rejected? = none := rfl
@[simp] theorem Item.rejected?_rejected (e : Error) : (Item.rejected e).rejected? = some e := rfl
@[simp] theorem Item.rejected?_line (l : Line) : (Item.line l).rejected? = none := rfl

namespace Section

/- A section with nothing in it yet. -/
def empty : Section := ⟨#[], #[], false⟩

/- The empty last section that every request after the end hands out. -/
def ended : Section := ⟨#[], #[], true⟩

/-
  Fills a section from items, as a request does when no read fails:
  a full section stops before the next item, a skipped item is passed
  over, a rejected one is set aside, and running out of items marks
  the section last. Gives the section and the items left.
-/
def fillItems (size : Nat) (sec : Section) : List Item → Section × List Item
  | [] => if size ≤ sec.lines.size then (sec, []) else ({ sec with last := true }, [])
  | i :: is =>
    if size ≤ sec.lines.size then (sec, i :: is)
    else
      match i with
      | .skipped => fillItems size sec is
      | .rejected e => fillItems size { sec with rejected := sec.rejected.push e } is
      | .line l => fillItems size { sec with lines := sec.lines.push l } is

/- The first `k` sections that requests in a row hand out when no read fails. -/
def cut (size : Nat) : Nat → List Item → List Section
  | 0, _ => []
  | k + 1, is => (fillItems size empty is).1 :: cut size k (fillItems size empty is).2

theorem fillItems_full
    {size : Nat}
    {sec : Section}
    (hFull : size ≤ sec.lines.size)
    (is : List Item) :
    fillItems size sec is = (sec, is) := by
  cases is <;> simp [fillItems, hFull]

/-
  A section filled from items took a first part of them: its lines and
  its refusals are those it had, followed by those of that part.
-/
theorem fillItems_split
    (size : Nat)
    (sec : Section)
    (is : List Item) :
    ∃ used, is = used ++ (fillItems size sec is).2 ∧
      (fillItems size sec is).1.lines.toList = sec.lines.toList ++ used.filterMap Item.line? ∧
      (fillItems size sec is).1.rejected.toList =
        sec.rejected.toList ++ used.filterMap Item.rejected? := by
  induction is generalizing sec with
  | nil => exact ⟨[], by unfold fillItems; split <;> simp⟩
  | cons i is ih =>
    by_cases hFull : size ≤ sec.lines.size
    · exact ⟨[], by simp [fillItems_full hFull]⟩
    · cases i with
      | skipped =>
        obtain ⟨used, hIs, hLines, hRej⟩ := ih sec
        refine ⟨.skipped :: used, ?_⟩
        simp only [fillItems, hFull, if_false]
        exact ⟨by simp only [List.cons_append, ← hIs],
          by simp [hLines, List.filterMap_cons], by simp [hRej, List.filterMap_cons]⟩
      | rejected e =>
        obtain ⟨used, hIs, hLines, hRej⟩ := ih { sec with rejected := sec.rejected.push e }
        refine ⟨.rejected e :: used, ?_⟩
        simp only [fillItems, hFull, if_false]
        exact ⟨by simp only [List.cons_append, ← hIs],
          by simp [hLines, List.filterMap_cons], by simp [hRej]⟩
      | line l =>
        obtain ⟨used, hIs, hLines, hRej⟩ := ih { sec with lines := sec.lines.push l }
        refine ⟨.line l :: used, ?_⟩
        simp only [fillItems, hFull, if_false]
        exact ⟨by simp only [List.cons_append, ← hIs],
          by simp [hLines], by simp [hRej, List.filterMap_cons]⟩

/-
  A section that is not full takes lines until it is full or the items
  run out, and only running out marks it last; then no item is left.
-/
theorem fillItems_count
    (size : Nat)
    (sec : Section)
    (is : List Item)
    (hRoom : sec.lines.size ≤ size)
    (hOpen : sec.last = false) :
    (fillItems size sec is).1.lines.size = min size (sec.lines.size + (is.filterMap Item.line?).length) ∧
      ((fillItems size sec is).1.last = true ↔
        sec.lines.size + (is.filterMap Item.line?).length < size) ∧
      ((fillItems size sec is).1.last = true → (fillItems size sec is).2 = []) := by
  induction is generalizing sec with
  | nil =>
    by_cases hFull : size ≤ sec.lines.size
    · have hEq : sec.lines.size = size := Nat.le_antisymm hRoom hFull
      simp [fillItems, hOpen, hEq]
    · simp only [fillItems, hFull, if_false]
      refine ⟨by simp; omega, by simp; omega, by simp⟩
  | cons i is ih =>
    by_cases hFull : size ≤ sec.lines.size
    · have hEq : sec.lines.size = size := Nat.le_antisymm hRoom hFull
      simp only [fillItems_full hFull, hOpen]
      refine ⟨by omega, by simp; omega, by simp⟩
    · cases i with
      | skipped =>
        simpa [fillItems, hFull, List.filterMap_cons] using ih sec hRoom hOpen
      | rejected e =>
        simpa [fillItems, hFull, List.filterMap_cons] using
          ih { sec with rejected := sec.rejected.push e } hRoom hOpen
      | line l =>
        have h := ih { sec with lines := sec.lines.push l } (by simp; omega) hOpen
        simp only [fillItems, hFull, if_false, Array.size_push] at h ⊢
        simp only [List.filterMap_cons, Item.line?_line, List.length_cons]
        refine ⟨by rw [h.1]; omega, by rw [h.2.1]; omega, h.2.2⟩

/-
  A request from no item at all hands out the empty last section, and
  so does every request after it.
-/
theorem cut_nil
    {size : Nat}
    (hSize : 0 < size)
    (k : Nat) :
    cut size k [] = List.replicate k ended := by
  have hFill : fillItems size empty [] = (ended, []) := by
    simp [fillItems, empty, ended]
    omega
  induction k with
  | zero => rfl
  | succ k ih => rw [cut, hFill, ih, List.replicate_succ]

/-
  What the first section takes from the items: when they hold fewer
  lines than the size, all of them and the end; otherwise the first
  `size` lines, leaving the others.
-/
theorem fillItems_empty
    (size : Nat)
    (is : List Item) :
    (fillItems size empty is).1.lines.toList ++ (fillItems size empty is).2.filterMap Item.line? =
        is.filterMap Item.line? ∧
      (fillItems size empty is).1.rejected.toList ++
          (fillItems size empty is).2.filterMap Item.rejected? = is.filterMap Item.rejected? ∧
      (fillItems size empty is).1.lines.size = min size (is.filterMap Item.line?).length ∧
      ((fillItems size empty is).1.last = true ↔ (is.filterMap Item.line?).length < size) ∧
      ((fillItems size empty is).1.last = true → (fillItems size empty is).2 = []) := by
  obtain ⟨used, hIs, hLines, hRej⟩ := fillItems_split size empty is
  obtain ⟨hCount, hLast, hRest⟩ := fillItems_count size empty is (by simp [empty]) rfl
  have hEmpty : empty.lines.size = 0 := rfl
  rw [hEmpty, Nat.zero_add] at hCount hLast
  refine ⟨?_, ?_, hCount, hLast, hRest⟩
  · rw [hLines]
    conv => rhs; rw [hIs, List.filterMap_append]
    simp [empty]
  · rw [hRej]
    conv => rhs; rw [hIs, List.filterMap_append]
    simp [empty]

/-
  The shape of the sections: with `P` lines among the items, the first
  `P / size` sections are full and not last, the next one is last and
  holds the `P % size` lines left over, and every section after it is
  empty and last. Their lines are the lines of the items, and their
  refusals the refusals of the items, in order.
-/
theorem cut_shape
    {size : Nat}
    (hSize : 0 < size)
    (k : Nat)
    (is : List Item)
    (hk : (is.filterMap Item.line?).length / size < k) :
    ∃ fulls final,
      cut size k is = fulls ++ final ::
        List.replicate (k - (is.filterMap Item.line?).length / size - 1) ended ∧
      fulls.length = (is.filterMap Item.line?).length / size ∧
      (∀ sec ∈ fulls, sec.lines.size = size ∧ sec.last = false) ∧
      final.last = true ∧ final.lines.size = (is.filterMap Item.line?).length % size ∧
      (fulls ++ [final]).flatMap (·.lines.toList) = is.filterMap Item.line? ∧
      (fulls ++ [final]).flatMap (·.rejected.toList) = is.filterMap Item.rejected? := by
  induction k generalizing is with
  | zero => exact absurd hk (Nat.not_lt_zero _)
  | succ k ih =>
    obtain ⟨hLines, hRej, hSizeEq, hLast, hRest⟩ := fillItems_empty size is
    by_cases hFew : (is.filterMap Item.line?).length < size
    · have hIsLast := hLast.2 hFew
      have hNone := hRest hIsLast
      rw [hNone] at hLines hRej
      have hDiv : (is.filterMap Item.line?).length / size = 0 := Nat.div_eq_of_lt hFew
      refine ⟨[], (fillItems size empty is).1, ?_, by simp [hDiv], by simp, hIsLast, ?_, ?_, ?_⟩
      · rw [cut, hNone, cut_nil hSize, hDiv]
        simp
      · rw [Nat.mod_eq_of_lt hFew, hSizeEq]
        omega
      · simpa using hLines
      · simpa using hRej
    · have hLe : size ≤ (is.filterMap Item.line?).length := Nat.le_of_not_lt hFew
      have hNotLast : (fillItems size empty is).1.last = false := by
        cases h : (fillItems size empty is).1.last
        · rfl
        · exact absurd (hLast.1 h) hFew
      have hFull : (fillItems size empty is).1.lines.size = size := by
        rw [hSizeEq]
        exact Nat.min_eq_left hLe
      have hRestLen : ((fillItems size empty is).2.filterMap Item.line?).length =
          (is.filterMap Item.line?).length - size := by
        have := congrArg List.length hLines
        simp only [List.length_append, Array.length_toList] at this
        omega
      have hStep : (is.filterMap Item.line?).length / size =
          ((is.filterMap Item.line?).length - size) / size + 1 := Nat.div_eq_sub_div hSize hLe
      have hMod : (is.filterMap Item.line?).length % size =
          ((is.filterMap Item.line?).length - size) % size := Nat.mod_eq_sub_mod hLe
      obtain ⟨fulls, final, hCut, hLen, hFulls, hFinal, hFinalSize, hAllLines, hAllRej⟩ :=
        ih (fillItems size empty is).2 (by rw [hRestLen]; omega)
      have hCount : k + 1 - (is.filterMap Item.line?).length / size - 1 =
          k - ((is.filterMap Item.line?).length - size) / size - 1 := by
        rw [hStep]
        omega
      refine ⟨(fillItems size empty is).1 :: fulls, final, ?_, ?_, ?_, hFinal, ?_, ?_, ?_⟩
      · rw [cut, hCut, hRestLen, hCount]
        simp
      · rw [List.length_cons, hLen, hRestLen, hStep]
      · intro sec hMem
        rcases List.mem_cons.1 hMem with rfl | hIn
        · exact ⟨hFull, hNotLast⟩
        · exact hFulls sec hIn
      · rw [hFinalSize, hRestLen, ← hMod]
      · simp only [List.cons_append, List.flatMap_cons]
        rw [hAllLines]
        exact hLines
      · simp only [List.cons_append, List.flatMap_cons]
        rw [hAllRej]
        exact hRej


/-
  The same cut, one request more, begins with the cut of one request
  less.
-/
theorem cut_prefix_succ
    (size k : Nat)
    (is : List Item) :
    cut size k is <+: cut size (k + 1) is := by
  induction k generalizing is with
  | zero => exact List.nil_prefix
  | succ k ih =>
    rw [cut, cut]
    exact List.cons_prefix_cons.2 ⟨rfl, ih _⟩

end Section

------------------------------------------------------------
-- What Reading Leaves Alone
------------------------------------------------------------

/- The raw lines of a content are never more than its octets. -/
theorem length_rawLines_le (X : Bytes) : (rawLines X).length ≤ X.length := by
  induction X with
  | nil => simp
  | cons b rest ih =>
    by_cases hb : b = 10
    · subst hb
      rw [rawLines_lf_cons, List.length_cons, List.length_cons]
      omega
    · simp only [rawLines, hb, if_false]
      split
      · simp
      · rename_i l ls hSplit
        rw [hSplit] at ih
        simp only [List.length_cons] at ih ⊢
        omega

/-
  From a line start, the raw lines of what is left are the next raw
  line and those after it.
-/
theorem LineStart.rawLines_drop
    {C b : Bytes}
    {n : Nat}
    (h : LineStart C n)
    (h' : LineStart C (n + b.length))
    (hOne : rawLines b = [b])
    (hDrop : C.drop n = b ++ C.drop (n + b.length))
    (hNe : b ≠ []) :
    rawLines (C.drop n) = b :: rawLines (C.drop (n + b.length)) := by
  have hHere := h.split
  have hThere := h'.split
  rw [h.take_add hOne hDrop hNe, List.append_assoc] at hThere
  rw [hHere] at hThere
  simpa using List.append_cancel_left hThere

/-
  A source serving `C` that knows how long it is: a stream it would
  open now holds no less than the content. This bounds the raw lines
  that one request can go through.
-/
def Serves.Sized
    {σ : Type} [ByteSource σ]
    {C : Bytes}
    (S : Serves σ C) : Prop :=
  ∀ s, S.inv s → C.length ≤ ByteSource.bound s

namespace Reader

variable {σ : Type}

/-
  What reading leaves alone: the name, the section size, the retries
  allowed, and whether the reader is closed.
-/
structure Keeps
    (r r' : Reader σ) : Prop where
  name : r'.name = r.name
  sectionSize : r'.sectionSize = r.sectionSize
  retries : r'.retries = r.retries
  closed : r'.closed = r.closed

theorem Keeps.rfl' (r : Reader σ) : Keeps r r := ⟨rfl, rfl, rfl, rfl⟩

theorem Keeps.trans
    {r r' r'' : Reader σ}
    (h : Keeps r r')
    (h' : Keeps r' r'') :
    Keeps r r'' :=
  ⟨h'.name.trans h.name, h'.sectionSize.trans h.sectionSize, h'.retries.trans h.retries,
    h'.closed.trans h.closed⟩

theorem keeps_drop (r : Reader σ) : Keeps r r.drop := ⟨rfl, rfl, rfl, rfl⟩

theorem keeps_log
    (r : Reader σ)
    (level : Level)
    (message : String)
    (attrs : List (String × String)) :
    Keeps r (r.log level message attrs) :=
  ⟨rfl, rfl, rfl, rfl⟩

variable [ByteSource σ]

theorem keeps_reset (r : Reader σ) : Keeps r r.reset.2 := by
  rcases hOpen : ByteSource.openAt r.source r.offset with ⟨res, src⟩
  cases res with
  | error f =>
    simp only [reset, drop, hOpen]
    exact ⟨rfl, rfl, rfl, rfl⟩
  | ok st =>
    simp only [reset, drop, hOpen]
    split <;> exact ⟨rfl, rfl, rfl, rfl⟩

theorem Keeps.of_reset
    {r₀ r₁ : Reader σ}
    {res : Option Failure}
    (h : r₀.reset = (res, r₁)) :
    Keeps r₀ r₁ := by
  have hKeeps := keeps_reset r₀
  rwa [h] at hKeeps

theorem keeps_nextChunk (r : Reader σ) : Keeps r r.nextChunk.2 := by
  have hReset := keeps_reset r
  unfold nextChunk
  split
  · exact ⟨rfl, rfl, rfl, rfl⟩
  · split
    · rename_i f r' hR
      rw [hR] at hReset
      exact hReset
    · rename_i r' hR
      rw [hR] at hReset
      split <;> exact hReset.trans ⟨rfl, rfl, rfl, rfl⟩

theorem keeps_attempt
    (start tries fuel : Nat)
    (r : Reader σ) :
    Keeps r (attempt start tries fuel r).2 := by
  induction fuel generalizing tries r with
  | zero => exact Keeps.rfl' r
  | succ fuel ih =>
    have hNext := keeps_nextChunk r
    simp only [attempt]
    rcases hc : r.nextChunk with ⟨c, r'⟩
    rw [hc] at hNext
    rcases c with b | (_ | ⟨x, xs⟩) | f
    · exact hNext.trans ⟨rfl, rfl, rfl, rfl⟩
    · exact hNext.trans ⟨rfl, rfl, rfl, rfl⟩
    · exact hNext.trans ⟨rfl, rfl, rfl, rfl⟩
    · dsimp only
      split
      · exact hNext.trans ⟨rfl, rfl, rfl, rfl⟩
      · exact hNext.trans ((keeps_log r' _ _ _).trans ((keeps_drop _).trans (ih _ _)))

theorem keeps_readOneLine (r : Reader σ) : Keeps r r.readOneLine.2 := by
  have hRaw : Keeps r r.readRaw.2 := by
    unfold readRaw
    split
    · exact Keeps.rfl' r
    · exact keeps_attempt _ _ _ r
  unfold readOneLine
  rcases hR : r.readRaw with ⟨res, r'⟩
  rw [hR] at hRaw
  cases res <;> exact hRaw.trans ⟨rfl, rfl, rfl, rfl⟩

theorem keeps_fill
    (start fuel : Nat)
    (sec : Section)
    (r : Reader σ) :
    Keeps r (fill start fuel sec r).2 := by
  induction fuel generalizing sec r with
  | zero => exact Keeps.rfl' r
  | succ fuel ih =>
    have hRead := keeps_readOneLine r
    unfold fill
    split
    · exact Keeps.rfl' r
    · rcases hR : r.readOneLine with ⟨res, r'⟩
      rw [hR] at hRead
      cases res with
      | failed e => exact hRead.trans ⟨rfl, rfl, rfl, rfl⟩
      | finished => exact hRead
      | line t =>
        dsimp only
        split
        · exact hRead.trans (ih _ _)
        · split <;> exact hRead.trans (ih _ _)

theorem keeps_readSection (r : Reader σ) : Keeps r r.readSection.2 := by
  unfold readSection
  split
  · exact Keeps.rfl' r
  · exact keeps_fill _ _ _ r

------------------------------------------------------------
-- Requests Against the Cut
------------------------------------------------------------

/- The items of the raw lines of `C` from offset `n` on, under the setup of a reader. -/
def itemsFrom
    (r : Reader σ)
    (C : Bytes)
    (n : Nat) : List Item :=
  (rawLines (C.drop n)).map r.item

/- The section that a request at offset `n` hands out when no read fails. -/
def sectionAt
    (r : Reader σ)
    (C : Bytes)
    (n : Nat) : Section :=
  (Section.fillItems r.sectionSize Section.empty (r.itemsFrom C n)).1

omit [ByteSource σ] in
theorem SameSetup.itemsFrom_eq
    {r r' : Reader σ}
    (h : SameSetup r r') :
    r'.itemsFrom = r.itemsFrom := by
  funext C n
  simp [itemsFrom, item, h.charset, h.ignoreEmpty, h.parser]

omit [ByteSource σ] in
/- The item of a raw line: skipped when its text is, else what the parser makes of it. -/
theorem item_eq
    (r : Reader σ)
    (b : Bytes) :
    r.item b =
      if r.skips (r.charset.decode (trimEol b)) then .skipped
      else
        match r.parser.parse (r.charset.decode (trimEol b)) with
        | .error f => .rejected (f.asLineError (r.charset.decode (trimEol b)))
        | .ok l => .line l :=
  rfl

/- A reader at the end reads nothing more. -/
theorem readOneLine_of_atEnd
    {r : Reader σ}
    (hEnd : r.atEnd = true) :
    r.readOneLine = (.finished, r) := by
  simp [readOneLine, readRaw, hEnd]

/- A request at the end never fails. -/
theorem fill_of_atEnd
    {r : Reader σ}
    (start fuel : Nat)
    (sec : Section)
    (hEnd : r.atEnd = true) :
    ∃ sec', (fill start fuel sec r).1 = .ok sec' := by
  cases fuel with
  | zero => exact ⟨sec, rfl⟩
  | succ fuel =>
    unfold fill
    split
    · exact ⟨sec, rfl⟩
    · rw [readOneLine_of_atEnd hEnd]
      exact ⟨_, rfl⟩

section Cut

variable {C : Bytes} {S : Serves σ C}

/-
  Filling a section, whatever fails, against the items from the offset:
  a section handed out is the one `Section.fillItems` fills from them,
  and the items left are those from the new offset; a failure puts the
  offset back at `start` and drops the stream. The fuel covers every
  raw line left and the end.
-/
theorem fill_items
    {r : Reader σ}
    (start : Nat)
    (sec : Section)
    {fuel : Nat}
    (hT : Tracks S r)
    (hFuel : (rawLines (C.drop r.offset)).length < fuel) :
    (∀ sec', (fill start fuel sec r).1 = .ok sec' →
      Section.fillItems r.sectionSize sec (r.itemsFrom C r.offset) =
        (sec', r.itemsFrom C (fill start fuel sec r).2.offset)) ∧
    (∀ e, (fill start fuel sec r).1 = .error e →
      (fill start fuel sec r).2.offset = start ∧ (fill start fuel sec r).2.stream = none ∧
        (fill start fuel sec r).2.atEnd = false) := by
  induction fuel generalizing sec r with
  | zero => exact absurd hFuel (Nat.not_lt_zero _)
  | succ fuel ih =>
    unfold fill
    split
    · rename_i hFull
      refine ⟨fun sec' h => ?_, fun e h => by simp at h⟩
      simp only [Except.ok.injEq] at h
      rw [← h, Section.fillItems_full hFull]
    · rename_i hRoom
      obtain ⟨hT', hSame, hOut⟩ := readOneLine_spec hT
      have hKeeps := keeps_readOneLine r
      rcases hRead : r.readOneLine with ⟨res, r'⟩
      rw [hRead] at hT' hSame hOut hKeeps
      dsimp only at hT' hSame hOut hKeeps
      cases res with
      | failed e =>
        obtain ⟨-, -, hEnd⟩ := hOut
        exact ⟨fun sec' h => by simp at h, fun _ _ => ⟨rfl, rfl, hEnd⟩⟩
      | finished =>
        obtain ⟨hAtEnd, hOff⟩ := hOut
        refine ⟨fun sec' h => ?_, fun e h => by simp at h⟩
        simp only [Except.ok.injEq] at h
        rw [← h, hOff, hAtEnd]
        simp [itemsFrom, Section.fillItems, hRoom]
      | line t =>
        obtain ⟨b, rfl, hOne, hNe, hDrop, hOff⟩ := hOut
        have hLines : rawLines (C.drop r.offset) = b :: rawLines (C.drop r'.offset) := by
          have hDropped := hT.lineStart.rawLines_drop (hOff ▸ hT'.lineStart) hOne
            (hOff ▸ hDrop) hNe
          rwa [← hOff] at hDropped
        have hItems : r.itemsFrom C r.offset = r.item b :: r.itemsFrom C r'.offset := by
          simp [itemsFrom, hLines]
        have hFuel' : (rawLines (C.drop r'.offset)).length < fuel := by
          rw [hLines, List.length_cons] at hFuel
          omega
        have hSize : r'.sectionSize = r.sectionSize := hKeeps.sectionSize
        have hAfter := hSame.itemsFrom_eq
        have hStep (sec₁ : Section)
            (hFill : Section.fillItems r.sectionSize sec (r.item b :: r.itemsFrom C r'.offset) =
              Section.fillItems r.sectionSize sec₁ (r.itemsFrom C r'.offset)) :
            (∀ sec', (fill start fuel sec₁ r').1 = .ok sec' →
              Section.fillItems r.sectionSize sec (r.itemsFrom C r.offset) =
                (sec', r.itemsFrom C (fill start fuel sec₁ r').2.offset)) ∧
            (∀ e, (fill start fuel sec₁ r').1 = .error e →
              (fill start fuel sec₁ r').2.offset = start ∧
                (fill start fuel sec₁ r').2.stream = none ∧
                (fill start fuel sec₁ r').2.atEnd = false) := by
          obtain ⟨hOk, hErr⟩ := ih sec₁ hT' hFuel'
          rw [hSize, hAfter] at hOk
          exact ⟨fun sec' h => by rw [hItems, hFill, hOk sec' h], hErr⟩
        dsimp only
        split
        · rename_i hSkip
          apply hStep sec
          rw [item_eq, ← hSame.skips_eq, if_pos hSkip]
          simp [Section.fillItems, hRoom]
        · rename_i hSkip
          split
          · rename_i f hParse
            apply hStep _
            rw [item_eq, ← hSame.skips_eq, if_neg hSkip, ← hSame.parser, hParse]
            simp [Section.fillItems, hRoom]
          · rename_i l hParse
            apply hStep _
            rw [item_eq, ← hSame.skips_eq, if_neg hSkip, ← hSame.parser, hParse]
            simp [Section.fillItems, hRoom]


/- The fuel of a request covers every raw line left and the end. -/
theorem rawLines_lt_lineBound
    {r : Reader σ}
    (hT : Tracks S r)
    (hSized : S.Sized) :
    (rawLines (C.drop r.offset)).length < r.lineBound := by
  have hLines := length_rawLines_le (C.drop r.offset)
  have hBound := hSized r.source hT.source_inv
  simp only [lineBound, List.length_drop] at hLines ⊢
  omega

/-
  A request, whatever fails: a section handed out is the one filled
  from the items at the offset, and the items left are those at the
  new offset; a request that fails leaves the offset and the end flag
  as they were, with no stream. A reader already at the end does not
  fail.
-/
theorem readSection_ok
    {r : Reader σ}
    (hT : Tracks S r)
    (hSized : S.Sized)
    (hOpen : r.closed = false) :
    (∀ sec, r.readSection.1 = .ok sec →
      Section.fillItems r.sectionSize Section.empty (r.itemsFrom C r.offset) =
        (sec, r.itemsFrom C r.readSection.2.offset)) ∧
    (∀ e, r.readSection.1 = .error e →
      r.readSection.2.offset = r.offset ∧ r.readSection.2.stream = none ∧
        r.readSection.2.atEnd = r.atEnd) := by
  have hFill := fill_items r.offset Section.empty hT (rawLines_lt_lineBound hT hSized)
  unfold readSection
  rw [if_neg (by simp [hOpen])]
  refine ⟨hFill.1, fun e h => ?_⟩
  obtain ⟨hOff, hStream, hEnd⟩ := hFill.2 e h
  refine ⟨hOff, hStream, ?_⟩
  cases hAt : r.atEnd
  · exact hEnd
  · obtain ⟨sec', hOk⟩ := fill_of_atEnd r.offset r.lineBound Section.empty hAt
    cases hOk.symm.trans h

end Cut

------------------------------------------------------------
-- After the Last Section
------------------------------------------------------------

/- A read that finds the end raises the end flag. -/
theorem attempt_finished
    {r : Reader σ}
    {start tries fuel : Nat}
    (hFuel : tries + fuel = r.retries + 2)
    (hPos : 0 < fuel)
    (hDone : (attempt start tries fuel r).1 = .finished) :
    (attempt start tries fuel r).2.atEnd = true := by
  induction fuel generalizing tries r with
  | zero => omega
  | succ fuel ih =>
    have hKeeps := keeps_nextChunk r
    simp only [attempt] at hDone ⊢
    rcases hc : r.nextChunk with ⟨c, r'⟩
    rw [hc] at hDone hKeeps
    rcases c with b | (_ | ⟨x, xs⟩) | f
    · cases hDone
    · rfl
    · cases hDone
    · dsimp only at hDone ⊢
      split at hDone
      · cases hDone
      · rename_i hRetry
        simp only [Bool.or_eq_true, decide_eq_true_eq, not_or] at hRetry
        have hRetries : r'.retries = r.retries := hKeeps.retries
        rw [if_neg (by simp only [Bool.or_eq_true, decide_eq_true_eq, not_or]; exact hRetry)]
        exact ih (by simp only [drop, log]; omega) (by omega) hDone

theorem readOneLine_finished
    {r : Reader σ}
    (hDone : r.readOneLine.1 = .finished) :
    r.readOneLine.2.atEnd = true := by
  by_cases hEnd : r.atEnd = true
  · rw [readOneLine_of_atEnd hEnd]
    exact hEnd
  · have hRaw : r.readRaw = attempt r.offset 1 (r.retries + 1) r := by simp [readRaw, hEnd]
    have hAt := @attempt_finished σ _ r r.offset 1 (r.retries + 1) (by omega) (by omega)
    unfold readOneLine at hDone ⊢
    rw [hRaw] at hDone ⊢
    generalize attempt r.offset 1 (r.retries + 1) r = p at hAt hDone ⊢
    obtain ⟨res, r'⟩ := p
    cases res with
    | line t => cases hDone
    | finished => exact hAt rfl
    | failed e => cases hDone

/- A section that comes out last leaves the reader at the end. -/
theorem fill_last
    {r : Reader σ}
    {sec sec' : Section}
    {start fuel : Nat}
    (hOk : (fill start fuel sec r).1 = .ok sec')
    (hLast : sec'.last = true)
    (hOpen : sec.last = false) :
    (fill start fuel sec r).2.atEnd = true := by
  induction fuel generalizing sec r with
  | zero =>
    simp only [fill, Except.ok.injEq] at hOk
    rw [← hOk, hOpen] at hLast
    cases hLast
  | succ fuel ih =>
    unfold fill at hOk ⊢
    split at hOk
    · simp only [Except.ok.injEq] at hOk
      rw [← hOk, hOpen] at hLast
      cases hLast
    · rename_i hRoom
      rw [if_neg hRoom]
      have hAtEnd := @readOneLine_finished σ _ r
      generalize r.readOneLine = p at hOk hAtEnd ⊢
      obtain ⟨res, r'⟩ := p
      cases res with
      | failed e => cases hOk
      | finished => exact hAtEnd rfl
      | line t =>
        dsimp only at hOk ⊢
        split
        · rename_i hSkip
          rw [if_pos hSkip] at hOk
          exact ih hOk hOpen
        · rename_i hSkip
          rw [if_neg hSkip] at hOk
          split
          · rename_i f hParse
            rw [hParse] at hOk
            exact ih hOk hOpen
          · rename_i l hParse
            rw [hParse] at hOk
            exact ih hOk hOpen

/- At the end, a request hands out the empty last section and changes nothing. -/
theorem readSection_ended
    {r : Reader σ}
    (hSize : 0 < r.sectionSize)
    (hOpen : r.closed = false)
    (hEnd : r.atEnd = true) :
    r.readSection = (.ok Section.ended, r) := by
  have hBound : r.lineBound = (r.lineBound - 1) + 1 := by
    unfold lineBound
    omega
  unfold readSection
  rw [if_neg (by simp [hOpen]), hBound, fill, if_neg (by simp; omega), readOneLine_of_atEnd hEnd]
  rfl

/- The results of `k` requests for a section in a row. -/
def claims (r : Reader σ) : Nat → List (Except Error Section)
  | 0 => []
  | k + 1 => r.readSection.1 :: r.readSection.2.claims k

theorem claims_ended
    {r : Reader σ}
    (hSize : 0 < r.sectionSize)
    (hOpen : r.closed = false)
    (hEnd : r.atEnd = true)
    (k : Nat) :
    r.claims k = List.replicate k (.ok Section.ended) := by
  induction k with
  | zero => rfl
  | succ k ih => rw [claims, readSection_ended hSize hOpen hEnd, ih, List.replicate_succ]

/-
  Once a request handed out the last section, every later request
  hands out the empty last section: no read is left that could fail.
-/
theorem claims_after_last
    {r : Reader σ}
    (hSize : 0 < r.sectionSize)
    (hOpen : r.closed = false)
    (k : Nat)
    {pre post : List (Except Error Section)}
    {sec : Section}
    (hSplit : r.claims k = pre ++ .ok sec :: post)
    (hLast : sec.last = true) :
    ∀ c ∈ post, c = .ok Section.ended := by
  induction k generalizing r pre with
  | zero => simp [claims] at hSplit
  | succ k ih =>
    have hKeeps := keeps_readSection r
    rw [claims] at hSplit
    cases pre with
    | nil =>
      simp only [List.nil_append, List.cons.injEq] at hSplit
      obtain ⟨hRes, hPost⟩ := hSplit
      have hEnd : r.readSection.2.atEnd = true := by
        unfold readSection at hRes ⊢
        rw [if_neg (by simp [hOpen])] at hRes ⊢
        exact fill_last hRes hLast rfl
      rw [← hPost, claims_ended (hKeeps.sectionSize ▸ hSize) (hKeeps.closed.trans hOpen) hEnd]
      intro c hc
      exact List.eq_of_mem_replicate hc
    | cons c pre =>
      simp only [List.cons_append, List.cons.injEq] at hSplit
      exact ih (hKeeps.sectionSize ▸ hSize) (hKeeps.closed.trans hOpen) hSplit.2

section Cut

variable {C : Bytes} {S : Serves σ C}

/-
  Whatever fails, the sections that requests in a row hand out are, in
  order, the first sections of the cut of the items at the offset.
-/
theorem claims_prefix_cut
    {r : Reader σ}
    (hT : Tracks S r)
    (hSized : S.Sized)
    (hOpen : r.closed = false)
    (k : Nat) :
    (r.claims k).filterMap Except.toOption <+:
      Section.cut r.sectionSize k (r.itemsFrom C r.offset) := by
  induction k generalizing r with
  | zero => exact List.nil_prefix
  | succ k ih =>
    obtain ⟨hOk, hErr⟩ := readSection_ok hT hSized hOpen
    obtain ⟨hT', hSame, -⟩ := readSection_spec hT
    have hKeeps := keeps_readSection r
    have hLater := ih hT' (hKeeps.closed.trans hOpen)
    rw [hKeeps.sectionSize, hSame.itemsFrom_eq] at hLater
    rw [claims]
    rcases hRes : r.readSection.1 with e | sec
    · obtain ⟨hOff, -, -⟩ := hErr e hRes
      rw [hOff] at hLater
      simpa [List.filterMap_cons, Except.toOption] using
        hLater.trans (Section.cut_prefix_succ _ _ _)
    · have hFill := hOk sec hRes
      rw [Section.cut, hFill]
      simpa [Except.toOption] using hLater

end Cut

/- A reader that opened has the section size it was asked for, and is not closed. -/
theorem open_fresh
    {src src' : σ}
    {opts : ReaderOptions}
    {r : Reader σ}
    (hOpen : Reader.open src opts = (.ok r, src')) :
    r.sectionSize = opts.sectionSize.toNat ∧ 0 < r.sectionSize ∧ r.closed = false := by
  unfold Reader.open at hOpen
  split at hOpen
  · simp at hOpen
  · rename_i hPos
    split at hOpen
    · simp at hOpen
    · dsimp only at hOpen
      split at hOpen
      · simp at hOpen
      · rename_i r₁ hReset
        simp only [Prod.mk.injEq, Except.ok.injEq] at hOpen
        obtain ⟨rfl, -⟩ := hOpen
        have hKeeps := Keeps.of_reset hReset
        refine ⟨hKeeps.sectionSize, ?_, hKeeps.closed⟩
        show 0 < r₁.sectionSize
        rw [hKeeps.sectionSize]
        dsimp only
        omega


------------------------------------------------------------
-- The Sections a Reader Hands Out
------------------------------------------------------------

section Shape

variable {C : Bytes}

/-
  Requests for sections from a reader that opened, whatever the source
  fails with. Let `P` be the number of raw lines that are kept (not
  skipped as blank) and that the parser turns into lines. The sections
  handed out are, in order, the first sections of the cut, and after
  the last one every request hands out the empty last section. The cut
  has `P / size` full sections that are not last, then a last one with
  the `P % size` lines left over, then only empty last sections; its
  lines are the accepted lines and its refusals are the parser's
  refusals, in the order of the input.
-/
theorem claimed_sections_follow_the_cut
    (S : Serves σ C)
    (hSized : S.Sized)
    (src : σ)
    (opts : ReaderOptions)
    {r : Reader σ}
    {src' : σ}
    (hSrc : S.inv src)
    (hOpen : Reader.open src opts = (.ok r, src'))
    (n : Nat) :
    let items := (rawLines C).map (lineItem r.charset opts.ignoreEmpty opts.parser)
    let size := opts.sectionSize.toNat
    let P := (items.filterMap Item.line?).length
    (r.claims n).filterMap Except.toOption <+: Section.cut size n items ∧
      (∀ pre sec post, r.claims n = pre ++ .ok sec :: post → sec.last = true →
        ∀ c ∈ post, c = .ok Section.ended) ∧
      ∀ k, P / size < k → ∃ fulls final,
        Section.cut size k items = fulls ++ final :: List.replicate (k - P / size - 1) Section.ended ∧
        fulls.length = P / size ∧
        (∀ sec ∈ fulls, sec.lines.size = size ∧ sec.last = false) ∧
        final.last = true ∧ final.lines.size = P % size ∧
        (fulls ++ [final]).flatMap (·.lines.toList) = items.filterMap Item.line? ∧
        (fulls ++ [final]).flatMap (·.rejected.toList) = items.filterMap Item.rejected? := by
  intro items size P
  obtain ⟨hT, hOff, hIgnore, hParser, -⟩ := open_spec hSrc hOpen
  obtain ⟨hSize, hPos, hClosed⟩ := open_fresh hOpen
  have hItems : r.itemsFrom C r.offset = items := by
    simp [itemsFrom, hOff, items, item, hIgnore, hParser]
  have hPrefix := claims_prefix_cut hT hSized hClosed n
  rw [hItems, hSize] at hPrefix
  have hPos' : 0 < opts.sectionSize.toNat := hSize ▸ hPos
  exact ⟨hPrefix, fun pre sec post hSplit hLast => claims_after_last hPos hClosed n hSplit hLast,
    fun k hk => Section.cut_shape hPos' k items hk⟩

/-
  A blank line that is kept is a line. With blank lines kept, the
  content "\n" read in sections of one line gives first a full section
  that is not last, then the empty last section, although its only raw
  line is empty: counting only the raw lines that are not blank would
  promise one last section without lines.
-/
theorem kept_blank_line_fills_a_section :
    ∃ r src', Reader.open (BlobSource.make (Bucket.empty.put "input.txt" [10]) "input.txt")
        { sectionSize := 1, ignoreEmpty := false } = (.ok r, src') ∧
      (rawLines [10]).map trimEol = [[]] ∧
      (r.claims 2).map (fun c => c.toOption.map fun sec => (sec.lines.size, sec.last)) =
        [some (1, false), some (0, true)] := by
  refine ⟨_, _, rfl, ?_⟩
  decide

end Shape

end Reader

namespace ScriptedSource

/- A scripted source knows how long its object is. -/
theorem serves_sized (C : Bytes) : (serves C).Sized := by
  rintro s ⟨b, hGet, rfl⟩
  simp [ByteSource.bound, hGet]

end ScriptedSource

namespace Reader

/-
  Three lines read in sections of two, through a source that gives a
  stream failing after two octets: the first request fails after its
  retry, and the requests after it hand out the sections of the cut.
-/
theorem claimed_sections_follow_the_cut_flaky :
    (ScriptedSource.serves [97, 10, 98, 10, 99]).Sized ∧
      (ScriptedSource.serves [97, 10, 98, 10, 99]).inv
        ⟨BlobSource.make (Bucket.empty.put "input.txt" [97, 10, 98, 10, 99]) "input.txt",
          { flakyOpens := 2, flakyAfter := 2 }, []⟩ ∧
      ∃ r src', Reader.open
          (⟨BlobSource.make (Bucket.empty.put "input.txt" [97, 10, 98, 10, 99]) "input.txt",
            { flakyOpens := 2, flakyAfter := 2 }, []⟩ : ScriptedSource)
          { sectionSize := 2, parser := ⟨fun raw => .ok ⟨raw, "", [raw]⟩⟩ } = (.ok r, src') ∧
        let items := (rawLines [97, 10, 98, 10, 99]).map
          (lineItem r.charset true ⟨fun raw => .ok ⟨raw, "", [raw]⟩⟩)
        let size := (2 : Int).toNat
        let P := (items.filterMap Item.line?).length
        (r.claims 4).filterMap Except.toOption <+: Section.cut size 4 items ∧
          (∀ pre sec post, r.claims 4 = pre ++ .ok sec :: post → sec.last = true →
            ∀ c ∈ post, c = .ok Section.ended) ∧
          ∀ k, P / size < k → ∃ fulls final,
            Section.cut size k items =
              fulls ++ final :: List.replicate (k - P / size - 1) Section.ended ∧
            fulls.length = P / size ∧
            (∀ sec ∈ fulls, sec.lines.size = size ∧ sec.last = false) ∧
            final.last = true ∧ final.lines.size = P % size ∧
            (fulls ++ [final]).flatMap (·.lines.toList) = items.filterMap Item.line? ∧
            (fulls ++ [final]).flatMap (·.rejected.toList) = items.filterMap Item.rejected? := by
  have hInv : (ScriptedSource.serves [97, 10, 98, 10, 99]).inv
      ⟨BlobSource.make (Bucket.empty.put "input.txt" [97, 10, 98, 10, 99]) "input.txt",
        { flakyOpens := 2, flakyAfter := 2 }, []⟩ :=
    ⟨_, Bucket.get?_put_self _ _ _, rfl⟩
  exact ⟨ScriptedSource.serves_sized _, hInv, _, _, rfl,
    claimed_sections_follow_the_cut (ScriptedSource.serves [97, 10, 98, 10, 99])
      (ScriptedSource.serves_sized _) _
      { sectionSize := 2, parser := ⟨fun raw => .ok ⟨raw, "", [raw]⟩⟩ } hInv rfl 4⟩

end Reader

end LineBatch
