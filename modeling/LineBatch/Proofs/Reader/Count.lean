import LineBatch.Proofs.Reader.Sections
import Mathlib.Algebra.GroupWithZero.Nat

/-
  Counting lines ahead of a run.

  Line-count progress is sized by counting the lines of the input
  before the run starts. The count reads raw lines as a reader does,
  through the same faults and retries, but neither decodes nor parses
  them: it leaves a raw line out when blank lines are skipped and the
  line's octets, without the terminator, are blank
  (`Reader.countFrom_spec`, `Reader.countLines_eq`).

  A reader decides blankness on the decoded text instead. Once its
  requests handed out the last section, the lines and rejections they
  handed out are one for every raw line whose decoded text is not
  skipped (`Section.prefix_itemCount`, `Reader.handed_itemCount`).

  The two agree for UTF-8, which decoding leaves as it is, and when
  blank lines are kept. They part where decoding turns octets that are
  not blank into a blank character: in windows-1252 the octet 0xA0 is
  the no-break space, while the octet alone is no UTF-8 and so not
  blank. The count then takes a line that the run never hands out.

  Main declarations:
    * `Item.isKept`, `Section.itemCount`, `Reader.countsRaw`
    * `Reader.countFrom_spec`, `Reader.countLines_eq`, `Reader.handed_itemCount`
    * `Reader.count_tests_blank_on_raw_octets`, `Reader.counted_nbsp_is_no_item`
-/

------------------------------------------------------------
-- Items Handed Out
------------------------------------------------------------

namespace LineBatch

/- Whether an item is handed out: a line or a rejection, not a skipped line. -/
def Item.isKept : Item → Bool
  | .skipped => false
  | _ => true

/- The lines and the rejections among items are the items handed out. -/
theorem Item.length_filterMap (is : List Item) :
    (is.filterMap Item.line?).length + (is.filterMap Item.rejected?).length =
      is.countP Item.isKept := by
  induction is with
  | nil => rfl
  | cons i is ih =>
    cases i <;> simp [List.filterMap_cons, List.countP_cons, Item.isKept] <;> omega

/- The item of a raw line is handed out unless its decoded text is skipped as blank. -/
theorem lineItem_isKept
    (cs : Charset)
    (ignoreEmpty : Bool)
    (parser : Parser)
    (raw : Bytes) :
    (lineItem cs ignoreEmpty parser raw).isKept =
      !(ignoreEmpty && Blank.isBlankLine (cs.decode (trimEol raw))) := by
  simp only [lineItem]
  split
  · rename_i hSkip
    simp [hSkip, Item.isKept]
  · rename_i hSkip
    rw [Bool.not_eq_true] at hSkip
    split <;> simp [Item.isKept, hSkip]

namespace Section

/- The items a section hands out: its lines and its rejections. -/
def itemCount (sec : Section) : Nat := sec.lines.size + sec.rejected.size

theorem sum_itemCount (secs : List Section) :
    (secs.map itemCount).sum =
      (secs.flatMap (·.lines.toList)).length + (secs.flatMap (·.rejected.toList)).length := by
  induction secs with
  | nil => rfl
  | cons sec secs ih =>
    simp only [List.map_cons, List.sum_cons, List.flatMap_cons, List.length_append, ih,
      itemCount, Array.length_toList]
    omega

/- The cut of more requests begins with the cut of fewer. -/
theorem cut_prefix_add
    (size k m : Nat)
    (is : List Item) :
    cut size k is <+: cut size (k + m) is := by
  induction m with
  | zero => exact List.prefix_refl _
  | succ m ih => exact ih.trans (cut_prefix_succ size (k + m) is)

/-
  Sections from the start of a cut that reach a last one hold every
  item handed out: before them the cut has only full sections, which
  are not last, and after them only empty last sections.
-/
theorem prefix_itemCount
    {size K : Nat}
    {is : List Item}
    {secs : List Section}
    (hSize : 0 < size)
    (hK : (is.filterMap Item.line?).length / size < K)
    (hPrefix : secs <+: cut size K is)
    (hLast : ∃ sec ∈ secs, sec.last = true) :
    (secs.map itemCount).sum = is.countP Item.isKept := by
  obtain ⟨fulls, final, hCut, -, hFulls, -, -, hLines, hRej⟩ := cut_shape hSize K is hK
  obtain ⟨rest, hEq⟩ := hPrefix
  rw [hCut] at hEq
  obtain ⟨sec, hMem, hIsLast⟩ := hLast
  have hNotFull : sec ∉ fulls := fun hIn => by simp [(hFulls sec hIn).2] at hIsLast
  rcases List.append_eq_append_iff.1 hEq with ⟨more, hFullsEq, -⟩ | ⟨tail, hSecs, hTail⟩
  · exact absurd (hFullsEq ▸ List.mem_append_left more hMem) hNotFull
  · rcases tail with _ | ⟨first, after⟩
    · simp only [List.append_nil] at hSecs
      exact absurd (hSecs ▸ hMem) hNotFull
    · simp only [List.cons_append, List.cons.injEq] at hTail
      obtain ⟨rfl, hEnded⟩ := hTail
      have hAfter : (after.map itemCount).sum = 0 := by
        have hSub : after = List.replicate after.length ended :=
          List.eq_replicate_iff.2 ⟨rfl, fun s hs =>
            List.eq_of_mem_replicate (hEnded ▸ List.mem_append_left rest hs)⟩
        rw [hSub, List.map_replicate]
        simp [itemCount, ended]
      have hUpTo : ((fulls ++ [final]).map itemCount).sum = is.countP Item.isKept := by
        rw [sum_itemCount, hLines, hRej, Item.length_filterMap]
      have hSplit : secs = (fulls ++ [final]) ++ after := by simp [hSecs]
      rw [hSplit, List.map_append, List.sum_append, hUpTo, hAfter, Nat.add_zero]

end Section

------------------------------------------------------------
-- The Count
------------------------------------------------------------

namespace Reader

variable {σ : Type} [ByteSource σ] {C : Bytes}

/- Whether the count takes a raw line: not when blank lines are skipped and its octets are blank. -/
def countsRaw (ignoreEmpty : Bool) (raw : Bytes) : Bool :=
  !(ignoreEmpty && Blank.isBlankLine (trimEol raw))

/-
  Counting from a reader that tracks the content, whatever fails: a
  count that stops without a failure took every raw line left that it
  does not skip as blank. The fuel covers every raw line left and the
  end.
-/
theorem countFrom_spec
    {S : Serves σ C}
    {r : Reader σ}
    {n fuel : Nat}
    (hT : Tracks S r)
    (hFuel : (rawLines (C.drop r.offset)).length < fuel)
    (hOk : (countFrom n fuel r).2.1 = none) :
    (countFrom n fuel r).1 =
      n + (rawLines (C.drop r.offset)).countP (countsRaw r.ignoreEmpty) := by
  induction fuel generalizing n r with
  | zero => exact absurd hFuel (Nat.not_lt_zero _)
  | succ fuel ih =>
    obtain ⟨hT', hSame, hOut⟩ := readRaw_spec hT
    rcases hRead : r.readRaw with ⟨res, r'⟩
    rw [hRead] at hT' hSame hOut
    dsimp only at hT' hSame hOut
    cases res with
    | failed e => simp [countFrom, hRead] at hOk
    | finished =>
      obtain ⟨hAtEnd, -⟩ := hOut
      simp [countFrom, hRead, hAtEnd]
    | line t =>
      obtain ⟨b, rfl, hOne, hNe, hDrop, hOff⟩ := hOut
      have hLines : rawLines (C.drop r.offset) = b :: rawLines (C.drop r'.offset) := by
        have hDropped := hT.lineStart.rawLines_drop (hOff ▸ hT'.lineStart) hOne
          (hOff ▸ hDrop) hNe
        rwa [← hOff] at hDropped
      have hFuel' : (rawLines (C.drop r'.offset)).length < fuel := by
        rw [hLines, List.length_cons] at hFuel
        omega
      have hIgnore : r'.ignoreEmpty = r.ignoreEmpty := hSame.ignoreEmpty
      simp only [countFrom, hRead] at hOk ⊢
      rw [hLines, List.countP_cons, ← hIgnore]
      by_cases hBlank : (r'.ignoreEmpty && Blank.isBlankLine (trimEol b)) = true
      · rw [if_pos hBlank] at hOk ⊢
        rw [ih hT' hFuel' hOk]
        simp [countsRaw, hBlank]
      · rw [if_neg hBlank] at hOk ⊢
        rw [ih hT' hFuel' hOk]
        simp only [countsRaw, hBlank, Bool.not_false, if_true]
        omega

/-
  A count on a source serving the content, whatever fails: when it
  ends without a failure it took every raw line of the content that it
  does not skip as blank by its octets. The count opens its own reader,
  which is the one the same options open on the same source.
-/
theorem countLines_eq
    (S : Serves σ C)
    (hSized : S.Sized)
    {src src' : σ}
    {opts : ReaderOptions}
    {r : Reader σ}
    (hSrc : S.inv src)
    (hOpen : Reader.open src opts = (.ok r, src'))
    {n : Nat}
    {src'' : σ}
    (hCount : countLines src opts = (n, none, src'')) :
    n = (rawLines C).countP (countsRaw opts.ignoreEmpty) := by
  obtain ⟨hT, hOff, hIgnore, -, -⟩ := open_spec hSrc hOpen
  have hFuel := rawLines_lt_lineBound hT hSized
  simp only [countLines, countLogged, hOpen, Prod.mk.injEq, Option.map_eq_none_iff] at hCount
  obtain ⟨hN, hNone, -⟩ := hCount
  have hSpec := countFrom_spec hT hFuel hNone
  rw [hN, hOff, List.drop_zero, hIgnore, Nat.zero_add] at hSpec
  exact hSpec

/-
  Requests for sections from a reader that opened, whatever fails:
  once they handed out the last section, the lines and rejections they
  handed out are one for every raw line that is not skipped as blank
  by its decoded text, as the sections handed out begin a cut long
  enough to reach its last section.
-/
theorem handed_itemCount
    (S : Serves σ C)
    (hSized : S.Sized)
    {src src' : σ}
    {opts : ReaderOptions}
    {r : Reader σ}
    (hSrc : S.inv src)
    (hOpen : Reader.open src opts = (.ok r, src'))
    (k : Nat)
    (hLast : ∃ sec, .ok sec ∈ r.claims k ∧ sec.last = true) :
    (((r.claims k).filterMap Except.toOption).map Section.itemCount).sum =
      (rawLines C).countP fun raw =>
        !(opts.ignoreEmpty && Blank.isBlankLine (r.charset.decode (trimEol raw))) := by
  obtain ⟨hT, hOff, hIgnore, hParser, -⟩ := open_spec hSrc hOpen
  obtain ⟨-, hPos, hClosed⟩ := open_fresh hOpen
  let items := (rawLines C).map (lineItem r.charset opts.ignoreEmpty opts.parser)
  have hItems : r.itemsFrom C r.offset = items := by
    simp [itemsFrom, hOff, items, item, hIgnore, hParser]
  have hPrefix := (claims_prefix_cut hT hSized hClosed k).trans
    (Section.cut_prefix_add r.sectionSize k ((items.filterMap Item.line?).length / r.sectionSize + 1)
      (r.itemsFrom C r.offset))
  rw [hItems] at hPrefix
  obtain ⟨sec, hMem, hIsLast⟩ := hLast
  have hHanded : sec ∈ (r.claims k).filterMap Except.toOption :=
    List.mem_filterMap.2 ⟨_, hMem, rfl⟩
  rw [Section.prefix_itemCount hPos (by omega) hPrefix ⟨sec, hHanded, hIsLast⟩, List.countP_map]
  congr 1
  funext raw
  exact lineItem_isKept r.charset opts.ignoreEmpty opts.parser raw

/-
  The count and the items of a run, on a source serving the content,
  whatever fails and for every setup a reader opens with. A count that
  ends without a failure takes every raw line whose octets, without
  the terminator, are not skipped as blank; requests for sections that
  reach the last one hand out a line or a rejection for every raw line
  whose decoded text is not skipped. So the two agree when the encoding
  is UTF-8 or blank lines are kept.
-/
theorem count_tests_blank_on_raw_octets
    (S : Serves σ C)
    (hSized : S.Sized)
    (src : σ)
    (opts : ReaderOptions)
    {r : Reader σ}
    {src' : σ}
    (hSrc : S.inv src)
    (hOpen : Reader.open src opts = (.ok r, src')) :
    (∀ n src'', countLines src opts = (n, none, src'') →
      n = (rawLines C).countP fun raw => !(opts.ignoreEmpty && Blank.isBlankLine (trimEol raw))) ∧
    (∀ k, (∃ sec, .ok sec ∈ r.claims k ∧ sec.last = true) →
      (((r.claims k).filterMap Except.toOption).map Section.itemCount).sum =
        (rawLines C).countP fun raw =>
          !(opts.ignoreEmpty && Blank.isBlankLine (r.charset.decode (trimEol raw)))) ∧
    (r.charset.encoding = .utf8 ∨ opts.ignoreEmpty = false →
      ∀ n src'' k, countLines src opts = (n, none, src'') →
        (∃ sec, .ok sec ∈ r.claims k ∧ sec.last = true) →
        n = (((r.claims k).filterMap Except.toOption).map Section.itemCount).sum) := by
  have hCount (n : Nat) (src'' : σ) (h : countLines src opts = (n, none, src'')) :=
    countLines_eq S hSized hSrc hOpen h
  have hHanded (k : Nat) (h : ∃ sec, .ok sec ∈ r.claims k ∧ sec.last = true) :=
    handed_itemCount S hSized hSrc hOpen k h
  refine ⟨hCount, hHanded, fun hAgree n src'' k hN hK => ?_⟩
  rw [hCount n src'' hN, hHanded k hK]
  congr 1
  funext raw
  rcases hAgree with hUtf8 | hKept
  · simp [countsRaw, Charset.decode, hUtf8]
  · simp [countsRaw, hKept]

/-
  The windows-1252 content "\xA0\n" (asked for as "latin1") read
  through a source whose first stream fails after one octet: the
  theorem applies to the count and to the requests of the reader.
-/
theorem count_tests_blank_on_raw_octets_flaky :
    (ScriptedSource.serves [0xA0, 10]).Sized ∧
      (ScriptedSource.serves [0xA0, 10]).inv
        ⟨BlobSource.make (Bucket.empty.put "input.txt" [0xA0, 10]) "input.txt",
          { flakyOpens := 1, flakyAfter := 1 }, []⟩ ∧
      ∃ r src', Reader.open
          (⟨BlobSource.make (Bucket.empty.put "input.txt" [0xA0, 10]) "input.txt",
            { flakyOpens := 1, flakyAfter := 1 }, []⟩ : ScriptedSource)
          { encoding := "latin1" } = (.ok r, src') ∧
        (∀ n src'', countLines
            (⟨BlobSource.make (Bucket.empty.put "input.txt" [0xA0, 10]) "input.txt",
              { flakyOpens := 1, flakyAfter := 1 }, []⟩ : ScriptedSource)
            { encoding := "latin1" } = (n, none, src'') →
          n = (rawLines [0xA0, 10]).countP fun raw => !(true && Blank.isBlankLine (trimEol raw))) ∧
        (∀ k, (∃ sec, .ok sec ∈ r.claims k ∧ sec.last = true) →
          (((r.claims k).filterMap Except.toOption).map Section.itemCount).sum =
            (rawLines [0xA0, 10]).countP fun raw =>
              !(true && Blank.isBlankLine (r.charset.decode (trimEol raw)))) ∧
        (r.charset.encoding = .utf8 ∨ true = false →
          ∀ n src'' k, countLines
              (⟨BlobSource.make (Bucket.empty.put "input.txt" [0xA0, 10]) "input.txt",
                { flakyOpens := 1, flakyAfter := 1 }, []⟩ : ScriptedSource)
              { encoding := "latin1" } = (n, none, src'') →
            (∃ sec, .ok sec ∈ r.claims k ∧ sec.last = true) →
            n = (((r.claims k).filterMap Except.toOption).map Section.itemCount).sum) := by
  have hInv : (ScriptedSource.serves [0xA0, 10]).inv
      ⟨BlobSource.make (Bucket.empty.put "input.txt" [0xA0, 10]) "input.txt",
        { flakyOpens := 1, flakyAfter := 1 }, []⟩ :=
    ⟨_, Bucket.get?_put_self _ _ _, rfl⟩
  exact ⟨ScriptedSource.serves_sized _, hInv, _, _, rfl,
    count_tests_blank_on_raw_octets (ScriptedSource.serves [0xA0, 10])
      (ScriptedSource.serves_sized _) _ { encoding := "latin1" } hInv rfl⟩

/-
  The count takes a line that the run never hands out. In windows-1252
  (asked for as "latin1") the content "\xA0\n" is one raw line, the
  no-break space. Its octet alone is no UTF-8 and so not blank, and the
  count takes it; decoded it is blank, and the reader skips it, so the
  one section the reader hands out is the last one and holds no item.
-/
theorem counted_nbsp_is_no_item :
    ∃ r src', Reader.open (BlobSource.make (Bucket.empty.put "input.txt" [0xA0, 10]) "input.txt")
        { encoding := "latin1" } = (.ok r, src') ∧
      (countLines (BlobSource.make (Bucket.empty.put "input.txt" [0xA0, 10]) "input.txt")
          { encoding := "latin1" }).1 = 1 ∧
      (countLines (BlobSource.make (Bucket.empty.put "input.txt" [0xA0, 10]) "input.txt")
          { encoding := "latin1" }).2.1 = none ∧
      (r.claims 1).map (fun c => c.toOption.map fun sec => (sec.itemCount, sec.last)) =
        [some (0, true)] := by
  refine ⟨_, _, rfl, ?_⟩
  decide +kernel

end Reader

end LineBatch
