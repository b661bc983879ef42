import LineBatch.Reader.Cooldown
import LineBatch.Source.Blob

/-
  The pauses of a cooling reader.

  A cooling reader tells its listeners of a pause with the notices of
  `Cooldown.pause`: every listener hears the start, in the order they
  were added, then every listener hears the end. Whatever calls are made
  on it, and by whichever callers in whatever order, the notices it
  gives are whole pauses one after another, so two pauses never overlap
  and each listener hears start and end in turn.

  When the reader below reports every raw line, lines are counted one
  by one as they are read, and the reader pauses once for every
  `afterLines` of them: blank lines, refused lines and lines read again
  after a failed claim all count (`Reader.linesRead` counts every raw
  line read). Otherwise a claim counts what it hands out at once, and
  the count starts again at zero after each pause.

  Main declarations:
    * `Reader.readSection_linesRead`, `Reader.readLine_linesRead`
    * `Cooldown.tickEach_add`, `Cooldown.tickEach_spec`, `Cooldown.pauses_heard`
    * `CoolingReader.Pausing`, `CoolingReader.Pausing.session`
    * `CoolingReader.pauses_come_whole_in_turn`
-/

------------------------------------------------------------
-- Counting the Raw Lines Read
------------------------------------------------------------

namespace LineBatch

namespace Reader

variable {σ : Type} [ByteSource σ]

theorem reset_linesRead (r : Reader σ) : r.reset.2.linesRead = r.linesRead := by
  rcases hOpen : ByteSource.openAt r.source r.offset with ⟨res, src⟩
  cases res with
  | error f =>
    simp only [reset, drop, hOpen]
  | ok st =>
    simp only [reset, drop, hOpen]
    split <;> rfl

theorem nextChunk_linesRead (r : Reader σ) : r.nextChunk.2.linesRead = r.linesRead := by
  have hReset := reset_linesRead r
  unfold nextChunk
  split
  · rfl
  · split
    · rename_i f r' hR
      rw [hR] at hReset
      exact hReset
    · rename_i r' hR
      rw [hR] at hReset
      split <;> exact hReset

/- Trying to read a line counts nothing yet: the count moves once the line is decoded. -/
theorem attempt_linesRead (start tries fuel : Nat) (r : Reader σ) :
    (attempt start tries fuel r).2.linesRead = r.linesRead := by
  induction fuel generalizing tries r with
  | zero => rfl
  | succ fuel ih =>
    have hNext := nextChunk_linesRead r
    simp only [attempt]
    rcases hc : r.nextChunk with ⟨c, r'⟩
    rw [hc] at hNext
    rcases c with b | (_ | ⟨x, xs⟩) | f
    · exact hNext
    · exact hNext
    · exact hNext
    · dsimp only
      split
      · exact hNext
      · rw [ih]
        exact hNext

/- Reading a raw line counts it, and only then. -/
theorem readOneLine_linesRead (r : Reader σ) :
    r.readOneLine.2.linesRead = r.linesRead + (match r.readOneLine.1 with
      | .line _ => 1
      | _ => 0) := by
  have hRaw : r.readRaw.2.linesRead = r.linesRead := by
    unfold readRaw
    split
    · rfl
    · exact attempt_linesRead _ _ _ r
  unfold readOneLine
  rcases hR : r.readRaw with ⟨res, r'⟩
  rw [hR] at hRaw
  dsimp only at hRaw
  cases res <;> simp [hRaw]

theorem le_readOneLine_linesRead (r : Reader σ) : r.linesRead ≤ r.readOneLine.2.linesRead := by
  rw [readOneLine_linesRead]
  exact Nat.le_add_right _ _

theorem fill_linesRead (start fuel : Nat) (sec : Section) (r : Reader σ) :
    r.linesRead ≤ (fill start fuel sec r).2.linesRead := by
  induction fuel generalizing sec r with
  | zero => exact Nat.le_refl _
  | succ fuel ih =>
    have hRead := le_readOneLine_linesRead r
    unfold fill
    split
    · exact Nat.le_refl _
    · rcases hR : r.readOneLine with ⟨res, r'⟩
      rw [hR] at hRead
      cases res with
      | failed e => exact hRead
      | finished => exact hRead
      | line t =>
        dsimp only
        split
        · exact Nat.le_trans hRead (ih _ _)
        · split <;> exact Nat.le_trans hRead (ih _ _)

/- A claim never takes back a line it counted, even when it fails and rolls back. -/
theorem readSection_linesRead (r : Reader σ) : r.linesRead ≤ r.readSection.2.linesRead := by
  unfold readSection
  split
  · exact Nat.le_refl _
  · exact fill_linesRead _ _ _ r

theorem nextLine_linesRead (fuel : Nat) (r : Reader σ) :
    r.linesRead ≤ (nextLine fuel r).2.linesRead := by
  induction fuel generalizing r with
  | zero => exact Nat.le_refl _
  | succ fuel ih =>
    have hRead := le_readOneLine_linesRead r
    unfold nextLine
    rcases hR : r.readOneLine with ⟨res, r'⟩
    rw [hR] at hRead
    cases res with
    | failed e => exact hRead
    | finished => exact hRead
    | line t =>
      dsimp only
      split
      · exact Nat.le_trans hRead (ih r')
      · split <;> exact hRead

theorem readLine_linesRead (r : Reader σ) : r.linesRead ≤ r.readLine.2.linesRead := by
  unfold readLine
  split
  · exact Nat.le_refl _
  · exact nextLine_linesRead _ r

theorem close_linesRead (r : Reader σ) : r.close.2.linesRead = r.linesRead := by
  rw [close_snd]
  split <;> rfl

end Reader

------------------------------------------------------------
-- Counting Toward a Pause
------------------------------------------------------------

namespace Cooldown

/- The notices of `m` pauses, one after another. -/
def pauses (c : Cooldown) (m : Nat) : List Notice := (List.replicate m c.pause).flatten

/- Two cooldowns with the same threshold, way of counting and listeners. -/
structure Same (c c' : Cooldown) : Prop where
  afterLines : c'.afterLines = c.afterLines
  perLine : c'.perLine = c.perLine
  listeners : c'.listeners = c.listeners

/- The count is below the threshold whenever pausing is on. -/
def Below (c : Cooldown) : Prop := c.enabled = true → (c.count : Int) < c.afterLines

variable {c c' c'' : Cooldown}

theorem Same.refl (c : Cooldown) : Same c c := ⟨rfl, rfl, rfl⟩

theorem Same.trans (h : Same c c') (h' : Same c' c'') : Same c c'' :=
  ⟨h'.afterLines.trans h.afterLines, h'.perLine.trans h.perLine, h'.listeners.trans h.listeners⟩

theorem Same.count (c : Cooldown) (n : Nat) : Same c { c with count := n } := ⟨rfl, rfl, rfl⟩

theorem Same.pauses_eq (h : Same c c') : c'.pauses = c.pauses := by
  unfold pauses pause
  rw [h.listeners]

theorem Same.enabled_eq (h : Same c c') : c'.enabled = c.enabled := by
  unfold enabled
  rw [h.afterLines]

theorem pauses_zero (c : Cooldown) : c.pauses 0 = [] := rfl

theorem pauses_succ (c : Cooldown) (m : Nat) : c.pauses (m + 1) = c.pause ++ c.pauses m := by
  simp [pauses, List.replicate_succ]

theorem pauses_add (c : Cooldown) (m n : Nat) : c.pauses (m + n) = c.pauses m ++ c.pauses n := by
  simp [pauses, ← List.replicate_append_replicate]

theorem tick_same (c : Cooldown) (n : Nat) : Same c (c.tick n).2 := by
  unfold tick
  split
  · exact Same.refl c
  · split
    · exact Same.count c _
    · exact Same.count c 0

/- One count gives no notice or one whole pause. -/
theorem tick_pauses (c : Cooldown) (n : Nat) : ∃ m, (c.tick n).1 = c.pauses m := by
  unfold tick
  split
  · exact ⟨0, rfl⟩
  · split
    · exact ⟨0, rfl⟩
    · exact ⟨1, by simp [pauses]⟩

theorem tick_below (c : Cooldown) (n : Nat) (h : c.Below) : (c.tick n).2.Below := by
  intro hOn
  have hEnabled : c.enabled = true := (tick_same c n).enabled_eq ▸ hOn
  unfold tick
  split
  · exact h hEnabled
  · split
    · assumption
    · simp only [enabled, decide_eq_true_eq] at hEnabled
      simpa using hEnabled

theorem tick_of_disabled (c : Cooldown) (n : Nat) (h : c.enabled = false) : c.tick n = ([], c) := by
  simp [tick, h]

theorem tick_zero (c : Cooldown) : c.tick 0 = ([], c) := by
  simp [tick]

/-
  Counting `n` lines at once from below the threshold: the count moves
  up by `n`, or, when it reaches the threshold, a pause comes and the
  count starts again at zero. Counting none changes nothing.
-/
theorem tick_of_below
    (n : Nat)
    (h : c.enabled = true)
    (hBelow : c.Below) :
    c.tick n = if ((c.count + n : Nat) : Int) < c.afterLines then ([], { c with count := c.count + n })
      else (c.pause, { c with count := 0 }) := by
  by_cases hn : n = 0
  · subst hn
    rw [tick_zero, Nat.add_zero, if_pos (hBelow h)]
  · simp [tick, h, hn]

theorem tick_one
    (h : c.enabled = true)
    (hBelow : c.Below) :
    c.tick 1 = if c.count + 1 < c.afterLines.toNat then ([], { c with count := c.count + 1 })
      else (c.pause, { c with count := 0 }) := by
  have hPos : 0 < c.afterLines := by simpa [enabled] using h
  have hIff : ((c.count + 1 : Nat) : Int) < c.afterLines ↔ c.count + 1 < c.afterLines.toNat := by
    omega
  rw [tick_of_below 1 h hBelow]
  by_cases hNext : c.count + 1 < c.afterLines.toNat
  · rw [if_pos (hIff.2 hNext), if_pos hNext]
  · rw [if_neg (fun h' => hNext (hIff.1 h')), if_neg hNext]

theorem tickEach_zero (c : Cooldown) : c.tickEach 0 = ([], c) := rfl

theorem tickEach_same (c : Cooldown) (k : Nat) : Same c (c.tickEach k).2 := by
  induction k generalizing c with
  | zero => exact Same.refl c
  | succ k ih => exact (tick_same c 1).trans (ih _)

@[simp] theorem tickEach_perLine (c : Cooldown) (k : Nat) : (c.tickEach k).2.perLine = c.perLine :=
  (tickEach_same c k).perLine

/- Counting lines one by one in two runs is counting them in one. -/
theorem tickEach_add (c : Cooldown) (a b : Nat) :
    c.tickEach (a + b) =
      ((c.tickEach a).1 ++ ((c.tickEach a).2.tickEach b).1, ((c.tickEach a).2.tickEach b).2) := by
  induction a generalizing c with
  | zero => simp [tickEach_zero]
  | succ a ih =>
    rw [Nat.add_right_comm]
    simp only [tickEach, ih, List.append_assoc]

theorem tickEach_of_disabled (c : Cooldown) (k : Nat) (h : c.enabled = false) :
    c.tickEach k = ([], c) := by
  induction k with
  | zero => rfl
  | succ k ih => simp [tickEach, tick_of_disabled c 1 h, ih]

/-
  Counting `k` lines one by one from a count below the threshold gives
  a pause for every threshold reached, and leaves the rest as the count:
  each line moves the count up by one, and at the threshold a pause
  comes and counting starts again.
-/
theorem tickEach_spec
    (k : Nat)
    (h : c.enabled = true)
    (hBelow : c.Below) :
    c.tickEach k = (c.pauses ((c.count + k) / c.afterLines.toNat),
      { c with count := (c.count + k) % c.afterLines.toNat }) := by
  induction k generalizing c with
  | zero =>
    have hLt : c.count < c.afterLines.toNat := by
      have := hBelow h
      omega
    rw [Nat.add_zero, Nat.div_eq_of_lt hLt, Nat.mod_eq_of_lt hLt]
    rfl
  | succ k ih =>
    have hPos : 0 < c.afterLines.toNat := by
      simp only [enabled, decide_eq_true_eq] at h
      omega
    simp only [tickEach]
    rw [tick_one h hBelow]
    by_cases hNext : c.count + 1 < c.afterLines.toNat
    · rw [if_pos hNext]
      have hBelow' : Cooldown.Below { c with count := c.count + 1 } := fun _ => by
        show ((c.count + 1 : Nat) : Int) < c.afterLines
        omega
      rw [@ih { c with count := c.count + 1 } h hBelow']
      simp only [pauses, pause, Nat.add_right_comm, Nat.add_assoc, List.nil_append]
    · rw [if_neg hNext]
      have hReach : c.count + 1 = c.afterLines.toNat := by
        have := hBelow h
        omega
      have hBelow' : Cooldown.Below { c with count := 0 } := fun _ => by
        show ((0 : Nat) : Int) < c.afterLines
        omega
      rw [@ih { c with count := 0 } h hBelow']
      have hTotal : c.count + (k + 1) = k + c.afterLines.toNat := by omega
      simp only [Nat.zero_add, hTotal, Nat.add_div_right k hPos, Nat.add_mod_right]
      rw [Nat.add_comm (k / _) 1, pauses_add]
      simp [pauses, pause]

/- Counting line after line gives whole pauses, from any count. -/
theorem tickEach_pauses (c : Cooldown) (k : Nat) : ∃ m, (c.tickEach k).1 = c.pauses m := by
  induction k generalizing c with
  | zero => exact ⟨0, rfl⟩
  | succ k ih =>
    obtain ⟨a, hFirst⟩ := tick_pauses c 1
    obtain ⟨b, hRest⟩ := ih (c.tick 1).2
    refine ⟨a + b, ?_⟩
    rw [pauses_add, ← hFirst, ← (tick_same c 1).pauses_eq, ← hRest]
    rfl

theorem tickEach_below (c : Cooldown) (k : Nat) (h : c.Below) : (c.tickEach k).2.Below := by
  intro hOn
  have hEnabled : c.enabled = true := (tickEach_same c k).enabled_eq ▸ hOn
  have hPos : 0 < c.afterLines := by simpa [enabled] using hEnabled
  have hMod := Nat.mod_lt (c.count + k) (show 0 < c.afterLines.toNat by omega)
  rw [tickEach_spec k hEnabled h]
  show (((c.count + k) % c.afterLines.toNat : Nat) : Int) < c.afterLines
  omega

/-
  A listener added once hears, over whole pauses, the start and the end
  of each pause in turn.
-/
theorem pauses_heard
    (m : Nat)
    (l : Nat)
    (hNodup : c.listeners.Nodup)
    (hl : l ∈ c.listeners) :
    ((c.pauses m).filter (·.listener == l)).map (·.active) =
      (List.replicate m [true, false]).flatten := by
  have hOnce : c.listeners.filter (· == l) = [l] := by
    rw [List.filter_beq, hNodup.count, if_pos hl]
    rfl
  have hPause : (c.pause.filter (·.listener == l)).map (·.active) = [true, false] := by
    simp only [pause, List.filter_append, List.filter_map, List.map_append, List.map_map]
    have hStart : (fun x : Nat => x == l) = ((·.listener == l) ∘ fun x => (⟨x, true⟩ : Notice)) :=
      rfl
    have hEnd : (fun x : Nat => x == l) = ((·.listener == l) ∘ fun x => (⟨x, false⟩ : Notice)) :=
      rfl
    rw [← hStart, ← hEnd, hOnce]
    rfl
  induction m with
  | zero => rfl
  | succ m ih =>
    rw [pauses_succ, List.filter_append, List.map_append, hPause, ih, List.replicate_succ,
      List.flatten_cons]

end Cooldown

------------------------------------------------------------
-- One Call
------------------------------------------------------------

namespace CoolingReader

variable {σ : Type} [ByteSource σ]

/-
  What a call did to the cooldown, for `d` raw lines read: counted them
  one by one, or counted some number of lines at once.
-/
def Ticks (cd : Cooldown) (d : Nat) (ns : List Notice) (cd' : Cooldown) : Prop :=
  if cd.perLine then (ns, cd') = cd.tickEach d else ∃ n, (ns, cd') = cd.tick n

/-
  A claim hands out what the reader below hands out. Counting one by
  one, it counts the raw lines the reader read; otherwise a section
  handed out counts its lines and its refused lines, and a failed claim
  counts nothing.
-/
theorem readSection_spec (c : CoolingReader σ) :
    c.readSection.1 = c.reader.readSection.1 ∧ c.readSection.2.2.reader = c.reader.readSection.2 ∧
      (c.readSection.2.1, c.readSection.2.2.cooldown) =
        if c.cooldown.perLine then
          c.cooldown.tickEach (c.reader.readSection.2.linesRead - c.reader.linesRead)
        else match c.reader.readSection.1 with
          | .ok sec => c.cooldown.tick (sec.lines.size + sec.rejected.size)
          | .error _ => ([], c.cooldown) := by
  unfold readSection countRead
  rcases hR : c.reader.readSection with ⟨res, r⟩
  cases hLine : c.cooldown.perLine <;> cases res <;> simp [hLine]

/- Whether a line read counts when lines are counted at once: handed out, or refused as malformed. -/
def countsAtOnce : Except Error (Option Line) → Bool
  | .ok (some _) => true
  | .error e => e.code == Error.codeFormat
  | .ok none => false

/-
  A line handed out, or refused as malformed, counts one when lines are
  counted at once; the end of the input and other failures count nothing.
-/
theorem readLine_spec (c : CoolingReader σ) :
    c.readLine.1 = c.reader.readLine.1 ∧ c.readLine.2.2.reader = c.reader.readLine.2 ∧
      (c.readLine.2.1, c.readLine.2.2.cooldown) =
        if c.cooldown.perLine then
          c.cooldown.tickEach (c.reader.readLine.2.linesRead - c.reader.linesRead)
        else if countsAtOnce c.reader.readLine.1 then c.cooldown.tick 1
          else ([], c.cooldown) := by
  unfold readLine countRead
  rcases hR : c.reader.readLine with ⟨res, r⟩
  cases hLine : c.cooldown.perLine
  · rcases res with e | (_ | l)
    · by_cases hFormat : e.code = Error.codeFormat <;> simp [hLine, hFormat, countsAtOnce]
    · simp [hLine, countsAtOnce]
    · simp [hLine, countsAtOnce]
  · simp [hLine]

theorem readSection_ticks (c : CoolingReader σ) :
    Ticks c.cooldown (c.readSection.2.2.reader.linesRead - c.reader.linesRead)
      c.readSection.2.1 c.readSection.2.2.cooldown := by
  obtain ⟨-, hReader, hCount⟩ := c.readSection_spec
  unfold Ticks
  rw [hReader, hCount]
  split
  · rfl
  · split
    · exact ⟨_, rfl⟩
    · exact ⟨0, (Cooldown.tick_zero _).symm⟩

theorem readLine_ticks (c : CoolingReader σ) :
    Ticks c.cooldown (c.readLine.2.2.reader.linesRead - c.reader.linesRead)
      c.readLine.2.1 c.readLine.2.2.cooldown := by
  obtain ⟨-, hReader, hCount⟩ := c.readLine_spec
  unfold Ticks
  rw [hReader, hCount]
  split
  · rfl
  · split
    · exact ⟨1, rfl⟩
    · exact ⟨0, (Cooldown.tick_zero _).symm⟩

------------------------------------------------------------
-- Whole Pauses Along Any Calls
------------------------------------------------------------

/-
  What the notices `ns` heard since `c₀`, with the cooling reader now
  `c`, keep: the settings of `c₀`, a count below the threshold, whole
  pauses (none when pausing is off), raw lines only ever counted up,
  and, when lines are counted one by one, exactly the pauses and the
  count of counting every raw line read since `c₀`.
-/
structure Pausing (c₀ : CoolingReader σ) (ns : List Notice) (c : CoolingReader σ) : Prop where
  same : c₀.cooldown.Same c.cooldown
  below : c.cooldown.Below
  whole : ∃ m, ns = c₀.cooldown.pauses m
  quiet : c₀.cooldown.enabled = false → ns = []
  counted : c₀.reader.linesRead ≤ c.reader.linesRead
  perLine : c₀.cooldown.perLine = true →
    (ns, c.cooldown) = c₀.cooldown.tickEach (c.reader.linesRead - c₀.reader.linesRead)

omit [ByteSource σ] in
/- A fresh cooling reader has heard nothing and counted nothing. -/
theorem Pausing.start (r : Reader σ) (afterLines : Int) (observes : Bool) (listeners : List Nat) :
    Pausing (make r afterLines observes listeners) [] (make r afterLines observes listeners) where
  same := Cooldown.Same.refl _
  below := fun h => by simpa [make, Cooldown.enabled] using h
  whole := ⟨0, rfl⟩
  quiet := fun _ => rfl
  counted := Nat.le_refl _
  perLine := fun _ => by simp [Cooldown.tickEach_zero]

variable {c₀ c c' : CoolingReader σ} {ns ns' : List Notice}

omit [ByteSource σ] in
/-
  The step: a call that counted its raw lines as the cooldown does keeps
  the pauses whole, since whichever way it counted, it made one count.
-/
theorem Pausing.of_ticks
    (h : Pausing c₀ ns c)
    (hCounted : c.reader.linesRead ≤ c'.reader.linesRead)
    (hTicks : Ticks c.cooldown (c'.reader.linesRead - c.reader.linesRead) ns' c'.cooldown) :
    Pausing c₀ (ns ++ ns') c' := by
  have hPauses : c.cooldown.pauses = c₀.cooldown.pauses := h.same.pauses_eq
  have hEnabled : c.cooldown.enabled = c₀.cooldown.enabled := h.same.enabled_eq
  obtain ⟨out, hOut, hSame, hBelow, hWhole, hQuiet⟩ : ∃ out : List Notice × Cooldown,
      (ns', c'.cooldown) = out ∧ c.cooldown.Same out.2 ∧ out.2.Below ∧
        (∃ m, out.1 = c.cooldown.pauses m) ∧ (c.cooldown.enabled = false → out.1 = []) := by
    unfold Ticks at hTicks
    split at hTicks
    · refine ⟨_, hTicks, Cooldown.tickEach_same _ _, Cooldown.tickEach_below _ _ h.below,
        Cooldown.tickEach_pauses _ _, fun hOff => ?_⟩
      rw [Cooldown.tickEach_of_disabled _ _ hOff]
    · obtain ⟨n, hTick⟩ := hTicks
      refine ⟨_, hTick, Cooldown.tick_same _ n, Cooldown.tick_below _ n h.below,
        Cooldown.tick_pauses _ n, fun hOff => ?_⟩
      rw [Cooldown.tick_of_disabled _ _ hOff]
  obtain ⟨rfl, hCd⟩ := Prod.mk.inj hOut
  refine ⟨h.same.trans (hCd ▸ hSame), hCd ▸ hBelow, ?_, ?_, Nat.le_trans h.counted hCounted, ?_⟩
  · obtain ⟨m, hm⟩ := h.whole
    obtain ⟨m', hm'⟩ := hWhole
    exact ⟨m + m', by rw [hm, hm', hPauses, Cooldown.pauses_add]⟩
  · intro hOff
    rw [h.quiet hOff, hQuiet (hEnabled ▸ hOff)]
    rfl
  · intro hLine
    have hCall : (out.1, c'.cooldown) =
        c.cooldown.tickEach (c'.reader.linesRead - c.reader.linesRead) := by
      unfold Ticks at hTicks
      rw [if_pos (h.same.perLine ▸ hLine)] at hTicks
      exact hTicks
    have hSum : c.reader.linesRead - c₀.reader.linesRead +
        (c'.reader.linesRead - c.reader.linesRead) = c'.reader.linesRead - c₀.reader.linesRead := by
      have := h.counted
      omega
    rw [← hSum, Cooldown.tickEach_add, ← h.perLine hLine, ← hCall]

theorem Pausing.readSection (h : Pausing c₀ ns c) :
    Pausing c₀ (ns ++ c.readSection.2.1) c.readSection.2.2 := by
  have hCounted : c.reader.linesRead ≤ c.readSection.2.2.reader.linesRead := by
    rw [c.readSection_spec.2.1]
    exact Reader.readSection_linesRead c.reader
  exact h.of_ticks hCounted c.readSection_ticks

theorem Pausing.readLine (h : Pausing c₀ ns c) :
    Pausing c₀ (ns ++ c.readLine.2.1) c.readLine.2.2 := by
  have hCounted : c.reader.linesRead ≤ c.readLine.2.2.reader.linesRead := by
    rw [c.readLine_spec.2.1]
    exact Reader.readLine_linesRead c.reader
  exact h.of_ticks hCounted c.readLine_ticks

theorem Pausing.close (h : Pausing c₀ ns c) : Pausing c₀ ns c.close.2 := by
  have hCounted : c.close.2.reader.linesRead = c.reader.linesRead := Reader.close_linesRead c.reader
  have hTicks : Ticks c.cooldown (c.close.2.reader.linesRead - c.reader.linesRead) []
      c.close.2.cooldown := by
    rw [hCounted, Nat.sub_self]
    unfold Ticks
    split
    · rfl
    · exact ⟨0, by simp [Cooldown.tick]; rfl⟩
  simpa using h.of_ticks (Nat.le_of_eq hCounted.symm) hTicks

------------------------------------------------------------
-- Sessions
------------------------------------------------------------

/- A call a caller makes on a cooling reader. -/
inductive Call where
  | readSection
  | readLine
  | close

/- Makes a call, giving the notices it caused. -/
def call (c : CoolingReader σ) : Call → List Notice × CoolingReader σ
  | .readSection => (c.readSection.2.1, c.readSection.2.2)
  | .readLine => (c.readLine.2.1, c.readLine.2.2)
  | .close => ([], c.close.2)

/- Makes calls in turn, giving every notice they caused, in order. -/
def session (c : CoolingReader σ) : List Call → List Notice × CoolingReader σ
  | [] => ([], c)
  | k :: ks =>
    let now := c.call k
    let later := now.2.session ks
    (now.1 ++ later.1, later.2)

theorem Pausing.call (h : Pausing c₀ ns c) (k : Call) :
    Pausing c₀ (ns ++ (c.call k).1) (c.call k).2 := by
  cases k with
  | readSection => exact h.readSection
  | readLine => exact h.readLine
  | close => simpa [CoolingReader.call] using h.close

/- The run: every session keeps the pauses whole. -/
theorem Pausing.session (h : Pausing c₀ ns c) (ks : List Call) :
    Pausing c₀ (ns ++ (c.session ks).1) (c.session ks).2 := by
  induction ks generalizing ns c with
  | nil => simpa [CoolingReader.session] using h
  | cons k ks ih =>
    have hNext := ih (h.call k)
    simpa [CoolingReader.session, List.append_assoc] using hNext

omit [ByteSource σ] in
/-
  Counting one by one from zero, the notices are a pause for every
  threshold's worth of raw lines read.
-/
theorem Pausing.perLine_pauses
    (h : Pausing c₀ ns c)
    (hLine : c₀.cooldown.perLine = true)
    (hOn : c₀.cooldown.enabled = true)
    (hZero : c₀.cooldown.count = 0) :
    ns = c₀.cooldown.pauses
      ((c.reader.linesRead - c₀.reader.linesRead) / c₀.cooldown.afterLines.toNat) := by
  have hBelow : c₀.cooldown.Below := fun _ => by
    rw [hZero]
    simpa [Cooldown.enabled] using hOn
  have hTicks := h.perLine hLine
  rw [Cooldown.tickEach_spec _ hOn hBelow, hZero, Nat.zero_add] at hTicks
  exact (Prod.mk.inj hTicks).1

------------------------------------------------------------
-- Pauses Come Whole
------------------------------------------------------------

/-
  A cooling reader over any reader, with any threshold `A`, any
  listeners, counting lines one by one or at once, and any calls made on
  it in any order.
  (a) Its notices are whole pauses one after another: in each, every
  listener hears the start in the order they were added, then every
  listener hears the end. So pauses never overlap, and a listener added
  once hears start and end in turn, once a pause.
  (b) Counting one by one with `A > 0`, there is a pause for every `A`
  raw lines read by the calls, blank, refused and re-read lines included.
  (c) Counting at once (from any count below `A > 0`), a claim counts
  the lines and the refused lines of the section it hands out, whatever
  their code, and a failed claim counts nothing; a line counts one when
  it is handed out or refused as malformed. Reaching `A` gives a pause
  and the count starts again at zero.
  (d) With `A ≤ 0` there is never a notice.
-/
theorem pauses_come_whole_in_turn
    (r : Reader σ)
    (A : Int)
    (observes : Bool)
    (listeners : List Nat)
    (calls : List Call) :
    ((∃ m, ((make r A observes listeners).session calls).1 =
        (List.replicate m (listeners.map (⟨·, true⟩) ++ listeners.map (⟨·, false⟩))).flatten ∧
      (listeners.Nodup → ∀ l ∈ listeners,
        ((((make r A observes listeners).session calls).1.filter (·.listener == l)).map
          (·.active)) = (List.replicate m [true, false]).flatten) ∧
      (observes = true → 0 < A →
        r.linesRead ≤ ((make r A observes listeners).session calls).2.reader.linesRead ∧
          m = (((make r A observes listeners).session calls).2.reader.linesRead - r.linesRead) /
            A.toNat)) ∧
    (∀ c : CoolingReader σ, c.cooldown.perLine = false → c.cooldown.enabled = true →
      c.cooldown.Below →
      c.readSection.1 = c.reader.readSection.1 ∧
      (c.readSection.2.1, c.readSection.2.2.cooldown) =
        (let n := match c.reader.readSection.1 with
          | .ok sec => sec.lines.size + sec.rejected.size
          | .error _ => 0
        if ((c.cooldown.count + n : Nat) : Int) < c.cooldown.afterLines then
          ([], { c.cooldown with count := c.cooldown.count + n })
        else (c.cooldown.pause, { c.cooldown with count := 0 })) ∧
      c.readLine.1 = c.reader.readLine.1 ∧
      (c.readLine.2.1, c.readLine.2.2.cooldown) =
        (let n := if countsAtOnce c.reader.readLine.1 then 1 else 0
        if ((c.cooldown.count + n : Nat) : Int) < c.cooldown.afterLines then
          ([], { c.cooldown with count := c.cooldown.count + n })
        else (c.cooldown.pause, { c.cooldown with count := 0 }))) ∧
    (A ≤ 0 → ((make r A observes listeners).session calls).1 = [])) := by
  have hRun := (Pausing.start r A observes listeners).session calls
  rw [List.nil_append] at hRun
  refine ⟨?_, fun c hAtOnce hOn hBelow => ?_, fun hOff => hRun.quiet (by simpa [make, Cooldown.enabled] using hOff)⟩
  · obtain ⟨m, hm, hCount⟩ : ∃ m, ((make r A observes listeners).session calls).1 =
        (make r A observes listeners).cooldown.pauses m ∧ (observes = true → 0 < A →
          m = (((make r A observes listeners).session calls).2.reader.linesRead - r.linesRead) /
            A.toNat) := by
      by_cases hLine : observes = true ∧ 0 < A
      · obtain ⟨hObserves, hPos⟩ := hLine
        have hPerLine : (make r A observes listeners).cooldown.perLine = true := by
          simp [make, hObserves, hPos]
        have hOn' : (make r A observes listeners).cooldown.enabled = true := by
          simpa [make, Cooldown.enabled] using hPos
        exact ⟨_, hRun.perLine_pauses hPerLine hOn' rfl, fun _ _ => rfl⟩
      · obtain ⟨m, hm⟩ := hRun.whole
        exact ⟨m, hm, fun hObserves hPos => absurd ⟨hObserves, hPos⟩ hLine⟩
    refine ⟨m, hm, fun hNodup l hl => ?_, fun hObserves hPos => ⟨hRun.counted, hCount hObserves hPos⟩⟩
    rw [hm]
    exact Cooldown.pauses_heard m l hNodup hl
  · obtain ⟨hSection, -, hSectionCount⟩ := c.readSection_spec
    obtain ⟨hLineRes, -, hLineCount⟩ := c.readLine_spec
    rw [if_neg (by simp [hAtOnce])] at hSectionCount hLineCount
    refine ⟨hSection, ?_, hLineRes, ?_⟩
    · rw [hSectionCount]
      split
      · exact Cooldown.tick_of_below _ hOn hBelow
      · exact (Cooldown.tick_zero _).symm.trans (Cooldown.tick_of_below 0 hOn hBelow)
    · rw [hLineCount]
      split
      · exact Cooldown.tick_of_below 1 hOn hBelow
      · exact (Cooldown.tick_zero _).symm.trans (Cooldown.tick_of_below 0 hOn hBelow)

end CoolingReader

end LineBatch
