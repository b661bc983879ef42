import Mathlib
import LineBatch.Proofs.Reader.Pauses

/-
  Claims side by side.

  Callers of a cooling reader may claim at the same time. When lines
  are counted one by one, a claim counts its lines and gives its pauses
  under the lock of the reader below, so however the callers' steps
  interleave, the notices are those of the same claims made in turn:
  whole pauses, one after another.

  When lines are counted at once, a caller counts after its claim with
  the reader free, and gives the notices of a pause with no lock held.
  Run with no other caller in between, that count is `Cooldown.tick`,
  so callers taking turns make the calls of a session. Side by side,
  two callers can both reach the threshold before either starts the
  count again, and a listener then hears two starts before the two
  ends. What holds for every interleaving is that each end a listener
  hears follows a start it heard: it never has heard more ends than
  starts, and it has heard as many once no caller is giving notices.

  Main declarations:
    * `Notice.openPauses`, `Caller.owed`
    * `CoolingReader.claimStep_alone`
    * `CoolingReader.Heard`, `CoolingReader.Heard.sideBySide`
    * `CoolingReader.sideBySide_perLine`, `CoolingReader.sideBySide_of_disabled`
    * `CoolingReader.claims_side_by_side_overlap`
    * `CoolingReader.pauses_come_whole`
-/

namespace LineBatch

------------------------------------------------------------
-- Open Pauses
------------------------------------------------------------

namespace Notice

/- How many more starts than ends of pauses listener `l` hears in `ns`. -/
def openPauses (l : Nat) (ns : List Notice) : Int :=
  (ns.countP (fun n => n.listener == l && n.active) : Int) -
    ns.countP (fun n => n.listener == l && !n.active)

@[simp] theorem openPauses_nil (l : Nat) : openPauses l [] = 0 := rfl

@[simp] theorem openPauses_append (l : Nat) (a b : List Notice) :
    openPauses l (a ++ b) = openPauses l a + openPauses l b := by
  simp only [openPauses, List.countP_append]
  omega

theorem openPauses_cons (l : Nat) (x : Notice) (ns : List Notice) :
    openPauses l (x :: ns) = openPauses l [x] + openPauses l ns := by
  rw [← openPauses_append, List.singleton_append]

end Notice

/- The notices a caller still has to give. -/
def Caller.owed : Caller → List Notice
  | .notifying rest => rest
  | _ => []

namespace Cooldown

theorem openPauses_pause (c : Cooldown) (l : Nat) : Notice.openPauses l c.pause = 0 := by
  simp [Notice.openPauses, pause, List.countP_append, List.countP_map, Function.comp_def]

theorem openPauses_pauses (c : Cooldown) (l m : Nat) : Notice.openPauses l (c.pauses m) = 0 := by
  induction m with
  | zero => rfl
  | succ m ih => rw [pauses_succ, Notice.openPauses_append, openPauses_pause, ih, Int.add_zero]

/- What is left of a pause after its first `j` notices never has more starts than ends. -/
theorem openPauses_drop_pause (c : Cooldown) (l j : Nat) :
    Notice.openPauses l (c.pause.drop j) ≤ 0 := by
  have hStarts : ((c.listeners.map (⟨·, true⟩ : Nat → Notice)).drop j).countP
      (fun n => n.listener == l && n.active) ≤
      (c.listeners.map (⟨·, true⟩ : Nat → Notice)).countP (fun n => n.listener == l && n.active) :=
    (List.drop_sublist j _).countP_le
  unfold pause
  by_cases hj : j ≤ c.listeners.length
  · rw [List.drop_append_of_le_length (by simpa using hj)]
    simp [Notice.openPauses, List.countP_append, List.countP_map, Function.comp_def] at hStarts ⊢
    omega
  · have hNoStart : ∀ k, ((c.listeners.map (⟨·, false⟩ : Nat → Notice)).drop k).countP
        (fun n => n.listener == l && n.active) = 0 := by
      intro k
      rw [List.countP_eq_zero]
      intro n hn
      obtain ⟨x, -, rfl⟩ := List.mem_map.1 (List.mem_of_mem_drop hn)
      simp
    rw [List.drop_append, List.drop_eq_nil_of_le (by simp; omega), List.nil_append]
    simp only [Notice.openPauses, hNoStart]
    omega

------------------------------------------------------------
-- One Step of a Count
------------------------------------------------------------

theorem tickStep_same (c : Cooldown) (k : Caller) : Same c (c.tickStep k).2.2 := by
  cases k with
  | ready => exact Same.refl c
  | counting n =>
    simp only [tickStep]
    split
    · exact Same.refl c
    · split
      · exact Same.count c _
      · exact Same.count c _
  | notifying rest => cases rest <;> exact Same.refl c
  | resetting => exact Same.count c 0

/- A step of a count gives some of the notices the caller owed, or makes it owe a whole pause. -/
theorem tickStep_owed (c : Cooldown) (k : Caller) (l : Nat) :
    Notice.openPauses l (c.tickStep k).1 + Notice.openPauses l (c.tickStep k).2.1.owed =
      Notice.openPauses l k.owed := by
  cases k with
  | ready => rfl
  | counting n =>
    simp only [tickStep]
    split
    · rfl
    · split
      · rfl
      · simp [Caller.owed, openPauses_pause]
  | notifying rest =>
    cases rest with
    | nil => rfl
    | cons x rest => exact (Notice.openPauses_cons l x rest).symm
  | resetting => rfl

/- A caller owing what is left of a pause still owes what is left of it after a step. -/
theorem tickStep_owes (c : Cooldown) {k : Caller} (h : ∃ j, k.owed = c.pause.drop j) :
    ∃ j, (c.tickStep k).2.1.owed = c.pause.drop j := by
  have hNone : ([] : List Notice) = c.pause.drop c.pause.length := by simp
  cases k with
  | ready => exact ⟨_, hNone⟩
  | counting n =>
    simp only [tickStep]
    split
    · exact ⟨_, hNone⟩
    · split
      · exact ⟨_, hNone⟩
      · exact ⟨0, rfl⟩
  | notifying rest =>
    cases rest with
    | nil => exact ⟨_, hNone⟩
    | cons x rest =>
      obtain ⟨j, hj⟩ := h
      refine ⟨j + 1, ?_⟩
      have hTail := congrArg (List.drop 1) hj
      simpa [Caller.owed, tickStep, List.drop_drop, Nat.add_comm] using hTail
  | resetting => exact ⟨_, hNone⟩

end Cooldown

namespace CoolingReader

variable {σ : Type} [ByteSource σ]

------------------------------------------------------------
-- One Step of a Caller
------------------------------------------------------------

/- A claim made whole keeps the settings and gives whole pauses. -/
theorem readSection_whole (c : CoolingReader σ) :
    c.cooldown.Same c.readSection.2.2.cooldown ∧ ∃ m, c.readSection.2.1 = c.cooldown.pauses m := by
  have hTicks := c.readSection_ticks
  unfold Ticks at hTicks
  split at hTicks
  · obtain ⟨hNs, hCd⟩ := Prod.mk.inj hTicks
    rw [hNs, hCd]
    exact ⟨Cooldown.tickEach_same _ _, Cooldown.tickEach_pauses _ _⟩
  · obtain ⟨n, hTick⟩ := hTicks
    obtain ⟨hNs, hCd⟩ := Prod.mk.inj hTick
    rw [hNs, hCd]
    exact ⟨Cooldown.tick_same _ n, Cooldown.tick_pauses _ n⟩

theorem claimStep_ready_perLine (c : CoolingReader σ) (hLine : c.cooldown.perLine = true) :
    c.claimStep .ready = (c.readSection.2.1, .ready, c.readSection.2.2) := by
  simp [claimStep, hLine]

theorem claimStep_ready_atOnce (c : CoolingReader σ) (hAtOnce : c.cooldown.perLine = false) :
    c.claimStep .ready =
      ([], (match c.reader.readSection.1 with
        | .ok sec => .counting (sec.lines.size + sec.rejected.size)
        | .error _ => .ready), { c with reader := c.reader.readSection.2 }) := by
  unfold claimStep
  rw [if_neg (by simp [hAtOnce])]
  rcases c.reader.readSection with ⟨res, r⟩
  cases res <;> rfl

theorem claimStep_of_ne_ready (c : CoolingReader σ) {k : Caller} (hk : k ≠ .ready) :
    c.claimStep k = ((c.cooldown.tickStep k).1, (c.cooldown.tickStep k).2.1,
      { c with cooldown := (c.cooldown.tickStep k).2.2 }) := by
  cases k with
  | ready => exact absurd rfl hk
  | counting n => rfl
  | notifying rest => rfl
  | resetting => rfl

theorem claimStep_same (c : CoolingReader σ) (k : Caller) :
    c.cooldown.Same (c.claimStep k).2.2.cooldown := by
  by_cases hk : k = .ready
  · subst hk
    cases hLine : c.cooldown.perLine
    · rw [claimStep_ready_atOnce c hLine]
      exact Cooldown.Same.refl _
    · rw [claimStep_ready_perLine c hLine]
      exact c.readSection_whole.1
  · rw [claimStep_of_ne_ready c hk]
    exact Cooldown.tickStep_same _ k

/- What a step gives and what the caller owes after it tally as what it owed before. -/
theorem claimStep_owed (c : CoolingReader σ) (k : Caller) (l : Nat) :
    Notice.openPauses l (c.claimStep k).1 + Notice.openPauses l (c.claimStep k).2.1.owed =
      Notice.openPauses l k.owed := by
  by_cases hk : k = .ready
  · subst hk
    cases hLine : c.cooldown.perLine
    · rw [claimStep_ready_atOnce c hLine]
      cases c.reader.readSection.1 <;> rfl
    · rw [claimStep_ready_perLine c hLine]
      obtain ⟨m, hm⟩ := c.readSection_whole.2
      simp [hm, Cooldown.openPauses_pauses, Caller.owed]
  · rw [claimStep_of_ne_ready c hk]
    exact Cooldown.tickStep_owed _ k l

theorem claimStep_owes (c : CoolingReader σ) {k : Caller}
    (h : ∃ j, k.owed = c.cooldown.pause.drop j) :
    ∃ j, (c.claimStep k).2.1.owed = c.cooldown.pause.drop j := by
  have hNone : ([] : List Notice) = c.cooldown.pause.drop c.cooldown.pause.length := by simp
  by_cases hk : k = .ready
  · subst hk
    cases hLine : c.cooldown.perLine
    · rw [claimStep_ready_atOnce c hLine]
      cases c.reader.readSection.1 <;> exact ⟨_, hNone⟩
    · rw [claimStep_ready_perLine c hLine]
      exact ⟨_, hNone⟩
  · rw [claimStep_of_ne_ready c hk]
    exact Cooldown.tickStep_owes _ h

theorem sideBySide_single (c : CoolingReader σ) (k : Caller) (order : List Nat) :
    c.sideBySide [k] (0 :: order) =
      ((c.claimStep k).1 ++ ((c.claimStep k).2.2.sideBySide [(c.claimStep k).2.1] order).1,
        ((c.claimStep k).2.2.sideBySide [(c.claimStep k).2.1] order).2) := rfl

/- A caller giving the notices it owes, with no other caller in between, gives them all. -/
theorem notifying_alone (rest : List Notice) (c : CoolingReader σ) :
    c.sideBySide [.notifying rest] (List.replicate (rest.length + 2) 0) =
      (rest, [.ready], { c with cooldown := { c.cooldown with count := 0 } }) := by
  induction rest generalizing c with
  | nil => rfl
  | cons x rest ih =>
    rw [List.length_cons, Nat.add_right_comm, List.replicate_succ, sideBySide_single,
      claimStep_of_ne_ready _ (by simp)]
    simp only [Cooldown.tickStep]
    rw [ih]
    rfl

/-
  A count with no other caller's step in between is the count of
  `Cooldown.tick`: the notices of a pause when the threshold is reached,
  and the count started again.
-/
theorem tickStep_alone (c : CoolingReader σ) (n : Nat) :
    ∃ m, c.sideBySide [.counting n] (List.replicate m 0) =
      ((c.cooldown.tick n).1, [.ready], { c with cooldown := (c.cooldown.tick n).2 }) := by
  have hCounting : Caller.counting n ≠ .ready := by simp
  by_cases hSkip : (!c.cooldown.enabled || n = 0) = true
  · have hStep : c.cooldown.tickStep (.counting n) = ([], .ready, c.cooldown) := by
      simp only [Cooldown.tickStep, if_pos hSkip]
    refine ⟨1, ?_⟩
    rw [List.replicate_one, sideBySide_single, claimStep_of_ne_ready _ hCounting, hStep,
      Cooldown.tick, if_pos hSkip]
    rfl
  by_cases hBelow : ((c.cooldown.count + n : Nat) : Int) < c.cooldown.afterLines
  · have hStep : c.cooldown.tickStep (.counting n) =
        ([], .ready, { c.cooldown with count := c.cooldown.count + n }) := by
      simp only [Cooldown.tickStep, if_neg hSkip, if_pos hBelow]
    refine ⟨1, ?_⟩
    rw [List.replicate_one, sideBySide_single, claimStep_of_ne_ready _ hCounting, hStep,
      Cooldown.tick, if_neg hSkip, if_pos hBelow]
    rfl
  · have hStep : c.cooldown.tickStep (.counting n) =
        ([], .notifying c.cooldown.pause, { c.cooldown with count := c.cooldown.count + n }) := by
      simp only [Cooldown.tickStep, if_neg hSkip, if_neg hBelow]
    refine ⟨c.cooldown.pause.length + 3, ?_⟩
    rw [List.replicate_succ, sideBySide_single, claimStep_of_ne_ready _ hCounting, hStep]
    dsimp only
    rw [notifying_alone, Cooldown.tick, if_neg hSkip, if_neg hBelow]
    rfl

/-
  A claim with no other caller's step in between, counting at once, is
  the claim of `readSection`.
-/
theorem claimStep_alone (c : CoolingReader σ) (hAtOnce : c.cooldown.perLine = false) :
    ∃ m, c.sideBySide [.ready] (List.replicate m 0) =
      (c.readSection.2.1, [.ready], c.readSection.2.2) := by
  unfold readSection countRead
  rcases hR : c.reader.readSection with ⟨res, r⟩
  cases res with
  | error e =>
    refine ⟨1, ?_⟩
    simp [sideBySide, claimStep_ready_atOnce c hAtOnce, hR, hAtOnce]
  | ok sec =>
    obtain ⟨m, hm⟩ := tickStep_alone { c with reader := r } (sec.lines.size + sec.rejected.size)
    refine ⟨m + 1, ?_⟩
    rw [List.replicate_succ]
    simp [sideBySide, claimStep_ready_atOnce c hAtOnce, hR, hm, hAtOnce]

------------------------------------------------------------
-- Any Interleaving
------------------------------------------------------------

/-
  What the notices `ns` heard since `c₀` keep while `callers` claim side
  by side, with the cooling reader now `c`: the settings of `c₀`, each
  caller owing what is left of a pause, and for every listener the
  starts heard and owed matching the ends heard and owed.
-/
structure Heard (c₀ : CoolingReader σ) (ns : List Notice) (callers : List Caller)
    (c : CoolingReader σ) : Prop where
  same : c₀.cooldown.Same c.cooldown
  owes : ∀ k ∈ callers, ∃ j, k.owed = c₀.cooldown.pause.drop j
  balanced : ∀ l, Notice.openPauses l ns + (callers.map fun k => Notice.openPauses l k.owed).sum = 0

omit [ByteSource σ] in
theorem sum_map_set {α : Type} (f : α → Int) {l : List α} {i : Nat} {a : α}
    (hGet : l[i]? = some a) (b : α) :
    ((l.set i b).map f).sum + f a = (l.map f).sum + f b := by
  induction l generalizing i with
  | nil => simp at hGet
  | cons x l ih =>
    cases i with
    | zero =>
      simp only [List.getElem?_cons_zero, Option.some.injEq] at hGet
      subst hGet
      simp only [List.set_cons_zero, List.map_cons, List.sum_cons]
      omega
    | succ i =>
      simp only [List.getElem?_cons_succ] at hGet
      have := ih hGet
      simp only [List.set_cons_succ, List.map_cons, List.sum_cons]
      omega

omit [ByteSource σ] in
/- Callers that are all ready have heard nothing and owe nothing. -/
theorem Heard.start (c : CoolingReader σ) (n : Nat) : Heard c [] (List.replicate n .ready) c where
  same := Cooldown.Same.refl _
  owes := fun k hk => ⟨c.cooldown.pause.length, by
    rw [List.eq_of_mem_replicate hk]
    simp [Caller.owed]⟩
  balanced := fun l => by simp [Caller.owed]

variable {c₀ c : CoolingReader σ} {ns : List Notice} {callers : List Caller}

/- The step: one step of any caller keeps what the notices heard keep. -/
theorem Heard.claimStep (h : Heard c₀ ns callers c) {i : Nat} {k : Caller}
    (hk : callers[i]? = some k) :
    Heard c₀ (ns ++ (c.claimStep k).1) (callers.set i (c.claimStep k).2.1) (c.claimStep k).2.2 where
  same := h.same.trans (c.claimStep_same k)
  owes := by
    have hPause : c.cooldown.pause = c₀.cooldown.pause := by
      unfold Cooldown.pause
      rw [h.same.listeners]
    intro k' hk'
    rcases List.mem_or_eq_of_mem_set hk' with hOld | rfl
    · exact h.owes k' hOld
    · rw [← hPause]
      exact c.claimStep_owes (hPause ▸ h.owes k (List.mem_of_getElem? hk))
  balanced := by
    intro l
    have hStep := c.claimStep_owed k l
    have hSet := sum_map_set (fun k => Notice.openPauses l k.owed) hk (c.claimStep k).2.1
    have hBefore := h.balanced l
    rw [Notice.openPauses_append]
    omega

/- The run: every interleaving keeps what the notices heard keep. -/
theorem Heard.sideBySide (h : Heard c₀ ns callers c) (order : List Nat) :
    Heard c₀ (ns ++ (c.sideBySide callers order).1) (c.sideBySide callers order).2.1
      (c.sideBySide callers order).2.2 := by
  induction order generalizing ns callers c with
  | nil => simpa [CoolingReader.sideBySide] using h
  | cons i order ih =>
    cases hk : callers[i]? with
    | none => simpa [CoolingReader.sideBySide, hk] using ih h
    | some k =>
      have hNext := ih (h.claimStep hk)
      simpa [CoolingReader.sideBySide, hk, List.append_assoc] using hNext

omit [ByteSource σ] in
/- Every end a listener heard follows a start it heard. -/
theorem Heard.ends_le_starts (h : Heard c₀ ns callers c) (l : Nat) : 0 ≤ Notice.openPauses l ns := by
  have hOwed : (callers.map fun k => Notice.openPauses l k.owed).sum ≤
      (callers.map fun _ => (0 : Int)).sum := by
    apply List.sum_le_sum
    intro k hk
    obtain ⟨j, hj⟩ := h.owes k hk
    rw [hj]
    exact c₀.cooldown.openPauses_drop_pause l j
  have hBalanced := h.balanced l
  simp only [List.map_const', List.sum_replicate, nsmul_zero] at hOwed
  omega

omit [ByteSource σ] in
/- Once no caller is giving notices, every start a listener heard has its end. -/
theorem Heard.settled (h : Heard c₀ ns callers c) (hDone : ∀ k ∈ callers, k.owed = [])
    (l : Nat) : Notice.openPauses l ns = 0 := by
  have hOwed : (callers.map fun k => Notice.openPauses l k.owed).sum = 0 := by
    apply List.sum_eq_zero
    intro x hx
    obtain ⟨k, hk, rfl⟩ := List.mem_map.1 hx
    rw [hDone k hk]
    rfl
  have hBalanced := h.balanced l
  omega

/-
  Counting one by one, callers claiming side by side make the claims of
  callers taking turns: each claim is one step, however the steps
  interleave.
-/
theorem sideBySide_perLine (c : CoolingReader σ) (hLine : c.cooldown.perLine = true) (n : Nat)
    (order : List Nat) :
    c.sideBySide (List.replicate n .ready) order =
      ((c.session (List.replicate (order.countP (· < n)) .readSection)).1, List.replicate n .ready,
        (c.session (List.replicate (order.countP (· < n)) .readSection)).2) := by
  induction order generalizing c with
  | nil => rfl
  | cons i order ih =>
    by_cases hi : i < n
    · have hGet : (List.replicate n Caller.ready)[i]? = some .ready := by simp [hi]
      have hLine' : c.readSection.2.2.cooldown.perLine = true :=
        c.readSection_whole.1.perLine.trans hLine
      simp only [sideBySide, hGet, claimStep_ready_perLine c hLine, List.set_replicate_self,
        ih _ hLine', List.countP_cons, hi, decide_true, if_true, List.replicate_succ, session, call]
    · have hGet : (List.replicate n Caller.ready)[i]? = none := by simp; omega
      simp only [sideBySide, hGet, ih c hLine, List.countP_cons, hi, decide_false]
      simp

/- With pausing off, a claim made whole gives no notice. -/
theorem readSection_of_disabled (c : CoolingReader σ) (hOff : c.cooldown.enabled = false) :
    c.readSection.2.1 = [] := by
  have hTicks := c.readSection_ticks
  unfold Ticks at hTicks
  split at hTicks
  · rw [Cooldown.tickEach_of_disabled _ _ hOff] at hTicks
    exact (Prod.mk.inj hTicks).1
  · obtain ⟨n, hTick⟩ := hTicks
    rw [Cooldown.tick_of_disabled _ _ hOff] at hTick
    exact (Prod.mk.inj hTick).1

/- With pausing off, a caller that is ready or counting gives nothing and stays so. -/
theorem claimStep_of_disabled (c : CoolingReader σ) (hOff : c.cooldown.enabled = false)
    {k : Caller} (hk : k = .ready ∨ ∃ n, k = .counting n) :
    (c.claimStep k).1 = [] ∧
      ((c.claimStep k).2.1 = .ready ∨ ∃ n, (c.claimStep k).2.1 = .counting n) := by
  rcases hk with rfl | ⟨n, rfl⟩
  · cases hLine : c.cooldown.perLine
    · rw [claimStep_ready_atOnce c hLine]
      refine ⟨rfl, ?_⟩
      cases c.reader.readSection.1 <;> simp
    · rw [claimStep_ready_perLine c hLine]
      exact ⟨c.readSection_of_disabled hOff, Or.inl rfl⟩
  · simp [claimStep, Cooldown.tickStep, hOff]

/- With pausing off, no caller ever gives a notice, however the steps interleave. -/
theorem sideBySide_of_disabled (c : CoolingReader σ) (hOff : c.cooldown.enabled = false)
    (callers : List Caller) (hQuiet : ∀ k ∈ callers, k = .ready ∨ ∃ n, k = .counting n)
    (order : List Nat) :
    (c.sideBySide callers order).1 = [] := by
  induction order generalizing c callers with
  | nil => rfl
  | cons i order ih =>
    cases hk : callers[i]? with
    | none => simpa [sideBySide, hk] using ih c hOff callers hQuiet
    | some k =>
      obtain ⟨hSilent, hNext⟩ := c.claimStep_of_disabled hOff (hQuiet k (List.mem_of_getElem? hk))
      have hOff' : (c.claimStep k).2.2.cooldown.enabled = false :=
        (c.claimStep_same k).enabled_eq ▸ hOff
      have hRest := ih _ hOff' (callers.set i (c.claimStep k).2.1) (by
        intro k' hk'
        rcases List.mem_or_eq_of_mem_set hk' with hOld | rfl
        · exact hQuiet k' hOld
        · exact hNext)
      simp [sideBySide, hk, hSilent, hRest]

------------------------------------------------------------
-- Pauses Come Whole
------------------------------------------------------------

/-
  A cooling reader over any reader, with any threshold `A`, any
  listeners, counting lines one by one or at once.
  (a) Calls made one at a time, in any order, give whole pauses one
  after another: in each, every listener hears the start in the order
  they were added, then every listener hears the end. Counting one by
  one with `A > 0` there is a pause for every `A` raw lines read;
  counting at once, a claim counts what it hands out, a failed claim
  nothing, and a line one when it is handed out or refused as
  malformed; with `A ≤ 0` nothing is heard.
  (b) Counting one by one, callers claiming side by side make the
  claims of callers taking turns, however their steps interleave, so
  (a) holds for them.
  (c) Whatever the way of counting and however the steps of callers
  claiming side by side interleave, each listener has heard no more
  ends than starts, and as many once no caller is giving notices; with
  `A ≤ 0` it has heard nothing.
-/
theorem pauses_come_whole
    (r : Reader σ)
    (A : Int)
    (observes : Bool)
    (listeners : List Nat) :
    (∀ calls : List Call,
      ((∃ m, ((make r A observes listeners).session calls).1 =
          (List.replicate m (listeners.map (⟨·, true⟩) ++ listeners.map (⟨·, false⟩))).flatten ∧
        (listeners.Nodup → ∀ l ∈ listeners,
          ((((make r A observes listeners).session calls).1.filter (·.listener == l)).map
            (·.active)) = (List.replicate m [true, false]).flatten) ∧
        (observes = true → 0 < A →
          r.linesRead ≤ ((make r A observes listeners).session calls).2.reader.linesRead ∧
            m = (((make r A observes listeners).session calls).2.reader.linesRead - r.linesRead) /
              A.toNat)) ∧
      (∀ c : CoolingReader σ, c.cooldown.perLine = false → c.cooldown.enabled = true →
        c.cooldown.Below →
        c.readSection.1 = c.reader.readSection.1 ∧
        (c.readSection.2.1, c.readSection.2.2.cooldown) =
          (let n := match c.reader.readSection.1 with
            | .ok sec => sec.lines.size + sec.rejected.size
            | .error _ => 0
          if ((c.cooldown.count + n : Nat) : Int) < c.cooldown.afterLines then
            ([], { c.cooldown with count := c.cooldown.count + n })
          else (c.cooldown.pause, { c.cooldown with count := 0 })) ∧
        c.readLine.1 = c.reader.readLine.1 ∧
        (c.readLine.2.1, c.readLine.2.2.cooldown) =
          (let n := if countsAtOnce c.reader.readLine.1 then 1 else 0
          if ((c.cooldown.count + n : Nat) : Int) < c.cooldown.afterLines then
            ([], { c.cooldown with count := c.cooldown.count + n })
          else (c.cooldown.pause, { c.cooldown with count := 0 }))) ∧
      (A ≤ 0 → ((make r A observes listeners).session calls).1 = []))) ∧
    (observes = true → 0 < A → ∀ (n : Nat) (order : List Nat),
      (make r A observes listeners).sideBySide (List.replicate n .ready) order =
        (((make r A observes listeners).session
            (List.replicate (order.countP (· < n)) .readSection)).1,
          List.replicate n .ready,
          ((make r A observes listeners).session
            (List.replicate (order.countP (· < n)) .readSection)).2)) ∧
    (∀ (n : Nat) (order : List Nat) (l : Nat),
      let run := (make r A observes listeners).sideBySide (List.replicate n .ready) order
      run.1.countP (fun x => x.listener == l && !x.active) ≤
          run.1.countP (fun x => x.listener == l && x.active) ∧
        ((∀ k ∈ run.2.1, k.owed = []) →
          run.1.countP (fun x => x.listener == l && !x.active) =
            run.1.countP (fun x => x.listener == l && x.active)) ∧
        (A ≤ 0 → run.1 = [])) := by
  refine ⟨pauses_come_whole_in_turn r A observes listeners, fun hObserves hPos n order => ?_,
    fun n order l => ?_⟩
  · exact sideBySide_perLine _ (by simp [make, hObserves, hPos]) n order
  · dsimp only
    have hRun := (Heard.start (make r A observes listeners) n).sideBySide order
    rw [List.nil_append] at hRun
    have hLe := hRun.ends_le_starts l
    unfold Notice.openPauses at hLe
    refine ⟨by omega, fun hDone => ?_, fun hOff => ?_⟩
    · have hZero := hRun.settled hDone l
      unfold Notice.openPauses at hZero
      omega
    · refine sideBySide_of_disabled _ (by simp [make, Cooldown.enabled]; omega) _ ?_ order
      exact fun k hk => Or.inl (List.eq_of_mem_replicate hk)

/-
  Over the input "a\n\nb\nc\n", a claim then a line from a cooling
  reader pausing every two lines, counting one by one, with listeners 0
  and 1: the claim reads all four raw lines, the blank one too, so
  listener 0 hears start and end twice. Counting at once, the claim
  hands out what the reader hands out; with pausing off nothing is
  heard; and two callers claiming side by side, counting one by one,
  make the claims of two claims in turn.
-/
theorem pauses_come_whole_on_four_lines :
    ∃ r src', Reader.open
        (BlobSource.make (Bucket.empty.put "input.txt" [97, 10, 10, 98, 10, 99, 10]) "input.txt")
        {} = (.ok r, src') ∧
      let run := (make r 2 true [0, 1]).session [.readSection, .readLine]
      let atOnce := make r 2 false [0]
      let off := make r 0 true [0, 1]
      (∃ m, ((run.1.filter (·.listener == 0)).map (·.active)) =
          (List.replicate m [true, false]).flatten ∧ m = 2) ∧
        atOnce.readSection.1 = atOnce.reader.readSection.1 ∧
        (off.session [.readSection, .readLine]).1 = [] ∧
        ((make r 2 true [0, 1]).sideBySide [.ready, .ready] [1, 0]).1 =
          ((make r 2 true [0, 1]).session [.readSection, .readSection]).1 := by
  refine ⟨_, _, rfl, ?_⟩
  intro run atOnce off
  obtain ⟨⟨m, -, hHeard, hCount⟩, -, -⟩ :=
    (pauses_come_whole atOnce.reader 2 true [0, 1]).1 [.readSection, .readLine]
  have hRead : (run.2.reader.linesRead - atOnce.reader.linesRead) / (2 : Int).toNat = 2 := by
    decide +kernel
  have hAtOnce := ((pauses_come_whole atOnce.reader 2 false [0]).1 []).2.1 atOnce rfl rfl
    (fun _ => by decide)
  have hOff := ((pauses_come_whole atOnce.reader 0 true [0, 1]).1 [.readSection, .readLine]).2.2
    (by decide)
  have hSide := (pauses_come_whole atOnce.reader 2 true [0, 1]).2.1 rfl (by decide) 2 [1, 0]
  refine ⟨⟨m, hHeard (by decide) 0 (by decide), ?_⟩, hAtOnce.1, hOff, ?_⟩
  · rw [(hCount rfl (by decide)).2.trans hRead]
  · exact congrArg Prod.fst hSide

/-
  Counting at once and pausing after every line, two callers each claim
  one line of "a\nb\n" and then count side by side: both reach the
  threshold before either starts the count again, and listener 0 hears
  two starts, then two ends.
-/
theorem claims_side_by_side_overlap :
    ∃ r src', Reader.open
        (BlobSource.make (Bucket.empty.put "input.txt" [97, 10, 98, 10]) "input.txt")
        { sectionSize := 1 } = (.ok r, src') ∧
      ((make r 1 false [0]).sideBySide [.ready, .ready] [0, 1, 0, 1, 0, 1, 0, 1, 0, 1, 0, 1]).1 =
        [⟨0, true⟩, ⟨0, true⟩, ⟨0, false⟩, ⟨0, false⟩] := by
  refine ⟨_, _, rfl, ?_⟩
  decide +kernel

end CoolingReader

end LineBatch
