import LineBatch.Error
import Mathlib.Data.List.Infix

/-
  Filling the placeholders of an error's message.

  The text of an error fills the placeholders {0}, {1}, ... of its
  message one argument after another: every {i} becomes the i-th
  argument, and the next argument is then filled into the result. What
  an argument brought in is therefore searched again for the
  placeholders of the arguments after it.

  Filling them all at once reads the message from left to right and
  puts an argument in place of each placeholder it meets. The two
  agree when every opening brace of the message starts the placeholder
  of one of its arguments and no argument but the last holds an
  opening brace. Without the second condition they part: the text of
  a failed read names the source with each {1} in its name replaced by
  the number of tries.

  Main declarations:
    * `Bytes.replaceAll_append`, `Bytes.replaceAll_append_of_head_not_mem`
    * `Error.placeholder`, `Error.Piece`, `Error.pieces`, `Error.expand`
    * `Error.replaceAll_fillBelow`, `Error.fill_eq_expand`, `Error.readFailed_text`
    * `error_text_fills_placeholders`
-/

namespace LineBatch

open List

------------------------------------------------------------
-- Replacing a Pattern
------------------------------------------------------------

namespace Bytes

variable {pat rep : Bytes}

@[simp] theorem replaceAll_nil : replaceAll pat rep [] = [] := by
  rw [replaceAll]

/- A pattern met at the front is replaced, and the search goes on after it. -/
theorem replaceAll_at_match
    {A : Bytes}
    (hpat : pat ≠ [])
    (h : pat <+: A) :
    replaceAll pat rep A = rep ++ replaceAll pat rep (A.drop pat.length) := by
  rcases A with _ | ⟨b, rest⟩
  · exact absurd (prefix_nil.1 h) hpat
  · rw [replaceAll, dif_pos ⟨length_pos_iff.2 hpat, isPrefixOf_iff_prefix.2 h⟩]

/- A byte that starts no occurrence is kept. -/
theorem replaceAll_cons_of_no_match
    {b : UInt8}
    {rest : Bytes}
    (h : ¬pat <+: b :: rest) :
    replaceAll pat rep (b :: rest) = b :: replaceAll pat rep rest := by
  rw [replaceAll, dif_neg fun h' => h ( isPrefixOf_iff_prefix.1 h'.2)]

/- Replacing in a join is replacing in each part, when no occurrence that starts in the first
part runs into the second: an occurrence at the front lies within the first part. -/
theorem replaceAll_append
    (hpat : pat ≠ []) :
    ∀ (A B : Bytes), (∀ s, s <:+ A → s ≠ [] → pat <+: s ++ B → pat <+: s) →
      replaceAll pat rep (A ++ B) = replaceAll pat rep A ++ replaceAll pat rep B
  | [], B, _ => by simp
  | b :: rest, B, h => by
    by_cases hFront : pat <+: b :: rest
    · have hLe := hFront.length_le
      have hRest : ∀ s, s <:+ (b :: rest).drop pat.length → s ≠ [] → pat <+: s ++ B →
          pat <+: s := fun s hs => h s (hs.trans (drop_suffix _ _))
      rw [replaceAll_at_match hpat (hFront.trans (prefix_append _ _)),
        replaceAll_at_match hpat hFront, drop_append_of_le_length hLe,
        replaceAll_append hpat _ B hRest, append_assoc]
    · have hJoin : ¬pat <+: b :: (rest ++ B) := fun hp =>
        hFront (h _ suffix_rfl (cons_ne_nil _ _) hp)
      rw [cons_append, replaceAll_cons_of_no_match hJoin, replaceAll_cons_of_no_match hFront,
        replaceAll_append hpat rest B fun s hs => h s (hs.trans (suffix_cons _ _)), cons_append]
termination_by A => A.length
decreasing_by
  all_goals
    have := length_pos_iff.2 hpat
    simp only [length_drop, length_cons]
    omega

/- Bytes in which no occurrence starts stay as they are. -/
theorem replaceAll_of_absent :
    ∀ (A : Bytes), (∀ s, s <:+ A → s ≠ [] → ¬pat <+: s) → replaceAll pat rep A = A
  | [], _ => replaceAll_nil
  | b :: rest, h => by
    rw [replaceAll_cons_of_no_match (h _ suffix_rfl (cons_ne_nil _ _)),
      replaceAll_of_absent rest fun s hs => h s (hs.trans (suffix_cons _ _))]

/- Bytes in front in which no occurrence starts, even running into what follows, are kept. -/
theorem replaceAll_append_of_no_start
    (hpat : pat ≠ [])
    {A B : Bytes}
    (h : ∀ s, s <:+ A → s ≠ [] → ¬pat <+: s ++ B) :
    replaceAll pat rep (A ++ B) = A ++ replaceAll pat rep B := by
  rw [replaceAll_append hpat A B fun s hs hne hp => absurd hp (h s hs hne),
    replaceAll_of_absent A fun s hs hne hp => h s hs hne (hp.trans (prefix_append _ _))]

/- Bytes in front that do not hold the first byte of the pattern are kept. -/
theorem replaceAll_append_of_head_not_mem
    {p : UInt8}
    {ps A B : Bytes}
    (hA : p ∉ A) :
    replaceAll (p :: ps) rep (A ++ B) = A ++ replaceAll (p :: ps) rep B := by
  refine replaceAll_append_of_no_start (cons_ne_nil _ _) fun s hs hne hp => ?_
  obtain ⟨c, t, rfl⟩ := exists_cons_of_ne_nil hne
  obtain ⟨rfl, -⟩ := cons_prefix_cons.1 hp
  exact hA (hs.subset mem_cons_self)

/- A pattern that starts some bytes followed by a byte it does not hold lies within them. -/
theorem prefix_of_prefix_append_cons
    {s B : Bytes}
    {c : UInt8}
    (hc : c ∉ pat)
    (h : pat <+: s ++ c :: B) :
    pat <+: s := by
  induction pat generalizing s with
  | nil => exact nil_prefix
  | cons p ps ih =>
    rcases s with _ | ⟨x, s⟩
    · obtain ⟨rfl, -⟩ := cons_prefix_cons.1 h
      exact absurd mem_cons_self hc
    · obtain ⟨rfl, hps⟩ := cons_prefix_cons.1 h
      exact (prefix_cons_inj p).2 (ih (fun h' => hc (mem_cons_of_mem _ h')) hps)

end Bytes

------------------------------------------------------------
-- Placeholders
------------------------------------------------------------

namespace Error

/-- The decimal digits of a number, as bytes. -/
def digitBytes (i : Nat) : Bytes := Bytes.ofString (toString i)

/-- The placeholder of the `i`-th argument: its number between braces. -/
def placeholder (i : Nat) : Bytes := Bytes.ofString ("\x7b" ++ toString i ++ "\x7d")

theorem ofString_append (s t : String) :
    Bytes.ofString (s ++ t) = Bytes.ofString s ++ Bytes.ofString t := by
  simp [Bytes.ofString, Utf8.encode, Utf8.encodeChars, String.toList_append]

/- A decimal digit is a byte between '0' and '9'. -/
theorem toNat_of_isDigit
    {c : Char}
    (h : c.isDigit = true) :
    48 ≤ c.toNat ∧ c.toNat ≤ 57 := by
  have hRange := Char.isDigit_iff_toNat.1 h
  have h₀ : '0'.toNat = 48 := rfl
  have h₉ : '9'.toNat = 57 := rfl
  omega

theorem toUInt8_toNat_of_isDigit
    {c : Char}
    (h : c.isDigit = true) :
    c.toNat.toUInt8.toNat = c.toNat := by
  have hRange := toNat_of_isDigit h
  simp only [Nat.toUInt8]
  exact Nat.mod_eq_of_lt (by omega)

/- A decimal digit is written as one byte. -/
theorem encodeChar_of_isDigit
    {c : Char}
    (h : c.isDigit = true) :
    Utf8.encodeChar c = [c.toNat.toUInt8] := by
  have hRange := toNat_of_isDigit h
  simp [Utf8.encodeChar, show c.toNat < 0x80 by omega]

theorem digitBytes_eq (i : Nat) :
    digitBytes i = (Nat.toDigits 10 i).map fun c => c.toNat.toUInt8 := by
  have hDigits : ∀ c ∈ Nat.toDigits 10 i, c.isDigit = true := fun c hc =>
    Nat.isDigit_of_mem_toDigits (by decide) (by decide) hc
  simp only [digitBytes, Bytes.ofString, Utf8.encode, Utf8.encodeChars,
    Nat.toString_eq_ofList_toDigits, String.toList_ofList]
  generalize Nat.toDigits 10 i = ds at hDigits ⊢
  induction ds with
  | nil => rfl
  | cons c cs ih =>
    rw [flatMap_cons, map_cons, encodeChar_of_isDigit (hDigits c mem_cons_self), singleton_append,
      ih fun d hd => hDigits d (mem_cons_of_mem _ hd)]

/- Every digit byte lies between '0' and '9'. -/
theorem digitBytes_range
    {i : Nat}
    {b : UInt8}
    (h : b ∈ digitBytes i) :
    48 ≤ b.toNat ∧ b.toNat ≤ 57 := by
  rw [digitBytes_eq, mem_map] at h
  obtain ⟨c, hc, rfl⟩ := h
  have hDigit := Nat.isDigit_of_mem_toDigits (by decide) (by decide) hc
  rw [toUInt8_toNat_of_isDigit hDigit]
  exact toNat_of_isDigit hDigit

/- Numbers with the same digits are the same, every digit being read back from its byte. -/
theorem digitBytes_injective
    {i j : Nat}
    (h : digitBytes i = digitBytes j) :
    i = j := by
  have hBack : ∀ n, (digitBytes n).map (fun b => Char.ofNat b.toNat) = Nat.toDigits 10 n := by
    intro n
    rw [digitBytes_eq, map_map]
    conv_rhs => rw [← map_id (Nat.toDigits 10 n)]
    refine map_congr_left fun c hc => ?_
    have hDigit := Nat.isDigit_of_mem_toDigits (by decide) (by decide) hc
    simp [toUInt8_toNat_of_isDigit hDigit, Char.ofNat_toNat]
  have hDigits : Nat.toDigits 10 i = Nat.toDigits 10 j := by rw [← hBack, h, hBack]
  calc
    i = Nat.ofDigitChars 10 (Nat.toDigits 10 i) 0 := Nat.ofDigitChars_ten_toDigits.symm
    _ = Nat.ofDigitChars 10 (Nat.toDigits 10 j) 0 := by rw [hDigits]
    _ = j := Nat.ofDigitChars_ten_toDigits

theorem placeholder_eq (i : Nat) : placeholder i = 123 :: (digitBytes i ++ [125]) := by
  rw [placeholder, ofString_append, ofString_append]
  rfl

theorem placeholder_ne_nil (i : Nat) : placeholder i ≠ [] := by
  simp [placeholder_eq]

/- Two lists ended by a byte that neither holds, one starting the other followed by anything,
are the same. -/
theorem eq_of_prefix_terminated
    {c : UInt8} :
    ∀ {D D' R : Bytes}, c ∉ D → c ∉ D' → D ++ [c] <+: D' ++ [c] ++ R → D = D'
  | [], [], _, _, _, _ => rfl
  | [], d :: D', R, _, hD', h => by
    obtain ⟨rfl, -⟩ := cons_prefix_cons.1 h
    exact absurd mem_cons_self hD'
  | d :: D, [], R, hD, _, h => by
    obtain ⟨rfl, -⟩ := cons_prefix_cons.1 h
    exact absurd mem_cons_self hD
  | d :: D, d' :: D', R, hD, hD', h => by
    obtain ⟨rfl, hRest⟩ := cons_prefix_cons.1 h
    rw [eq_of_prefix_terminated (fun h' => hD (mem_cons_of_mem _ h'))
      (fun h' => hD' (mem_cons_of_mem _ h')) hRest]

/- A placeholder starts another placeholder, followed by anything, only when it is the same. -/
theorem eq_of_prefix_placeholder
    {k i : Nat}
    {R : Bytes}
    (h : placeholder k <+: placeholder i ++ R) :
    k = i := by
  rw [placeholder_eq, placeholder_eq, cons_append, prefix_cons_inj] at h
  have hNo : ∀ n, (125 : UInt8) ∉ digitBytes n := fun n hn => by
    have := digitBytes_range hn
    simp at this
  exact digitBytes_injective (eq_of_prefix_terminated (hNo k) (hNo i) h)

/- The bytes of a placeholder after its opening brace hold no opening brace. -/
theorem open_not_mem_tail
    (i : Nat) :
    (123 : UInt8) ∉ digitBytes i ++ [125] := by
  intro h
  rcases mem_append.1 h with h | h
  · have := digitBytes_range h
    simp at this
  · simp at h

/- Searching for a placeholder keeps bytes in front that hold no opening brace. -/
theorem replaceAll_placeholder_of_open_not_mem
    {k : Nat}
    {rep A B : Bytes}
    (hA : (123 : UInt8) ∉ A) :
    Bytes.replaceAll (placeholder k) rep (A ++ B) = A ++ Bytes.replaceAll (placeholder k) rep B := by
  rw [placeholder_eq]
  exact Bytes.replaceAll_append_of_head_not_mem hA

/- Searching for one placeholder keeps any other placeholder in front, since no later part
of a placeholder starts with a brace. -/
theorem replaceAll_placeholder_append
    {k i : Nat}
    {rep R : Bytes}
    (hne : i ≠ k) :
    Bytes.replaceAll (placeholder k) rep (placeholder i ++ R) =
      placeholder i ++ Bytes.replaceAll (placeholder k) rep R := by
  refine Bytes.replaceAll_append_of_no_start (placeholder_ne_nil k) fun s hs hs' hp => ?_
  rcases (placeholder_eq i ▸ suffix_cons_iff).1 hs with rfl | hTail
  · exact hne (eq_of_prefix_placeholder hp).symm
  · obtain ⟨c, t, rfl⟩ := exists_cons_of_ne_nil hs'
    rw [placeholder_eq, cons_append, cons_prefix_cons] at hp
    exact open_not_mem_tail i (hp.1 ▸ hTail.subset mem_cons_self)

------------------------------------------------------------
-- Reading a Message for its Placeholders
------------------------------------------------------------

/-- A piece of a message: a byte, or the placeholder of an argument. -/
inductive Piece where
  | byte (b : UInt8)
  | hole (i : Nat)
  deriving DecidableEq, Repr

/-- The first of the first `n` arguments whose placeholder starts some bytes. -/
def holeAt (n : Nat) (bs : Bytes) : Option Nat :=
  (List.range n).find? fun i => (placeholder i).isPrefixOf bs

theorem holeAt_some
    {n i : Nat}
    {bs : Bytes}
    (h : holeAt n bs = some i) :
    i < n ∧ placeholder i <+: bs := by
  have hMem := mem_of_find?_eq_some h
  have hPrefix := find?_some h
  exact ⟨mem_range.1 hMem, isPrefixOf_iff_prefix.1 hPrefix⟩

theorem holeAt_none
    {n i : Nat}
    {bs : Bytes}
    (h : holeAt n bs = none)
    (hi : i < n) :
    ¬placeholder i <+: bs := fun hp =>
  by simpa [ isPrefixOf_iff_prefix.2 hp] using find?_eq_none.1 h i (mem_range.2 hi)

theorem placeholder_length_pos (i : Nat) : 0 < (placeholder i).length :=
  length_pos_iff.2 (placeholder_ne_nil i)

/-- A message cut, from left to right, into its bytes and the placeholders of its first `n`
arguments. -/
def pieces (n : Nat) : Bytes → List Piece
  | [] => []
  | b :: rest =>
    match holeAt n (b :: rest) with
    | some i => .hole i :: pieces n ((b :: rest).drop (placeholder i).length)
    | none => .byte b :: pieces n rest
termination_by bs => bs.length
decreasing_by
  · have := placeholder_length_pos i
    simp only [length_drop, length_cons]
    omega
  · simp

/-- The bytes of a piece, the placeholders of the arguments below `k` filled. -/
def Piece.fillBelow (args : List Bytes) (k : Nat) : Piece → Bytes
  | .byte b => [b]
  | .hole i => if i < k then args.getD i [] else placeholder i

/-- A message with every placeholder of an argument replaced by that argument at once, from
left to right: what an argument brings in is not searched again. -/
def expand (template : String) (args : List Bytes) : Bytes :=
  (pieces args.length (Bytes.ofString template)).flatMap (Piece.fillBelow args args.length)

/-- Every opening brace of a message starts the placeholder of one of its first `n`
arguments. -/
def OpensPlaceholders (n : Nat) (bs : Bytes) : Prop :=
  ∀ s ∈ bs.tails, s.head? = some 123 → ∃ i < n, placeholder i <+: s

instance (n : Nat) (bs : Bytes) : Decidable (OpensPlaceholders n bs) :=
  inferInstanceAs (Decidable (∀ s ∈ bs.tails, s.head? = some 123 → ∃ i < n, placeholder i <+: s))

/- The pieces, with no placeholder filled, are the message again. -/
theorem flatMap_fillBelow_zero
    (args : List Bytes)
    (n : Nat)
    (bs : Bytes) :
    (pieces n bs).flatMap (Piece.fillBelow args 0) = bs := by
  fun_induction pieces n bs with
  | case1 => rfl
  | case2 b rest i hHole ih =>
    have hPrefix := (holeAt_some hHole).2
    rw [flatMap_cons, ih]
    simp only [Piece.fillBelow, Nat.not_lt_zero, if_false]
    obtain ⟨t, ht⟩ := hPrefix
    rw [← ht, drop_left]
  | case3 b rest hHole ih =>
    rw [flatMap_cons, ih]
    rfl

/- A message whose opening braces all start placeholders is cut into pieces none of which is
a lone opening brace: a byte is kept alone only where no placeholder starts. -/
theorem byte_ne_open_of_mem_pieces
    {n : Nat}
    {bs : Bytes}
    (hOpen : OpensPlaceholders n bs)
    {b : UInt8}
    (hb : Piece.byte b ∈ pieces n bs) :
    b ≠ 123 := by
  fun_induction pieces n bs with
  | case1 => simp at hb
  | case2 b' rest i _ ih =>
    rcases mem_cons.1 hb with h | h
    · cases h
    · exact ih (fun s hs => hOpen s ((mem_tails _ _).2
        (((mem_tails _ _).1 hs).trans (drop_suffix _ _)))) h
  | case3 b' rest hHole ih =>
    rcases mem_cons.1 hb with h | h
    · cases h
      rintro rfl
      obtain ⟨i, hi, hp⟩ := hOpen _ ((mem_tails _ _).2 suffix_rfl) rfl
      exact holeAt_none hHole hi hp
    · exact ih (fun s hs => hOpen s ((mem_tails _ _).2
        (((mem_tails _ _).1 hs).trans (suffix_cons _ _)))) h

/-
  One pass: searching pieces whose placeholders below `k` are filled
  for the placeholder of argument `k`, and putting the argument there,
  fills the placeholders below `k + 1`. No occurrence is found where
  none was meant, since no byte piece is an opening brace and no
  argument filled so far holds one.
-/
theorem replaceAll_fillBelow
    {args : List Bytes}
    {k : Nat}
    (hArgs : ∀ i < k, (123 : UInt8) ∉ args.getD i []) :
    ∀ (ps : List Piece), (∀ b, Piece.byte b ∈ ps → b ≠ 123) →
      Bytes.replaceAll (placeholder k) (args.getD k []) (ps.flatMap (Piece.fillBelow args k)) =
        ps.flatMap (Piece.fillBelow args (k + 1))
  | [], _ => Bytes.replaceAll_nil
  | .byte b :: ps, hBytes => by
    have hb : (123 : UInt8) ∉ [b] := by simpa using (hBytes b mem_cons_self).symm
    have hRest := replaceAll_fillBelow hArgs ps fun c hc => hBytes c (mem_cons_of_mem _ hc)
    simp only [flatMap_cons, Piece.fillBelow]
    rw [replaceAll_placeholder_of_open_not_mem hb, hRest]
  | .hole i :: ps, hBytes => by
    have hRest := replaceAll_fillBelow hArgs ps fun c hc => hBytes c (mem_cons_of_mem _ hc)
    simp only [flatMap_cons, Piece.fillBelow]
    rcases Nat.lt_trichotomy i k with hLt | rfl | hGt
    · rw [if_pos hLt, if_pos (Nat.lt_succ_of_lt hLt),
        replaceAll_placeholder_of_open_not_mem (hArgs i hLt), hRest]
    · rw [if_neg (Nat.lt_irrefl i), if_pos (Nat.lt_succ_self i),
        Bytes.replaceAll_at_match (placeholder_ne_nil i) (prefix_append _ _), drop_left, hRest]
    · rw [if_neg (Nat.lt_asymm hGt), if_neg (by omega),
        replaceAll_placeholder_append (Nat.ne_of_gt hGt), hRest]

/-- Filling the placeholders in order, one argument after another, is
filling them all at once, when every opening brace of the message starts
the placeholder of an argument and no argument but the last holds an
opening brace. After the first `k` passes the placeholders below `k` are
filled, and the arguments filled so far come before the last one. -/
theorem fill_eq_expand
    (template : String)
    (args : List Bytes)
    (hOpen : OpensPlaceholders args.length (Bytes.ofString template))
    (hArgs : ∀ a ∈ args.dropLast, (123 : UInt8) ∉ a) :
    fill template args = expand template args := by
  let step : Bytes → Bytes × Nat → Bytes := fun msg p =>
    Bytes.replaceAll (Bytes.ofString ("\x7b" ++ toString p.2 ++ "\x7d")) p.1 msg
  have hBytes := fun b => byte_ne_open_of_mem_pieces (b := b) hOpen
  have hPasses : ∀ k ≤ args.length, (args.zipIdx.take k).foldl step (Bytes.ofString template) =
      (pieces args.length (Bytes.ofString template)).flatMap (Piece.fillBelow args k) := by
    intro k
    induction k with
    | zero => intro _; simp [flatMap_fillBelow_zero]
    | succ k ih =>
      intro hk
      have hEntry : args.zipIdx[k]? = some (args.getD k [], k) := by
        simp [getElem?_zipIdx, getElem?_eq_getElem (show k < args.length by omega)]
      rw [take_add_one, hEntry, Option.toList_some, foldl_append, ih (by omega)]
      refine replaceAll_fillBelow (fun i hi => hArgs _ ?_) _ hBytes
      have hi' : i < args.dropLast.length := by simp; omega
      rw [getD_eq_getElem?_getD, getElem?_eq_getElem (by omega), Option.getD_some,
        ← getElem_dropLast hi']
      exact getElem_mem hi'
  have hAll := hPasses args.length (Nat.le_refl _)
  rw [take_of_length_le (by simp)] at hAll
  exact hAll

------------------------------------------------------------
-- The Text of a Failed Read
------------------------------------------------------------

/- The message of a failed read, cut at its placeholders. -/
theorem readFailed_template :
    Bytes.ofString "Failed reading from {0} after {1} tries" =
      Bytes.ofString "Failed reading from " ++ (placeholder 0 ++
        (Bytes.ofString " after " ++ (placeholder 1 ++ Bytes.ofString " tries"))) := by
  decide

/-
  The text of a failed read: the source's name, in which every {1} is
  replaced by the number of tries, and then that number. The name goes
  in first, where {0} stands, and then the tries, into the name as well:
  no {1} runs out of the name into " after ".
-/
theorem readFailed_text
    (name : String)
    (tries : Nat)
    (cause : Cause) :
    (readFailed name tries cause).text =
      Bytes.ofString "Failed reading from " ++
        (Bytes.replaceAll (placeholder 1) (digitBytes tries) (Bytes.ofString name) ++
          Bytes.ofString (" after " ++ toString tries ++ " tries")) := by
  have hText : (readFailed name tries cause).text =
      Bytes.replaceAll (placeholder 1) (digitBytes tries)
        (Bytes.replaceAll (placeholder 0) (Bytes.ofString name)
          (Bytes.ofString "Failed reading from {0} after {1} tries")) := rfl
  have hTail : ∀ rep, Bytes.replaceAll (placeholder 1) rep (Bytes.ofString " tries") =
      Bytes.ofString " tries" := fun rep => by
    rw [← append_nil (Bytes.ofString " tries"), replaceAll_placeholder_of_open_not_mem (by decide),
      Bytes.replaceAll_nil]
  have hAfter : Bytes.ofString " after " = 32 :: Bytes.ofString "after " := by decide
  have hName : Bytes.replaceAll (placeholder 0) (Bytes.ofString name)
      (Bytes.ofString "Failed reading from {0} after {1} tries") =
      Bytes.ofString "Failed reading from " ++ (Bytes.ofString name ++
        (Bytes.ofString " after " ++ (placeholder 1 ++ Bytes.ofString " tries"))) := by
    rw [readFailed_template, replaceAll_placeholder_of_open_not_mem (by decide),
      Bytes.replaceAll_at_match (placeholder_ne_nil 0) (prefix_append _ _), drop_left,
      replaceAll_placeholder_of_open_not_mem (by decide),
      replaceAll_placeholder_append (by decide), ← append_nil (Bytes.ofString " tries"),
      replaceAll_placeholder_of_open_not_mem (by decide), Bytes.replaceAll_nil, append_nil]
  have hNoStraddle : ∀ s, s <:+ Bytes.ofString name → s ≠ [] →
      placeholder 1 <+: s ++ (Bytes.ofString " after " ++ (placeholder 1 ++ Bytes.ofString " tries")) →
      placeholder 1 <+: s := fun s _ _ hp => by
    rw [hAfter, cons_append] at hp
    exact Bytes.prefix_of_prefix_append_cons (by decide) hp
  rw [hText, hName, replaceAll_placeholder_of_open_not_mem (by decide),
    Bytes.replaceAll_append (placeholder_ne_nil 1) _ _ hNoStraddle,
    replaceAll_placeholder_of_open_not_mem (by decide),
    Bytes.replaceAll_at_match (placeholder_ne_nil 1) (prefix_append _ _), drop_left, hTail,
    ofString_append, ofString_append, digitBytes, append_assoc]

end Error

------------------------------------------------------------
-- The Text of an Error
------------------------------------------------------------

open Error in
/-
  The text of an error is its message with the placeholders filled at
  once, when every opening brace of the message starts the placeholder
  of one of its arguments and no argument but the last holds an opening
  brace. In any case, the text of a failed read names the source with
  every {1} of the name replaced by the number of tries.
-/
theorem error_text_fills_placeholders (e : Error) (name : String) (tries : Nat) (cause : Cause) :
    (OpensPlaceholders e.args.length (Bytes.ofString e.template) →
      (∀ a ∈ e.args.dropLast, (123 : UInt8) ∉ a) →
      e.text = expand e.template e.args) ∧
    (readFailed name tries cause).text =
      Bytes.ofString "Failed reading from " ++
        (Bytes.replaceAll (placeholder 1) (digitBytes tries) (Bytes.ofString name) ++
          Bytes.ofString (" after " ++ toString tries ++ " tries")) :=
  ⟨fun hOpen hArgs => fill_eq_expand e.template e.args hOpen hArgs,
    readFailed_text name tries cause⟩

open Error in
/- The failed read of "input.txt" after three tries fills its message at once. -/
theorem error_text_fills_placeholders_input :
    let e := readFailed "input.txt" 3 (Cause.plain "timeout")
    OpensPlaceholders e.args.length (Bytes.ofString e.template) ∧
      (∀ a ∈ e.args.dropLast, (123 : UInt8) ∉ a) ∧
      e.text = expand e.template e.args := by
  intro e
  have hOpen : OpensPlaceholders e.args.length (Bytes.ofString e.template) := by decide
  have hArgs : ∀ a ∈ e.args.dropLast, (123 : UInt8) ∉ a := by decide
  exact ⟨hOpen, hArgs,
    (error_text_fills_placeholders e "input.txt" 3 (Cause.plain "timeout")).1 hOpen hArgs⟩

/-
  A source named "in{1}.txt" that failed after one try is reported as
  "in1.txt": the {1} of its name is taken for the number of tries.
-/
theorem read_failure_text_refills_braced_name :
    (Error.readFailed "in{1}.txt" 1 (Cause.plain "flaky: connection reset")).text =
        Bytes.ofString "Failed reading from in1.txt after 1 tries" ∧
      (Error.readFailed "in{1}.txt" 1 (Cause.plain "flaky: connection reset")).text ≠
        Bytes.ofString "Failed reading from in{1}.txt after 1 tries" := by
  rw [Error.readFailed_text]
  decide +kernel

end LineBatch
