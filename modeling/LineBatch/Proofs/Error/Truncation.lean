import LineBatch.Proofs.Error.Placeholders
import Mathlib.Order.Bounds.Basic

/-
  Cutting a malformed line for its message.

  A line the parser refuses is quoted in its error's message, cut to
  at most 120 octets. The cut is made at the last index up to 120
  that holds no continuation byte (an octet 10xxxxxx), or at 0, and
  an ellipsis follows it. In valid UTF-8 the octets that are no
  continuation byte are exactly those at which a character starts, so
  the kept octets are the longest run of whole characters that fits,
  and the quoted text is valid UTF-8 again.

  Main declarations:
    * `Utf8.IsBoundary`, `Utf8.isBoundary_iff`, `Utf8.isValid_take`, `Utf8.isValid_append`
    * `Error.truncateLine_of_lt`, `Error.format_text`
    * `malformed_line_text_cuts_at_rune_start`
-/

namespace LineBatch

open List

namespace Utf8

variable {b : UInt8} {rest : Bytes}

------------------------------------------------------------
-- Reading One Character
------------------------------------------------------------

/- The second octet allowed after any lead is a continuation byte. -/
theorem isTail_of_inRange_secondRange {x : Nat} {c : UInt8}
    (h : inRange (secondRange x) c = true) :
    isTail c = true := by
  simp only [inRange, secondRange, isTail] at h ⊢
  split_ifs at h <;> simp_all <;> omega

/- An octet below C2 leads no sequence. -/
theorem width_eq_zero_of_lt (h : b.toNat < 0xC2) : (decodeRune b rest).2 = 0 := by
  unfold decodeRune
  by_cases h' : b.toNat < 0x80 <;> simp [h, h']

theorem width_pos_of_startsValid (h : startsValid b rest = true) (hb : 0x80 ≤ b.toNat) :
    0 < (decodeRune b rest).2 := by
  simp only [startsValid, Bool.or_eq_true, decide_eq_true_eq] at h
  omega

/- Where a sequence reads octets at all, its lead is between C2 and F4. -/
theorem lead_of_width_pos (hw : 0 < (decodeRune b rest).2) :
    0xC2 ≤ b.toNat ∧ b.toNat < 0xF5 := by
  refine ⟨Nat.le_of_not_lt fun hLow => ?_, Nat.lt_of_not_le fun hHigh => ?_⟩
  · rw [width_eq_zero_of_lt hLow] at hw
    exact Nat.lt_irrefl 0 hw
  · simp [decodeRune, show ¬b.toNat < 0x80 by omega, show ¬b.toNat < 0xC2 by omega,
      show ¬b.toNat < 0xE0 by omega, show ¬b.toNat < 0xF0 by omega,
      show ¬b.toNat < 0xF5 by omega] at hw

/- A sequence that reads octets after its lead reads continuation bytes, and reads the same
whatever follows them; a rest shorter than the lead asks for reads nothing. -/
theorem decodeRune_local (hw : 0 < (decodeRune b rest).2) :
    (∀ c ∈ rest.take (decodeRune b rest).2, isTail c = true) ∧
      ∀ X, decodeRune b (rest.take (decodeRune b rest).2 ++ X) = decodeRune b rest := by
  obtain ⟨hC2, hF5⟩ := lead_of_width_pos hw
  have hA : ¬b.toNat < 0x80 := by omega
  have hA' : ¬b.toNat < 0xC2 := by omega
  by_cases h2 : b.toNat < 0xE0
  · rcases rest with _ | ⟨b1, r⟩
    · simp [decodeRune, hA, hA', h2] at hw
    · simp only [decodeRune, hA, hA', h2, if_false, if_true] at hw ⊢
      split_ifs at hw ⊢ <;> simp_all
  by_cases h3 : b.toNat < 0xF0
  · rcases rest with _ | ⟨b1, _ | ⟨b2, r⟩⟩
    · simp [decodeRune, hA, hA', h2, h3] at hw
    · simp [decodeRune, hA, hA', h2, h3] at hw
    · simp only [decodeRune, hA, hA', h2, h3, if_false, if_true] at hw ⊢
      split_ifs at hw ⊢ with hSeq
      · obtain ⟨h1, -⟩ := Bool.and_eq_true _ _ ▸ hSeq
        simp_all [isTail_of_inRange_secondRange h1]
      · simp at hw
  · rcases rest with _ | ⟨b1, _ | ⟨b2, _ | ⟨b3, r⟩⟩⟩
    · simp [decodeRune, hA, hA', h2, h3] at hw
    · simp [decodeRune, hA, hA', h2, h3] at hw
    · simp [decodeRune, hA, hA', h2, h3] at hw
    · simp only [decodeRune, hA, hA', h2, h3, hF5, if_false, if_true] at hw ⊢
      split_ifs at hw ⊢ with hSeq
      · obtain ⟨⟨h1, -⟩, -⟩ := Bool.and_eq_true _ _ ▸ Bool.and_eq_true _ _ ▸ hSeq
        simp_all [isTail_of_inRange_secondRange h1]
      · simp at hw

/- The octets a character takes after its lead are continuation bytes. -/
theorem isTail_of_mem_take_width : ∀ c ∈ rest.take (decodeRune b rest).2, isTail c = true := by
  rcases Nat.eq_zero_or_pos (decodeRune b rest).2 with hZero | hw
  · simp [hZero]
  · exact (decodeRune_local hw).1

/- A valid character does not start with a continuation byte. -/
theorem not_isTail_of_startsValid (h : startsValid b rest = true) : isTail b = false := by
  by_cases hAscii : b.toNat < 0x80
  · simp [isTail, hAscii]
  · have hLead := (lead_of_width_pos (width_pos_of_startsValid h (by omega))).1
    simp [isTail]
    omega

/- A valid character is read from its own octets, whatever follows them. -/
theorem decodeRune_take_append (h : startsValid b rest = true) (X : Bytes) :
    decodeRune b (rest.take (decodeRune b rest).2 ++ X) = decodeRune b rest := by
  by_cases hAscii : b.toNat < 0x80
  · simp [decodeRune, hAscii]
  · exact (decodeRune_local (width_pos_of_startsValid h (by omega))).2 X

theorem isValid_cons (b : UInt8) (rest : Bytes) :
    isValid (b :: rest) = (startsValid b rest && isValid (rest.drop (decodeRune b rest).2)) := by
  rw [isValid]

theorem pieces_cons (b : UInt8) (rest : Bytes) :
    pieces (b :: rest) =
      (b :: rest.take (decodeRune b rest).2) :: pieces (rest.drop (decodeRune b rest).2) := by
  rw [pieces]

------------------------------------------------------------
-- Where Characters Start
------------------------------------------------------------

/-- An offset of a byte string at which one of its characters starts, or its end: the
number of octets of its first few characters. -/
def IsBoundary (bs : Bytes) (k : Nat) : Prop := ∃ i, ((pieces bs).take i).flatten.length = k

theorem isBoundary_zero (bs : Bytes) : IsBoundary bs 0 := ⟨0, rfl⟩

/- The boundaries after the first character are those of the octets that follow it. -/
theorem isBoundary_cons_iff {k : Nat} :
    IsBoundary (b :: rest) k ↔
      k = 0 ∨ ∃ j, IsBoundary (rest.drop (decodeRune b rest).2) j ∧
        k = (decodeRune b rest).2 + 1 + j := by
  have hLe := decodeRune_take_le b rest
  constructor
  · rintro ⟨_ | i, rfl⟩
    · exact .inl rfl
    · refine .inr ⟨_, ⟨i, rfl⟩, ?_⟩
      simp [pieces_cons, hLe]
      omega
  · rintro (rfl | ⟨j, ⟨i, rfl⟩, rfl⟩)
    · exact isBoundary_zero _
    · exact ⟨i + 1, by simp [pieces_cons, hLe]; omega⟩

/- In valid UTF-8 a character starts exactly at the octets that are no continuation byte,
and at the end: inside the first character there is a continuation byte, and past it a
boundary of what follows. -/
theorem isBoundary_iff {bs : Bytes} (hValid : isValid bs = true) {k : Nat}
    (hk : k ≤ bs.length) :
    IsBoundary bs k ↔ bs[k]?.all (fun c => !isTail c) = true := by
  induction bs using isValid.induct generalizing k with
  | case1 =>
    obtain rfl : k = 0 := by simpa using hk
    simp [isBoundary_zero]
  | case2 b rest ih =>
    rw [isValid_cons, Bool.and_eq_true] at hValid
    obtain ⟨hStart, hRest⟩ := hValid
    rw [isBoundary_cons_iff]
    rcases k with _ | k
    · simp [not_isTail_of_startsValid hStart]
    · have hLe := decodeRune_take_le b rest
      rw [getElem?_cons_succ]
      by_cases hIn : k < (decodeRune b rest).2
      · have hk' : k < rest.length := by omega
        have hMem : rest[k] ∈ rest.take (decodeRune b rest).2 :=
          mem_iff_getElem.2 ⟨k, by simp; omega, by simp⟩
        simp [getElem?_eq_getElem hk', isTail_of_mem_take_width _ hMem]
        omega
      · obtain ⟨j, rfl⟩ : ∃ j, k = (decodeRune b rest).2 + j :=
          ⟨k - (decodeRune b rest).2, by omega⟩
        have hBound : j ≤ (rest.drop (decodeRune b rest).2).length := by
          simp only [length_drop]
          simp only [length_cons] at hk
          omega
        rw [← getElem?_drop, ← ih hRest hBound]
        constructor
        · rintro (hZero | ⟨i, hB, hEq⟩)
          · omega
          · obtain rfl : i = j := by omega
            exact hB
        · exact fun hB => .inr ⟨j, hB, by omega⟩

------------------------------------------------------------
-- Valid Text, Joined and Cut
------------------------------------------------------------

/- Valid octets followed by valid octets are valid: each character is read from its own
octets. -/
theorem isValid_append {a c : Bytes} (ha : isValid a = true) (hc : isValid c = true) :
    isValid (a ++ c) = true := by
  induction a using isValid.induct with
  | case1 => simpa using hc
  | case2 b rest ih =>
    rw [isValid_cons, Bool.and_eq_true] at ha
    obtain ⟨hStart, hRest⟩ := ha
    have hLe := decodeRune_take_le b rest
    have hDecode : decodeRune b (rest ++ c) = decodeRune b rest := by
      rw [← take_append_drop (decodeRune b rest).2 rest, append_assoc,
        decodeRune_take_append hStart, take_append_drop]
    rw [cons_append, isValid_cons, Bool.and_eq_true, startsValid, hDecode,
      drop_append_of_le_length hLe]
    exact ⟨hStart, ih hRest⟩

/- Valid octets cut where a character starts are valid: the whole first character, then
what follows it cut where a character starts. -/
theorem isValid_take {bs : Bytes} (hValid : isValid bs = true) {k : Nat}
    (hk : IsBoundary bs k) :
    isValid (bs.take k) = true := by
  induction bs using isValid.induct generalizing k with
  | case1 => simp [isValid]
  | case2 b rest ih =>
    rw [isValid_cons, Bool.and_eq_true] at hValid
    obtain ⟨hStart, hRest⟩ := hValid
    rcases isBoundary_cons_iff.1 hk with rfl | ⟨j, hj, rfl⟩
    · simp [isValid]
    · have hLe := decodeRune_take_le b rest
      have hTake : (b :: rest).take ((decodeRune b rest).2 + 1 + j) =
          b :: (rest.take (decodeRune b rest).2 ++ (rest.drop (decodeRune b rest).2).take j) := by
        rw [Nat.add_right_comm, take_succ_cons, take_add]
      rw [hTake, isValid_cons, Bool.and_eq_true, startsValid, decodeRune_take_append hStart,
        drop_left' (by simp; omega)]
      exact ⟨hStart, ih hRest hj⟩

------------------------------------------------------------
-- Written Text Is Valid
------------------------------------------------------------

section Written

variable {l b1 b2 b3 : UInt8} {X : Bytes}

theorem toNat_toUInt8_of_lt {n : Nat} (h : n < 256) : n.toUInt8.toNat = n := by
  simp only [Nat.toUInt8]
  exact Nat.mod_eq_of_lt h

theorem width_two (h0 : 0xC2 ≤ l.toNat) (h0' : l.toNat < 0xE0) (h1 : isTail b1 = true) :
    (decodeRune l (b1 :: X)).2 = 1 := by
  simp [decodeRune, h1, show ¬l.toNat < 0x80 by omega, show ¬l.toNat < 0xC2 by omega, h0']

theorem width_three (h0 : 0xE0 ≤ l.toNat) (h0' : l.toNat < 0xF0)
    (h1 : inRange (secondRange l.toNat) b1 = true) (h2 : isTail b2 = true) :
    (decodeRune l (b1 :: b2 :: X)).2 = 2 := by
  simp [decodeRune, h1, h2, show ¬l.toNat < 0x80 by omega, show ¬l.toNat < 0xC2 by omega,
    show ¬l.toNat < 0xE0 by omega, h0']

theorem width_four (h0 : 0xF0 ≤ l.toNat) (h0' : l.toNat < 0xF5)
    (h1 : inRange (secondRange l.toNat) b1 = true) (h2 : isTail b2 = true) (h3 : isTail b3 = true) :
    (decodeRune l (b1 :: b2 :: b3 :: X)).2 = 3 := by
  simp [decodeRune, h1, h2, h3, show ¬l.toNat < 0x80 by omega, show ¬l.toNat < 0xC2 by omega,
    show ¬l.toNat < 0xE0 by omega, show ¬l.toNat < 0xF0 by omega, h0']

theorem isTail_of_toNat {n : Nat} (h : n < 64) : isTail (0x80 + n).toUInt8 = true := by
  simp [isTail]
  omega

theorem startsValid_of_pos {b : UInt8} {rest : Bytes} (h : 0 < (decodeRune b rest).2) :
    startsValid b rest = true := by
  simp [startsValid, h]

/- A character written in UTF-8 is one valid sequence, whatever follows it. After E0 the
value is at least 0x800, after ED it is no surrogate, after F0 it is at least 0x10000 and
after F4 at most 0x10FFFF, as the code point of a character is. -/
theorem width_encodeChar (c : Char) (X : Bytes) :
    ∃ b t, encodeChar c = b :: t ∧ startsValid b (t ++ X) = true ∧
      (decodeRune b (t ++ X)).2 = t.length := by
  have hValid : c.toNat < 0xD800 ∨ (0xDFFF < c.toNat ∧ c.toNat < 0x110000) := c.valid
  by_cases h1 : c.toNat < 0x80
  · have hEnc : encodeChar c = [c.toNat.toUInt8] := by simp [encodeChar, h1]
    have hb0 := toNat_toUInt8_of_lt (show c.toNat < 256 by omega)
    refine ⟨_, _, hEnc, ?_, ?_⟩ <;> simp [startsValid, decodeRune, hb0, h1]
  by_cases h2 : c.toNat < 0x800
  · have hEnc :
        encodeChar c = [(0xC0 + c.toNat / 64).toUInt8, (0x80 + c.toNat % 64).toUInt8] := by
      simp [encodeChar, h1, h2]
    have hb0 := toNat_toUInt8_of_lt (show 0xC0 + c.toNat / 64 < 256 by omega)
    have hw := width_two (l := (0xC0 + c.toNat / 64).toUInt8) (X := X) (by omega) (by omega)
      (isTail_of_toNat (Nat.mod_lt c.toNat (by omega)))
    exact ⟨_, _, hEnc, startsValid_of_pos (Nat.lt_of_lt_of_eq (by decide) hw.symm), hw⟩
  by_cases h3 : c.toNat < 0x10000
  · have hEnc : encodeChar c = [(0xE0 + c.toNat / 4096).toUInt8,
        (0x80 + c.toNat / 64 % 64).toUInt8, (0x80 + c.toNat % 64).toUInt8] := by
      simp [encodeChar, h1, h2, h3]
    have hb0 := toNat_toUInt8_of_lt (show 0xE0 + c.toNat / 4096 < 256 by omega)
    have hb1 := toNat_toUInt8_of_lt (show 0x80 + c.toNat / 64 % 64 < 256 by omega)
    have hSecond : inRange (secondRange (0xE0 + c.toNat / 4096).toUInt8.toNat)
        (0x80 + c.toNat / 64 % 64).toUInt8 = true := by
      simp only [inRange, secondRange, hb0, hb1]
      split_ifs <;> simp <;> omega
    have hw := width_three (l := (0xE0 + c.toNat / 4096).toUInt8) (X := X) (by omega)
      (by omega) hSecond (isTail_of_toNat (Nat.mod_lt c.toNat (by omega)))
    exact ⟨_, _, hEnc, startsValid_of_pos (Nat.lt_of_lt_of_eq (by decide) hw.symm), hw⟩
  · have hEnc : encodeChar c = [(0xF0 + c.toNat / 262144).toUInt8,
        (0x80 + c.toNat / 4096 % 64).toUInt8, (0x80 + c.toNat / 64 % 64).toUInt8,
        (0x80 + c.toNat % 64).toUInt8] := by
      simp [encodeChar, h1, h2, h3]
    have hb0 := toNat_toUInt8_of_lt (show 0xF0 + c.toNat / 262144 < 256 by omega)
    have hb1 := toNat_toUInt8_of_lt (show 0x80 + c.toNat / 4096 % 64 < 256 by omega)
    have hSecond : inRange (secondRange (0xF0 + c.toNat / 262144).toUInt8.toNat)
        (0x80 + c.toNat / 4096 % 64).toUInt8 = true := by
      simp only [inRange, secondRange, hb0, hb1]
      split_ifs <;> simp <;> omega
    have hw := width_four (l := (0xF0 + c.toNat / 262144).toUInt8) (X := X) (by omega)
      (by omega) hSecond (isTail_of_toNat (Nat.mod_lt (c.toNat / 64) (by omega)))
      (isTail_of_toNat (Nat.mod_lt c.toNat (by omega)))
    exact ⟨_, _, hEnc, startsValid_of_pos (Nat.lt_of_lt_of_eq (by decide) hw.symm), hw⟩

/- The octets of any string written in UTF-8 are valid. -/
theorem isValid_encodeChars (cs : List Char) : isValid (encodeChars cs) = true := by
  induction cs with
  | nil => simp [encodeChars, isValid]
  | cons c cs ih =>
    obtain ⟨b, t, hEnc, hStart, hWidth⟩ := width_encodeChar c (encodeChars cs)
    have hCons : encodeChars (c :: cs) = b :: (t ++ encodeChars cs) := by
      rw [encodeChars, flatMap_cons, hEnc, cons_append]
      rfl
    rw [hCons, isValid_cons, hStart, hWidth, drop_left]
    exact ih

theorem isValid_ofString (s : String) : isValid (Bytes.ofString s) = true :=
  isValid_encodeChars s.toList

end Written

end Utf8

namespace Error

------------------------------------------------------------
-- The Cut of a Long Line
------------------------------------------------------------

/- Searching down from `m` finds the greatest index up to `m` where a test holds, when it
holds at 0. -/
theorem find?_range_reverse_isGreatest (p : Nat → Bool) (h0 : p 0 = true) (m : Nat) :
    IsGreatest {k | k ≤ m ∧ p k = true} (((range (m + 1)).reverse.find? p).getD 0) := by
  induction m with
  | zero => simp [h0, IsGreatest, upperBounds]
  | succ m ih =>
    rw [range_succ, reverse_append, reverse_singleton, singleton_append, find?_cons]
    by_cases hm : p (m + 1) = true
    · simp only [hm, Option.getD_some]
      exact ⟨⟨le_rfl, hm⟩, fun k hk => hk.1⟩
    · simp only [hm]
      refine ⟨⟨Nat.le_succ_of_le ih.1.1, ih.1.2⟩, fun k hk => ih.2 ⟨?_, hk.2⟩⟩
      rcases Nat.lt_or_eq_of_le hk.1 with hLt | rfl
      · omega
      · exact absurd hk.2 hm

/- The octets at which the cut may fall are those that are no continuation byte. -/
theorem isStart_eq_not_isTail (c : UInt8) :
    (c.toNat < 0x80 || c.toNat ≥ 0xC0) = !Utf8.isTail c := by
  have := c.toNat_lt
  simp only [Utf8.isTail]
  by_cases h₁ : c.toNat < 0x80 <;> by_cases h₂ : c.toNat ≥ 0xC0 <;> simp [h₁, h₂] <;>
    omega

variable {raw : Bytes}

theorem truncateLine_of_le (h : raw.length ≤ 120) : truncateLine raw = raw := by
  simp [truncateLine, h]

/- A line over 120 octets is cut at the last index up to 120 that is 0 or holds no
continuation byte, and marked with an ellipsis. Below the length every index holds an
octet, so the search tests exactly the octet there. -/
theorem truncateLine_of_lt (h : 120 < raw.length) :
    ∃ k, IsGreatest
        {j | j ≤ 120 ∧ (j = 0 ∨ raw[j]?.all (fun c => !Utf8.isTail c) = true)} k ∧
      truncateLine raw = raw.take k ++ Bytes.ofString "..." := by
  let p : Nat → Bool := fun n =>
    n = 0 || (raw[n]?.map fun c => c.toNat < 0x80 || c.toNat ≥ 0xC0).getD true
  have hSet : {j | j ≤ 120 ∧ p j = true} =
      {j | j ≤ 120 ∧ (j = 0 ∨ raw[j]?.all (fun c => !Utf8.isTail c) = true)} := by
    ext j
    simp only [Set.mem_ofPred_eq, p, Bool.or_eq_true, decide_eq_true_eq]
    constructor <;> rintro ⟨hj, hp⟩ <;> refine ⟨hj, ?_⟩ <;>
      simpa [getElem?_eq_getElem (show j < raw.length by omega), isStart_eq_not_isTail] using hp
  refine ⟨_, hSet ▸ find?_range_reverse_isGreatest p (by simp [p]) 120, ?_⟩
  simp [truncateLine, Nat.not_le.2 h, p]
  rfl

/- In a valid line over 120 octets, the indices up to 120 that are 0 or hold no
continuation byte are the offsets up to 120 at which a character starts. -/
theorem cutSet_eq_boundaries (hValid : Utf8.isValid raw = true) (h : 120 < raw.length) :
    {j | j ≤ 120 ∧ (j = 0 ∨ raw[j]?.all (fun c => !Utf8.isTail c) = true)} =
      {j | j ≤ 120 ∧ Utf8.IsBoundary raw j} := by
  ext j
  simp only [Set.mem_ofPred_eq]
  constructor
  · rintro ⟨hj, rfl | hStart⟩
    · exact ⟨hj, Utf8.isBoundary_zero raw⟩
    · exact ⟨hj, (Utf8.isBoundary_iff hValid (by omega)).2 hStart⟩
  · rintro ⟨hj, hB⟩
    exact ⟨hj, .inr ((Utf8.isBoundary_iff hValid (by omega)).1 hB)⟩

------------------------------------------------------------
-- The Message
------------------------------------------------------------

/- The text of a malformed line's error is its one placeholder filled with the cut line. -/
theorem format_text (raw : Bytes) (cause : Option Cause) :
    (format raw cause).text = Bytes.ofString "Malformed line: " ++ truncateLine raw := by
  have hTemplate : Bytes.ofString "Malformed line: {0}" =
      Bytes.ofString "Malformed line: " ++ (placeholder 0 ++ []) := by decide
  have hText : (format raw cause).text =
      Bytes.replaceAll (placeholder 0) (truncateLine raw)
        (Bytes.ofString "Malformed line: {0}") := rfl
  rw [hText, hTemplate, replaceAll_placeholder_of_open_not_mem (by decide),
    Bytes.replaceAll_at_match (placeholder_ne_nil 0) (prefix_append _ _), drop_left,
    Bytes.replaceAll_nil, append_nil]

end Error

open Error in
/-
  The error of a malformed line is a recoverable LINE_FORMAT error
  whose text quotes the line whole up to 120 octets. A longer line is
  cut at the last index up to 120 that is 0 or holds no continuation
  byte, and an ellipsis follows; when the line is valid UTF-8 that
  index is the last offset up to 120 at which a character starts, and
  the quoted text is valid UTF-8.
-/
theorem malformed_line_text_cuts_at_rune_start (raw : Bytes) (cause : Option Cause) :
    (format raw cause).code = codeFormat ∧
      (format raw cause).severity = .recoverable ∧
      (raw.length ≤ 120 →
        (format raw cause).text = Bytes.ofString "Malformed line: " ++ raw) ∧
      (120 < raw.length → ∃ k,
        IsGreatest
          {j | j ≤ 120 ∧ (j = 0 ∨ raw[j]?.all (fun c => !Utf8.isTail c) = true)} k ∧
        (format raw cause).text =
          Bytes.ofString "Malformed line: " ++ (raw.take k ++ Bytes.ofString "...") ∧
        (Utf8.isValid raw = true →
          Utf8.isValid (raw.take k ++ Bytes.ofString "...") = true ∧
          IsGreatest {j | j ≤ 120 ∧ Utf8.IsBoundary raw j} k)) := by
  refine ⟨rfl, rfl, fun h => by rw [format_text, truncateLine_of_le h], fun h => ?_⟩
  obtain ⟨k, hk, hCut⟩ := truncateLine_of_lt h
  refine ⟨k, hk, by rw [format_text, hCut], fun hValid => ?_⟩
  have hGreatest := cutSet_eq_boundaries hValid h ▸ hk
  have hDots : Utf8.isValid (Bytes.ofString "...") = true := by
    simp [Bytes.ofString, Utf8.encode, Utf8.encodeChars, Utf8.encodeChar, Utf8.isValid_cons,
      Utf8.startsValid, Utf8.decodeRune, Utf8.isValid]
  exact ⟨Utf8.isValid_append (Utf8.isValid_take hValid hGreatest.1.2) hDots, hGreatest⟩

open Error in
/- A line of 119 "a" and two "é" is cut before the first "é", whose two octets stand at 119
and 120. -/
theorem malformed_line_text_cuts_at_rune_start_accents :
    let raw := List.replicate 119 (97 : UInt8) ++ [0xC3, 0xA9, 0xC3, 0xA9]
    120 < raw.length ∧ Utf8.isValid raw = true ∧
      (format raw none).text =
        Bytes.ofString "Malformed line: " ++ (List.replicate 119 97 ++ Bytes.ofString "...") := by
  intro raw
  have hLen : 120 < raw.length := by simp [raw]
  have hChars : raw = Utf8.encodeChars (List.replicate 119 'a' ++ ['é', 'é']) := by
    have hA : Utf8.encodeChar 'a' = [97] := by decide
    have hE : Utf8.encodeChar 'é' = [0xC3, 0xA9] := by decide
    rw [Utf8.encodeChars, flatMap_append, flatMap_replicate, hA, flatten_replicate_singleton,
      flatMap_cons, flatMap_cons, flatMap_nil, hE]
    rfl
  have hValid : Utf8.isValid raw = true := hChars ▸ Utf8.isValid_encodeChars _
  obtain ⟨-, -, -, hLong⟩ := malformed_line_text_cuts_at_rune_start raw none
  obtain ⟨k, hk, hText, -⟩ := hLong hLen
  have hAt119 : raw[119]? = some 0xC3 := by simp [raw]
  have hAt120 : raw[120]? = some 0xA9 := by simp [raw]
  have h119 : 119 ≤ k := hk.2 ⟨by decide, .inr (by simp [hAt119, Utf8.isTail])⟩
  have h120 : k ≠ 120 := by
    rintro rfl
    rcases hk.1.2 with hZero | hStart
    · exact absurd hZero (by decide)
    · simp [hAt120, Utf8.isTail] at hStart
  obtain rfl : k = 119 := by
    have := hk.1.1
    omega
  exact ⟨hLen, hValid, by rw [hText, take_left' length_replicate]⟩

end LineBatch
