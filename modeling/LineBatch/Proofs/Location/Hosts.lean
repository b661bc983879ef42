import LineBatch.Location.Parse
import Mathlib.Data.List.Infix

/-
  What decoding leaves in a host.

  A URL's parts are checked and then percent-decoded: checking lets
  through only escapes of two hex digits and, in a host or a zone,
  only the ASCII octets a host allows, and decoding puts the octet an
  escape names in its place. So a decoded host holds no control
  octet, no DEL and none of '#', '/', '?' or '@'; decoding shortens a
  text by two octets an escape; and a host whose decoded form has no
  '%' in it reads as itself.

  Main declarations:
    * `Url.unescape_eq_ok`, `Url.length_decode_add`
    * `Url.HostOctet`, `Url.HostSafe`
    * `Url.parseHost_eq_ok`, `Url.parseHost_self`, `Url.hostSafe_of_parseHost`
-/

namespace LineBatch
open List
namespace Url

section Escapes

variable {part : Part} {b c x y : UInt8} {s rest more q : Bytes}

theorem hexValue_lt (hx : isHex x = true) : hexValue x < 16 := by
  simp only [isHex, isDigit, Bool.or_eq_true, Bool.and_eq_true, decide_eq_true_eq] at hx
  simp only [hexValue, isDigit, Bool.and_eq_true, decide_eq_true_eq]
  split_ifs <;> omega

/-- Past an octet that is not a percent sign, checking goes on with the rest once the octet
itself passes: in a host or a zone an ASCII octet must be one a host allows, whatever
follows it. -/
theorem check_cons_iff (hb : b ≠ 37) :
    check part (b :: rest) = .ok () ↔
      ((part = .host ∨ part = .zone) → b.toNat < 0x80 → hostAllows b = true) ∧
        check part rest = .ok () := by
  by_cases hBad : ((part = .host ∨ part = .zone) ∧ b.toNat < 0x80) ∧ hostAllows b = false
  · rcases rest with _ | ⟨x, _ | ⟨y, more⟩⟩ <;> simp_all [check]
  · have hGood : (part = .host ∨ part = .zone) → b.toNat < 0x80 → hostAllows b = true := by
      intro hPart hAscii
      simpa [hPart, hAscii] using hBad
    rcases rest with _ | ⟨x, _ | ⟨y, more⟩⟩ <;> simp +contextual [check, hb, if_neg hBad, hGood]

theorem check_escape (h : check part (37 :: x :: y :: more) = .ok ()) :
    isHex x = true ∧ isHex y = true ∧ check part more = .ok () := by
  simp only [check, beq_self_eq_true, if_true] at h
  split_ifs at h with hHex
  simp only [Bool.not_eq_true', Bool.and_eq_false_iff, not_or, Bool.not_eq_false] at hHex
  exact ⟨hHex.1, hHex.2, h⟩

/-- A percent sign needs two octets after it. -/
theorem ne_percent_of_check (h : check part (b :: rest) = .ok ()) (hLen : rest.length < 2) :
    b ≠ 37 := by
  rintro rfl
  rcases rest with _ | ⟨x, _ | ⟨y, more⟩⟩
  · simp [check] at h
  · simp [check] at h
  · simp only [length_cons] at hLen
    omega

/-- In a host an escape stands for an octet from 0x80 on, or is "%25". -/
theorem check_host_escape (h : check .host (37 :: x :: y :: more) = .ok ()) :
    8 ≤ hexValue x ∨ x = 50 ∧ y = 53 := by
  simp only [check, beq_self_eq_true, if_true] at h
  split_ifs at h with hHex hLow
  simp at hLow
  rcases Nat.lt_or_ge (hexValue x) 8 with hSmall | hLarge
  · exact .inr (hLow hSmall)
  · exact .inl hLarge

theorem decode_cons_of_ne (hb : b ≠ 37) : decode (b :: rest) = b :: decode rest := by
  rcases rest with _ | ⟨x, _ | ⟨y, more⟩⟩
  · rfl
  · rfl
  · simp [decode, hb]

theorem decode_escape (hx : isHex x = true) (hy : isHex y = true) (more : Bytes) :
    decode (37 :: x :: y :: more) = (hexValue x * 16 + hexValue y).toUInt8 :: decode more := by
  simp [decode, hx, hy]

/-- Each escape of a checked text decodes to one octet, so the text loses two octets per
percent sign. -/
theorem length_decode_add (h : check part s = .ok ()) :
    (decode s).length + 2 * s.count 37 = s.length := by
  induction s using decode.induct with
  | case1 => rfl
  | case2 b x y more hEsc ih =>
    simp only [Bool.and_eq_true, beq_iff_eq] at hEsc
    obtain ⟨⟨rfl, hx⟩, hy⟩ := hEsc
    have hx37 : x ≠ 37 := by rintro rfl; simp [isHex, isDigit] at hx
    have hy37 : y ≠ 37 := by rintro rfl; simp [isHex, isDigit] at hy
    simp [decode_escape hx hy, hx37, hy37, ← ih (check_escape h).2.2]
    omega
  | case3 b x y more hEsc ih =>
    by_cases hb : b = 37
    · subst hb
      obtain ⟨hx, hy, -⟩ := check_escape h
      simp [hx, hy] at hEsc
    · have := ih ((check_cons_iff hb).1 h).2
      simp [decode_cons_of_ne hb, count_cons, hb] at this ⊢
      omega
  | case4 b x =>
    have hb := ne_percent_of_check h (by simp)
    have hx := ne_percent_of_check ((check_cons_iff hb).1 h).2 (by simp)
    simp [decode, hb, hx]
  | case5 b =>
    have hb := ne_percent_of_check h (by simp)
    simp [decode, hb]

/-- Decoding a checked text goes through an octet that no escape can take: one that is neither
a percent sign nor a hexadecimal digit. -/
theorem decode_append_cons (h : check part (s ++ c :: q) = .ok ()) (hc : isHex c = false)
    (hc37 : c ≠ 37) : decode (s ++ c :: q) = decode s ++ c :: decode q := by
  induction s using decode.induct with
  | case1 => exact decode_cons_of_ne hc37
  | case2 b x y more hEsc ih =>
    simp only [Bool.and_eq_true, beq_iff_eq] at hEsc
    obtain ⟨⟨rfl, hx⟩, hy⟩ := hEsc
    simp only [cons_append] at h ⊢
    simp [decode_escape hx hy, ih (check_escape h).2.2]
  | case3 b x y more hEsc ih =>
    simp only [cons_append] at h ⊢
    have hb : b ≠ 37 := by
      rintro rfl
      obtain ⟨hx, hy, -⟩ := check_escape h
      simp [hx, hy] at hEsc
    have hTail := ih ((check_cons_iff hb).1 h).2
    simp only [cons_append] at hTail
    rw [decode_cons_of_ne hb, decode_cons_of_ne hb, hTail]
    rfl
  | case4 b x =>
    simp only [cons_append, nil_append] at h ⊢
    have hb : b ≠ 37 := by
      rintro rfl
      simp [(check_escape h).2.1] at hc
    have hx : x ≠ 37 := by
      rintro rfl
      rcases q with _ | ⟨d, q⟩
      · exact ne_percent_of_check ((check_cons_iff hb).1 h).2 (by simp) rfl
      · simp [(check_escape ((check_cons_iff hb).1 h).2).1] at hc
    rw [decode_cons_of_ne hb, decode_cons_of_ne hx, decode_cons_of_ne hc37]
    rfl
  | case5 b =>
    simp only [cons_append, nil_append] at h ⊢
    have hb : b ≠ 37 := by
      rintro rfl
      rcases q with _ | ⟨d, q⟩
      · exact ne_percent_of_check h (by simp) rfl
      · simp [(check_escape h).1] at hc
    rw [decode_cons_of_ne hb, decode_cons_of_ne hc37]
    rfl

theorem unescape_eq_ok {t : Bytes} :
    unescape part s = .ok t ↔ check part s = .ok () ∧ decode s = t := by
  unfold unescape
  cases check part s <;> simp [bind, Except.bind, pure, Except.pure]

/-- A path without a percent sign is read as it stands. -/
theorem unescape_path_of_not_mem (h : 37 ∉ s) : unescape .path s = .ok s := by
  refine unescape_eq_ok.2 ⟨?_, decode_of_no_percent s h⟩
  induction s with
  | nil => rfl
  | cons b rest ih =>
    have hb : b ≠ 37 := fun hb => h (hb ▸ mem_cons_self)
    refine (check_cons_iff hb).2 ⟨fun hPart => ?_, ih (fun hm => h (mem_cons_of_mem _ hm))⟩
    rcases hPart with hPart | hPart <;> cases hPart

end Escapes
section Positions

variable {sep d : UInt8} {s X Y : Bytes} {i : Nat}

theorem lastIndex_append_singleton (sep d : UInt8) (s : Bytes) :
    lastIndex sep (s ++ [d]) = if d = sep then some s.length else lastIndex sep s := by
  unfold lastIndex
  rw [zipIdx_append, filter_append]
  by_cases hd : d = sep <;> simp [hd]

theorem lastIndex_eq_none_iff : lastIndex sep s = none ↔ sep ∉ s := by
  induction s using reverseRecOn with
  | nil => simp [lastIndex]
  | append_singleton s d ih =>
    rw [lastIndex_append_singleton]
    by_cases hd : d = sep
    · simp [hd]
    · simp [hd, ih, Ne.symm hd]

/-- The last occurrence is an occurrence. -/
theorem getElem?_lastIndex (h : lastIndex sep s = some i) : s[i]? = some sep := by
  induction s using reverseRecOn generalizing i with
  | nil => simp [lastIndex] at h
  | append_singleton s d ih =>
    rw [lastIndex_append_singleton] at h
    by_cases hd : d = sep
    · simp only [hd, if_true, Option.some.injEq] at h
      simp [← h, hd]
    · simp only [hd, if_false] at h
      have hi := ih h
      have hLt : i < s.length := by
        by_contra hGe
        simp [getElem?_eq_none (by omega : s.length ≤ i)] at hi
      rw [getElem?_append_left hLt, hi]

/-- Nothing after the last occurrence is another. -/
theorem not_mem_drop_lastIndex (h : lastIndex sep s = some i) : sep ∉ s.drop (i + 1) := by
  induction s using reverseRecOn generalizing i with
  | nil => simp [lastIndex] at h
  | append_singleton s d ih =>
    rw [lastIndex_append_singleton] at h
    by_cases hd : d = sep
    · simp only [hd, if_true, Option.some.injEq] at h
      simp [← h]
    · simp only [hd, if_false] at h
      have hLt : i < s.length := by
        have hAt := getElem?_lastIndex h
        by_contra hGe
        simp [getElem?_eq_none (by omega : s.length ≤ i)] at hAt
      rw [drop_append_of_le_length (by omega)]
      simp [ih h, Ne.symm hd]

theorem lastIndex_append_cons (hY : sep ∉ Y) : lastIndex sep (X ++ sep :: Y) = some X.length := by
  induction Y using reverseRecOn with
  | nil => simp [lastIndex_append_singleton]
  | append_singleton Y d ih =>
    have hd : d ≠ sep := fun hd => hY (by simp [hd])
    rw [← cons_append, ← append_assoc, lastIndex_append_singleton, if_neg hd]
    exact ih (fun hm => hY (mem_append_left _ hm))

theorem drop_eq_cons_of_getElem? {s : Bytes} {i : Nat} {c : UInt8} (h : s[i]? = some c) :
    s.drop i = c :: s.drop (i + 1) := by
  obtain ⟨hi, hc⟩ := List.getElem?_eq_some_iff.1 h
  rw [← hc, drop_eq_getElem_cons hi]

theorem eq_take_append_cons {s : Bytes} {i : Nat} {c : UInt8} (h : s[i]? = some c) :
    s = s.take i ++ c :: s.drop (i + 1) := by
  rw [← drop_eq_cons_of_getElem? h, take_append_drop]

end Positions

section Hosts

variable {c x y : UInt8} {s h t more : Bytes}

/-- The octets a decoded host holds besides the percent sign: those from 0x80 on, and the
ones a host may hold unescaped. -/
def HostOctet (c : UInt8) : Prop := 0x80 ≤ c.toNat ∨ hostAllows c = true

instance (c : UInt8) : Decidable (HostOctet c) :=
  inferInstanceAs (Decidable (0x80 ≤ c.toNat ∨ hostAllows c = true))

/-- What a host allows unescaped is printable ASCII without "#", "%", "/", "?" or "@". -/
theorem hostAllows_range (hc : hostAllows c = true) :
    0x20 < c.toNat ∧ c.toNat < 0x7F ∧ c.toNat ≠ 35 ∧ c.toNat ≠ 37 ∧ c.toNat ≠ 47 ∧
      c.toNat ≠ 63 ∧ c.toNat ≠ 64 := by
  simp [hostAllows, oneOf, code, isLetter, isDigit, ← UInt8.toNat_inj] at hc
  omega

theorem ne_percent_of_hostOctet (hc : HostOctet c) : c ≠ 37 := by
  rintro rfl
  rcases hc with hc | hc
  · simp at hc
  · simpa using (hostAllows_range hc).2.2.2.1

/-- The octet a host escape stands for is from 0x80 on, or is the percent sign. -/
theorem escape_host_value (h : check .host (37 :: x :: y :: more) = .ok ()) :
    (hexValue x * 16 + hexValue y).toUInt8 = 37 ∨
      0x80 ≤ (hexValue x * 16 + hexValue y).toUInt8.toNat := by
  obtain ⟨hx, hy, -⟩ := check_escape h
  have hxLt := hexValue_lt hx
  have hyLt := hexValue_lt hy
  rcases check_host_escape h with hHigh | ⟨rfl, rfl⟩
  · right
    simp only [Nat.toUInt8, UInt8.toNat_ofNat']
    omega
  · left
    decide

theorem hostOctet_of_check_cons {part : Part} (hPart : part = .host ∨ part = .zone) {b : UInt8}
    (hb : b ≠ 37) (h : check part (b :: t) = .ok ()) : HostOctet b := by
  have hAllowed := ((check_cons_iff hb).1 h).1 hPart
  by_cases hAscii : b.toNat < 0x80
  · exact .inr (hAllowed hAscii)
  · exact .inl (by omega)

theorem hostOctet_of_isHex (hx : isHex x = true) : HostOctet x := by
  right
  simp only [isHex, isDigit, Bool.or_eq_true, Bool.and_eq_true, decide_eq_true_eq] at hx
  simp only [hostAllows, isLetter, isDigit, Bool.or_eq_true, Bool.and_eq_true, decide_eq_true_eq]
  omega

/-- The octet a zone escape stands for is the percent sign, a space, or one a host allows:
past "%25" and a space the zone test asks for an octet a host allows. -/
theorem escape_zone_value (h : check .zone (37 :: x :: y :: more) = .ok ()) :
    (hexValue x * 16 + hexValue y).toUInt8 = 37 ∨ (hexValue x * 16 + hexValue y).toUInt8 = 32 ∨
      hostAllows (hexValue x * 16 + hexValue y).toUInt8 = true := by
  simp only [check, beq_self_eq_true, if_true] at h
  split_ifs at h with hHex hLow hZone
  by_cases hMark : x = 50 ∧ y = 53
  · obtain ⟨rfl, rfl⟩ := hMark
    left
    decide
  · by_cases hSpace : (hexValue x * 16 + hexValue y).toUInt8 = 32
    · exact .inr (.inl hSpace)
    · right; right
      by_contra hNot
      apply hZone
      have hMark' : (x == 50 && y == 53) = false := by
        simpa [Bool.and_eq_false_iff] using hMark
      have hNe : ((hexValue x * 16 + hexValue y).toUInt8 != 32) = true := bne_iff_ne.2 hSpace
      have hNot' := Bool.eq_false_iff.2 hNot
      simp only [hMark', hNe, hNot', decide_true, Bool.not_false, Bool.and_false, Bool.and_self]

/-- The octets of a checked host or zone are percent signs and host octets. -/
theorem hostOctet_of_mem {part : Part} (hPart : part = .host ∨ part = .zone)
    (h : check part s = .ok ()) (hc : c ∈ s) : c = 37 ∨ HostOctet c := by
  induction s using decode.induct with
  | case1 => simp at hc
  | case2 b x y more hEsc ih =>
    simp only [Bool.and_eq_true, beq_iff_eq] at hEsc
    obtain ⟨⟨rfl, hx⟩, hy⟩ := hEsc
    simp only [mem_cons] at hc
    rcases hc with rfl | rfl | rfl | hc
    · exact .inl rfl
    · exact .inr (hostOctet_of_isHex hx)
    · exact .inr (hostOctet_of_isHex hy)
    · exact ih (check_escape h).2.2 hc
  | case3 b x y more hEsc ih =>
    have hb : b ≠ 37 := by
      rintro rfl
      obtain ⟨hx, hy, -⟩ := check_escape h
      simp [hx, hy] at hEsc
    rcases mem_cons.1 hc with rfl | hc
    · exact .inr (hostOctet_of_check_cons hPart hb h)
    · exact ih ((check_cons_iff hb).1 h).2 hc
  | case4 b x =>
    have hb := ne_percent_of_check h (by simp)
    have hx := ne_percent_of_check ((check_cons_iff hb).1 h).2 (by simp)
    simp only [mem_cons, not_mem_nil, or_false] at hc
    rcases hc with rfl | rfl
    · exact .inr (hostOctet_of_check_cons hPart hb h)
    · exact .inr (hostOctet_of_check_cons hPart hx ((check_cons_iff hb).1 h).2)
  | case5 b =>
    have hb := ne_percent_of_check h (by simp)
    simp only [mem_cons, not_mem_nil, or_false] at hc
    subst hc
    exact .inr (hostOctet_of_check_cons hPart hb h)

/-- Decoding brings in only the octets escapes stand for. -/
theorem mem_decode {part : Part} {P : UInt8 → Prop}
    (hEscape : ∀ x y more, check part (37 :: x :: y :: more) = .ok () →
      P (hexValue x * 16 + hexValue y).toUInt8)
    (h : check part s = .ok ()) (hc : c ∈ decode s) : c ∈ s ∨ P c := by
  induction s using decode.induct with
  | case1 => simp [decode] at hc
  | case2 b x y more hEsc ih =>
    simp only [Bool.and_eq_true, beq_iff_eq] at hEsc
    obtain ⟨⟨rfl, hx⟩, hy⟩ := hEsc
    rw [decode_escape hx hy] at hc
    rcases mem_cons.1 hc with rfl | hc
    · exact .inr (hEscape x y more h)
    · rcases ih (check_escape h).2.2 hc with hMem | hRest
      · exact .inl (by simp [hMem])
      · exact .inr hRest
  | case3 b x y more hEsc ih =>
    have hb : b ≠ 37 := by
      rintro rfl
      obtain ⟨hx, hy, -⟩ := check_escape h
      simp [hx, hy] at hEsc
    rw [decode_cons_of_ne hb] at hc
    rcases mem_cons.1 hc with rfl | hc
    · exact .inl mem_cons_self
    · rcases ih ((check_cons_iff hb).1 h).2 hc with hMem | hRest
      · exact .inl (mem_cons_of_mem _ hMem)
      · exact .inr hRest
  | case4 b x => exact .inl hc
  | case5 b => exact .inl hc

/-- Decoding a checked host brings in no octet below 0x80 but the percent sign. -/
theorem mem_of_mem_decode_host (h : check .host s = .ok ()) (hc : c ∈ decode s) :
    c ∈ s ∨ c = 37 ∨ 0x80 ≤ c.toNat :=
  mem_decode (P := fun c => c = 37 ∨ 0x80 ≤ c.toNat)
    (fun _ _ _ hEsc => escape_host_value hEsc) h hc

/-- Decoding a checked zone brings in the percent sign, spaces and octets a host allows. -/
theorem mem_of_mem_decode_zone (h : check .zone s = .ok ()) (hc : c ∈ decode s) :
    c ∈ s ∨ c = 37 ∨ c = 32 ∨ hostAllows c = true :=
  mem_decode (P := fun c => c = 37 ∨ c = 32 ∨ hostAllows c = true)
    (fun _ _ _ hEsc => escape_zone_value hEsc) h hc

/-- Without a percent sign, a decoded host holds host octets only. -/
theorem hostOctet_of_mem_decode (h : check .host s = .ok ()) (hc : c ∈ decode s) (hc37 : c ≠ 37) :
    HostOctet c := by
  rcases mem_of_mem_decode_host h hc with hMem | h37 | hHigh
  · exact (hostOctet_of_mem (.inl rfl) h hMem).resolve_left hc37
  · exact absurd h37 hc37
  · exact .inl hHigh

/-- A text of host octets is a host as it stands. -/
theorem unescape_host_of_hostOctet (h : ∀ c ∈ s, HostOctet c) : unescape .host s = .ok s := by
  have hNoPercent : 37 ∉ s := fun hm => ne_percent_of_hostOctet (h 37 hm) rfl
  refine unescape_eq_ok.2 ⟨?_, decode_of_no_percent s hNoPercent⟩
  induction s with
  | nil => rfl
  | cons b rest ih =>
    have hb := h b mem_cons_self
    refine (check_cons_iff (ne_percent_of_hostOctet hb)).2 ⟨fun _ hAscii => ?_, ?_⟩
    · exact hb.resolve_left (by omega)
    · exact ih (fun c hc => h c (mem_cons_of_mem _ hc)) (fun hm => hNoPercent (mem_cons_of_mem _ hm))

/-- The octets that stand in a URL's host without ending it: no control octet, and no "#",
"/", "?" or "@". -/
def HostSafe (c : UInt8) : Prop :=
  0x20 ≤ c.toNat ∧ c.toNat ≠ 0x7F ∧ c.toNat ≠ 35 ∧ c.toNat ≠ 47 ∧ c.toNat ≠ 63 ∧ c.toNat ≠ 64

instance (c : UInt8) : Decidable (HostSafe c) :=
  inferInstanceAs (Decidable (0x20 ≤ c.toNat ∧ c.toNat ≠ 0x7F ∧ c.toNat ≠ 35 ∧ c.toNat ≠ 47 ∧
    c.toNat ≠ 63 ∧ c.toNat ≠ 64))

theorem hostSafe_of_hostOctet (hc : HostOctet c) : HostSafe c := by
  rcases hc with hHigh | hAllowed
  · unfold HostSafe
    omega
  · have := hostAllows_range hAllowed
    unfold HostSafe
    omega

theorem hostSafe_of_mem_decode_host (h : check .host s = .ok ()) (hc : c ∈ decode s) :
    HostSafe c := by
  rcases mem_of_mem_decode_host h hc with hMem | rfl | hHigh
  · rcases hostOctet_of_mem (.inl rfl) h hMem with rfl | hOctet
    · decide
    · exact hostSafe_of_hostOctet hOctet
  · decide
  · exact hostSafe_of_hostOctet (.inl hHigh)

theorem hostSafe_of_mem_decode_zone (h : check .zone s = .ok ()) (hc : c ∈ decode s) :
    HostSafe c := by
  rcases mem_of_mem_decode_zone h hc with hMem | rfl | rfl | hAllowed
  · rcases hostOctet_of_mem (.inr rfl) h hMem with rfl | hOctet
    · decide
    · exact hostSafe_of_hostOctet hOctet
  · decide
  · decide
  · exact hostSafe_of_hostOctet (.inr hAllowed)

end Hosts

section ReadHosts

variable {c : UInt8} {t x : Bytes}

/-- What a read host can be: decoded around a zone, or decoded whole after its port passed. -/
theorem parseHost_eq_ok {t x : Bytes} (h : parseHost t = .ok x) :
    (t.head? = some 91 ∧ ∃ i z, lastIndex 93 t = some i ∧
        indexOf (Bytes.ofString "%25") (t.take i) = some z ∧ ∃ a b c,
        unescape .host (t.take z) = .ok a ∧ unescape .zone ((t.take i).drop z) = .ok b ∧
        unescape .host (t.drop i) = .ok c ∧ x = a ++ b ++ c) ∨
      (unescape .host t = .ok x ∧
        (t.head? = some 91 → ∃ i, lastIndex 93 t = some i ∧ validPort (t.drop (i + 1)) = true ∧
          indexOf (Bytes.ofString "%25") (t.take i) = none) ∧
        (t.head? ≠ some 91 → ∀ i, lastIndex 58 t = some i → validPort (t.drop i) = true)) := by
  unfold parseHost at h
  split at h
  · next hOpen =>
    split at h
    · cases h
    · next i hLast =>
      dsimp only at h
      split_ifs at h with hPort
      simp only [Bool.not_eq_true', Bool.not_eq_false] at hPort
      split at h
      · next z hZone =>
        left
        refine ⟨hOpen, i, z, hLast, hZone, ?_⟩
        cases hA : unescape .host (t.take z) with
        | error e => simp [hA, bind, Except.bind] at h
        | ok a =>
          cases hB : unescape .zone ((t.take i).drop z) with
          | error e => simp [hA, hB, bind, Except.bind] at h
          | ok b =>
            cases hC : unescape .host (t.drop i) with
            | error e => simp [hA, hB, hC, bind, Except.bind] at h
            | ok c =>
              simp only [hA, hB, hC, bind, Except.bind, pure, Except.pure, Except.ok.injEq] at h
              exact ⟨a, b, c, rfl, rfl, rfl, h.symm⟩
      · next hNoZone =>
        exact .inr ⟨h, fun _ => ⟨i, hLast, hPort, hNoZone⟩, fun hNot => absurd hOpen hNot⟩
  · next hOpen =>
    refine .inr ⟨?_, fun hOpen' => absurd hOpen' hOpen, fun _ i hLast => ?_⟩
    · split at h
      · dsimp only at h
        split_ifs at h
        exact h
      · exact h
    · simp only [hLast] at h
      split_ifs at h with hPort
      simpa using hPort

theorem indexOf_eq_some {pat s : Bytes} {z : Nat} (h : indexOf pat s = some z) :
    z ≤ s.length ∧ pat.isPrefixOf (s.drop z) = true := by
  unfold indexOf at h
  have hPrefix := find?_some h
  exact ⟨Nat.lt_succ_iff.1 (mem_range.1 (mem_of_find?_eq_some h)), hPrefix⟩

/-- A text without a percent sign holds no zone mark. -/
theorem indexOf_zone_eq_none {s : Bytes} (h : 37 ∉ s) :
    indexOf (Bytes.ofString "%25") s = none := by
  unfold indexOf
  refine find?_eq_none.2 fun i _ hPrefix => h ?_
  have hMem : 37 ∈ s.drop i := ( isPrefixOf_iff_prefix.1 hPrefix).subset (by decide)
  exact mem_of_mem_drop hMem

theorem mem_of_validPort {p : Bytes} (hp : validPort p = true) (hc : c ∈ p) :
    c = 58 ∨ isDigit c = true := by
  rcases p with _ | ⟨d, ds⟩
  · simp at hc
  · simp only [validPort, Bool.and_eq_true, beq_iff_eq, all_eq_true] at hp
    rcases mem_cons.1 hc with rfl | hc
    · exact .inl hp.1
    · exact .inr (hp.2 c hc)

/-- Each escape of a host shortens it by two octets: the pieces around a zone decode, and put
back together they are the host. -/
theorem length_parseHost (h : parseHost t = .ok x) : x.length + 2 * t.count 37 = t.length := by
  rcases parseHost_eq_ok h with ⟨-, i, z, -, hZone, a, b, c, hA, hB, hC, rfl⟩ | ⟨hU, -, -⟩
  · obtain ⟨hCheckA, rfl⟩ := unescape_eq_ok.1 hA
    obtain ⟨hCheckB, rfl⟩ := unescape_eq_ok.1 hB
    obtain ⟨hCheckC, rfl⟩ := unescape_eq_ok.1 hC
    have hz : z ≤ i := le_trans (indexOf_eq_some hZone).1 (length_take_le _ _)
    have hPieces : t.take z ++ (t.take i).drop z ++ t.drop i = t := by
      have hTake : (t.take i).take z = t.take z := by rw [take_take, Nat.min_eq_left hz]
      rw [← hTake, take_append_drop, take_append_drop]
    have hCount := congrArg (count 37) hPieces
    have hLength := congrArg length hPieces
    simp only [count_append, length_append] at hCount hLength ⊢
    have := length_decode_add hCheckA
    have := length_decode_add hCheckB
    have := length_decode_add hCheckC
    omega
  · obtain ⟨hCheck, rfl⟩ := unescape_eq_ok.1 hU
    exact length_decode_add hCheck

/-- A bracketed host with no zone mark is decoded whole once its port passes. -/
theorem parseHost_bracket {P Q : Bytes} (hP : P.head? = some 91) (hQ : 93 ∉ Q)
    (hPort : validPort Q = true) (hNoPercent : 37 ∉ P) :
    parseHost (P ++ 93 :: Q) = unescape .host (P ++ 93 :: Q) := by
  have hHead : (P ++ 93 :: Q).head? = some 91 := by
    rcases P with _ | ⟨p, P⟩ <;> simp_all
  unfold parseHost
  rw [if_pos hHead, lastIndex_append_cons hQ]
  simp [hPort, take_left', indexOf_zone_eq_none hNoPercent]

/-- A host without brackets whose last colon starts a port is decoded whole. -/
theorem parseHost_port {P Q : Bytes} (hP : (P ++ 58 :: Q).head? ≠ some 91) (hQ : 58 ∉ Q)
    (hPort : validPort (58 :: Q) = true) :
    parseHost (P ++ 58 :: Q) = unescape .host (P ++ 58 :: Q) := by
  unfold parseHost
  rw [if_neg hP, lastIndex_append_cons hQ]
  simp [hPort]

/-- A host without brackets or colon is decoded whole. -/
theorem parseHost_plain (hOpen : x.head? ≠ some 91) (hColon : 58 ∉ x) :
    parseHost x = unescape .host x := by
  unfold parseHost
  rw [if_neg hOpen, lastIndex_eq_none_iff.2 hColon]

/-- A decoded host starts with "[" only if its text does, or with an escape of "%". -/
theorem head_decode_host (h : check .host t = .ok ()) (hNoPercent : 37 ∉ decode t)
    (hOpen : t.head? ≠ some 91) : (decode t).head? ≠ some 91 := by
  rcases t with _ | ⟨b, rest⟩
  · simp [decode]
  · by_cases hb : b = 37
    · subst hb
      rcases rest with _ | ⟨d, _ | ⟨e, more⟩⟩
      · exact absurd rfl (ne_percent_of_check h (by simp))
      · exact absurd rfl (ne_percent_of_check h (by simp))
      · obtain ⟨hd, he, -⟩ := check_escape h
        rw [decode_escape hd he] at hNoPercent ⊢
        rcases escape_host_value h with h37 | hHigh
        · exact absurd (h37 ▸ mem_cons_self) hNoPercent
        · simp only [head?_cons, ne_eq, Option.some.injEq]
          rintro hOpen'
          rw [hOpen'] at hHigh
          simp at hHigh
    · rw [decode_cons_of_ne hb]
      simpa using hOpen

/-- A port holds no percent sign and no closing bracket. -/
theorem ne_of_mem_validPort {p : Bytes} (hPort : validPort p = true) (hc : c ∈ p) :
    c ≠ 37 ∧ c ≠ 93 := by
  rcases mem_of_validPort hPort hc with rfl | hDigit
  · decide
  · simp only [isDigit, Bool.and_eq_true, decide_eq_true_eq] at hDigit
    constructor <;> rintro rfl <;> simp at hDigit

/-- After its colon, a port holds no other. -/
theorem ne_colon_of_mem_port {Q : Bytes} (hPort : validPort (58 :: Q) = true) (hc : c ∈ Q) :
    c ≠ 58 := by
  simp only [validPort, Bool.and_eq_true, all_eq_true] at hPort
  have hDigit := hPort.2 c hc
  rintro rfl
  simp [isDigit] at hDigit

/-- A decoded bracketed host without a percent sign reads again as itself. -/
theorem parseHost_decode_bracket {P Q : Bytes} (hCheck : check .host (P ++ 93 :: Q) = .ok ())
    (hOpen : (P ++ 93 :: Q).head? = some 91) (hPort : validPort Q = true)
    (hx : 37 ∉ decode (P ++ 93 :: Q)) :
    parseHost (decode (P ++ 93 :: Q)) = unescape .host (decode (P ++ 93 :: Q)) := by
  have hDecode : decode (P ++ 93 :: Q) = decode P ++ 93 :: Q := by
    rw [decode_append_cons hCheck (by decide) (by decide),
      decode_of_no_percent Q (fun hm => (ne_of_mem_validPort hPort hm).1 rfl)]
  obtain ⟨P', rfl⟩ : ∃ P', P = 91 :: P' := by
    rcases P with _ | ⟨p, P'⟩ <;> simp_all
  rw [hDecode] at hx ⊢
  apply parseHost_bracket
  · rw [decode_cons_of_ne (by decide)]
    rfl
  · exact fun hm => (ne_of_mem_validPort hPort hm).2 rfl
  · exact hPort
  · exact fun hm => hx (mem_append_left _ hm)

/-- A host read without a percent sign reads again as itself: a zone starts with "%25",
which decodes to a percent sign, and the port after the last ":" holds digits only, which
decode to themselves. -/
theorem parseHost_self (h : parseHost t = .ok x) (hx : 37 ∉ x) : parseHost x = .ok x := by
  rcases parseHost_eq_ok h with ⟨-, i, z, -, hZone, a, b, c, -, hB, -, rfl⟩ | ⟨hU, hBracket, hPlain⟩
  · exfalso
    obtain ⟨r, hr⟩ : ∃ r, (t.take i).drop z = [37, 50, 53] ++ r := by
      have hPrefix := isPrefixOf_iff_prefix.1 (indexOf_eq_some hZone).2
      obtain ⟨r, hr⟩ := hPrefix
      exact ⟨r, hr.symm⟩
    obtain ⟨-, rfl⟩ := unescape_eq_ok.1 hB
    rw [hr, cons_append, cons_append, cons_append, nil_append,
      decode_escape (by decide) (by decide)] at hx
    exact hx (mem_append_left _ (mem_append_right _ (mem_cons.2 (.inl (by decide)))))
  · obtain ⟨hCheck, rfl⟩ := unescape_eq_ok.1 hU
    have hOctets : ∀ c ∈ decode t, HostOctet c :=
      fun c hc => hostOctet_of_mem_decode hCheck hc (fun h37 => hx (h37 ▸ hc))
    rw [← unescape_host_of_hostOctet hOctets]
    by_cases hOpen : t.head? = some 91
    · obtain ⟨i, hLast, hPort, -⟩ := hBracket hOpen
      have hSplit := eq_take_append_cons (getElem?_lastIndex hLast)
      rw [hSplit] at hCheck hOpen hx ⊢
      exact parseHost_decode_bracket hCheck hOpen hPort hx
    · have hOpen' := head_decode_host hCheck hx hOpen
      cases hLast : lastIndex 58 t with
      | none =>
        refine parseHost_plain hOpen' fun hm => ?_
        rcases mem_of_mem_decode_host hCheck hm with hm | h37 | hHigh
        · exact lastIndex_eq_none_iff.1 hLast hm
        · exact absurd h37 (by decide)
        · exact absurd hHigh (by decide)
      | some i =>
        have hAt := getElem?_lastIndex hLast
        have hPort := hPlain hOpen i hLast
        rw [drop_eq_cons_of_getElem? hAt] at hPort
        have hSplit := eq_take_append_cons hAt
        rw [hSplit] at hCheck hOpen' ⊢
        have hDecode : decode (t.take i ++ 58 :: t.drop (i + 1)) =
            decode (t.take i) ++ 58 :: t.drop (i + 1) := by
          rw [decode_append_cons hCheck (by decide) (by decide),
            decode_of_no_percent _ (fun hm => (ne_of_mem_validPort hPort (mem_cons_of_mem _ hm)).1 rfl)]
        rw [hDecode] at hOpen' ⊢
        exact parseHost_port hOpen' (fun hm => ne_colon_of_mem_port hPort hm rfl) hPort

/-- A read host, zone and all, holds only octets that stand in a host. -/
theorem hostSafe_of_parseHost (h : parseHost t = .ok x) (hc : c ∈ x) : HostSafe c := by
  rcases parseHost_eq_ok h with ⟨-, i, z, -, -, a, b, d, hA, hB, hD, rfl⟩ | ⟨hU, -, -⟩
  · obtain ⟨hCheckA, rfl⟩ := unescape_eq_ok.1 hA
    obtain ⟨hCheckB, rfl⟩ := unescape_eq_ok.1 hB
    obtain ⟨hCheckD, rfl⟩ := unescape_eq_ok.1 hD
    simp only [mem_append] at hc
    rcases hc with (hc | hc) | hc
    · exact hostSafe_of_mem_decode_host hCheckA hc
    · exact hostSafe_of_mem_decode_zone hCheckB hc
    · exact hostSafe_of_mem_decode_host hCheckD hc
  · obtain ⟨hCheck, rfl⟩ := unescape_eq_ok.1 hU
    exact hostSafe_of_mem_decode_host hCheck hc

end ReadHosts

end Url
end LineBatch
