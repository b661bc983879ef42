import LineBatch.Proofs.Location.Hosts
import Mathlib.Data.List.Infix

/-
  Reading a URL in stages.

  Parsing a URL is one block of code; here it is shown equal to
  stages that can be reasoned about one at a time: the scheme is cut
  off at its colon (`splitScheme`), the query at the first '?'
  (`splitQuery`), and after "//" the authority at the first '/'
  (`splitAuthority`). From the stages follow what a parsed URL can
  hold, and exactly which texts read back as a file URL of a given
  path or as a URL of a given scheme, host and query.

  Main declarations:
    * `Url.splitScheme`, `Url.readRest`, `Url.parseMain_eq`
    * `Url.schemeName`, `Url.ofString_schemeName`
    * `Url.isLiteral`, `Url.parse_file`, `Url.literal_of_parse_file`
    * `Url.parse_bucket`, `Url.parts_of_parse`
-/

namespace LineBatch
open List
namespace Url

/-- The query is cut off at the first '?'; a text whose only '?' is its last octet has an
empty query that is still asked for. -/
def splitQuery (rest : Bytes) : Bytes × Bytes × Bool :=
  if rest.getLast? = some 63 && rest.count 63 = 1 then (rest.dropLast, [], true)
  else
    let (r, q) := cut 63 rest
    (r, q.getD [], false)

/-- After "//" the authority runs up to the first '/', where the path starts. -/
def splitAuthority (a : Bytes) : Bytes × Bytes :=
  match a.idxOf? 47 with
  | some i => (a.take i, a.drop i)
  | none => (a, [])

section Schemes

variable {S u rest : Bytes} {i n : Nat}

/-- Whether an octet may stand in a scheme after its first letter. -/
def schemeChar (b : UInt8) : Bool := isLetter b || isDigit b || oneOf "+-." b

/-- Whether a text is a scheme: a letter, then letters, digits, "+", "-" or ".". -/
def isScheme : Bytes → Bool
  | [] => false
  | b :: rest => isLetter b && rest.all schemeChar

/-- The scheme a text names, in lower case. -/
def schemeName (S : Bytes) : String :=
  (String.ofList (S.map fun b => Char.ofNat b.toNat)).toLower

/-- A scheme's name lowers each of its octets read as a character. -/
theorem toList_schemeName (S : Bytes) :
    (schemeName S).toList = S.map fun b => (Char.ofNat b.toNat).toLower := by
  have hLower : ∀ s : String, s.toLower = s.map Char.toLower := fun _ => rfl
  rw [schemeName, hLower, String.toList_map, String.toList_ofList, map_map]
  rfl

/-- Past the first octet, scheme characters read on up to the colon: digits and "+-." like
letters. -/
theorem schemeEnd_of_all (hS : S.all schemeChar = true) (rest : Bytes) (hi : 0 < i) :
    schemeEnd (S ++ 58 :: rest) i = .ok (some (i + S.length)) := by
  induction S generalizing i with
  | nil => simp [schemeEnd, isLetter, isDigit, oneOf, code]; omega
  | cons b S ih =>
    simp only [all_cons, Bool.and_eq_true] at hS
    have hNext := ih hS.2 (i := i + 1) (by omega)
    rw [show i + (b :: S).length = i + 1 + S.length by simp; omega]
    simp only [schemeChar, Bool.or_eq_true] at hS
    rcases hS.1 with (hb | hb) | hb <;> simp [schemeEnd, hb, hNext, Nat.pos_iff_ne_zero.1 hi]

/-- A text that starts with a scheme and a colon has its scheme read off. -/
theorem schemeEnd_scheme (hS : isScheme S = true) (rest : Bytes) :
    schemeEnd (S ++ 58 :: rest) 0 = .ok (some S.length) := by
  rcases S with _ | ⟨b, S⟩
  · simp [isScheme] at hS
  · simp only [isScheme, Bool.and_eq_true] at hS
    simp [schemeEnd, hS.1, schemeEnd_of_all hS.2 rest (Nat.zero_lt_one), Nat.add_comm]

/-- What a scheme read off a text is: its octets up to a colon, scheme characters after a
first letter; a digit or "+-." reads on past the first octet only. -/
theorem schemeEnd_eq_some (h : schemeEnd u i = .ok (some n)) :
    ∃ k, n = i + k ∧ u[k]? = some 58 ∧ (u.take k).all schemeChar = true ∧ 0 < n ∧
      (i = 0 → ∃ b rest, u = b :: rest ∧ isLetter b = true) := by
  induction u generalizing i with
  | nil => simp [schemeEnd] at h
  | cons b rest ih =>
    by_cases hLetter : isLetter b = true
    · rw [schemeEnd, if_pos hLetter] at h
      obtain ⟨k, rfl, hAt, hAll, hPos, -⟩ := ih h
      refine ⟨k + 1, by omega, hAt, ?_, hPos, fun _ => ⟨b, rest, rfl, hLetter⟩⟩
      simp [hAll, schemeChar, hLetter]
    · rw [schemeEnd, if_neg hLetter] at h
      by_cases hOther : (isDigit b || oneOf "+-." b) = true
      · rw [if_pos hOther] at h
        by_cases hi : i = 0
        · simp [hi] at h
        · rw [if_neg hi] at h
          obtain ⟨k, rfl, hAt, hAll, hPos, -⟩ := ih h
          refine ⟨k + 1, by omega, hAt, ?_, hPos, fun hi0 => absurd hi0 hi⟩
          simp only [Bool.or_eq_true] at hOther
          simp only [take_succ_cons, all_cons, hAll, Bool.and_true, schemeChar, Bool.or_eq_true]
          rcases hOther with hDigit | hMark
          · exact .inl (.inr hDigit)
          · exact .inr hMark
      · rw [if_neg hOther] at h
        by_cases hColon : (b == 58) = true
        · rw [if_pos hColon] at h
          by_cases hi : i = 0
          · simp [hi] at h
          · rw [if_neg hi] at h
            cases h
            refine ⟨0, rfl, by simpa using hColon, rfl, by omega, fun hi0 => absurd hi0 hi⟩
        · rw [if_neg hColon] at h
          cases h

/-- Upper-case ASCII letters to lower case; other octets stay. -/
def lowerByte (b : UInt8) : UInt8 := if 65 ≤ b.toNat ∧ b.toNat ≤ 90 then b + 32 else b

/- Lower case on ASCII, as characters and as octets, checked over all of ASCII. -/
theorem encodeChar_toLower_ascii :
    ∀ n, n < 128 → Utf8.encodeChar (Char.ofNat n).toLower = [lowerByte n.toUInt8] := by
  decide

theorem toLower_lowerByte_ascii :
    ∀ n, n < 128 → (Char.ofNat (lowerByte n.toUInt8).toNat).toLower = (Char.ofNat n).toLower := by
  decide

theorem lt_of_schemeChar {b : UInt8} (hb : schemeChar b = true) : b.toNat < 128 := by
  simp [schemeChar, isLetter, isDigit, oneOf, code, ← UInt8.toNat_inj] at hb
  omega

theorem lowerByte_toNat (b : UInt8) :
    (lowerByte b).toNat = if 65 ≤ b.toNat ∧ b.toNat ≤ 90 then b.toNat + 32 else b.toNat := by
  unfold lowerByte
  split_ifs with hUpper
  · simp only [UInt8.toNat_add, UInt8.reduceToNat]
    omega
  · rfl

theorem isLetter_lowerByte (b : UInt8) : isLetter (lowerByte b) = isLetter b := by
  rw [Bool.eq_iff_iff]
  simp only [isLetter, lowerByte_toNat, Bool.or_eq_true, Bool.and_eq_true, decide_eq_true_eq]
  split_ifs <;> omega

/-- Lowering an octet keeps whether it is a scheme character: an upper-case letter goes to a
lower-case one. -/
theorem schemeChar_lowerByte (b : UInt8) : schemeChar (lowerByte b) = schemeChar b := by
  by_cases hUpper : 65 ≤ b.toNat ∧ b.toNat ≤ 90
  · have hLetter : isLetter b = true := by simp [isLetter]; omega
    have hLower : isLetter (lowerByte b) = true := by rw [isLetter_lowerByte, hLetter]
    simp [schemeChar, hLetter, hLower]
  · simp [lowerByte, hUpper]

theorem isScheme_all (hS : isScheme S = true) : S.all schemeChar = true := by
  rcases S with _ | ⟨b, S⟩
  · simp [isScheme] at hS
  · simp only [isScheme, Bool.and_eq_true] at hS
    simp [hS.2, schemeChar, hS.1]

/-- The text of a scheme's name is the scheme in lower case. -/
theorem ofString_schemeName (hS : S.all schemeChar = true) :
    Bytes.ofString (schemeName S) = S.map lowerByte := by
  simp only [Bytes.ofString, Utf8.encode, Utf8.encodeChars, toList_schemeName]
  induction S with
  | nil => rfl
  | cons b S ih =>
    simp only [all_cons, Bool.and_eq_true] at hS
    have hAscii := lt_of_schemeChar hS.1
    have hByte := encodeChar_toLower_ascii b.toNat hAscii
    simp only [Nat.toUInt8, UInt8.ofNat_toNat] at hByte
    simp [hByte, ih hS.2]

theorem schemeName_map_lowerByte (hS : S.all schemeChar = true) :
    schemeName (S.map lowerByte) = schemeName S := by
  apply String.toList_inj.1
  rw [toList_schemeName, toList_schemeName, map_map]
  apply map_congr_left
  intro b hb
  have hAscii := lt_of_schemeChar ((all_eq_true.1 hS) b hb)
  have hLower := toLower_lowerByte_ascii b.toNat hAscii
  simp only [Nat.toUInt8, UInt8.ofNat_toNat] at hLower
  exact hLower

theorem isScheme_map_lowerByte (hS : isScheme S = true) : isScheme (S.map lowerByte) = true := by
  rcases S with _ | ⟨b, S⟩
  · simp [isScheme] at hS
  · simp only [isScheme, Bool.and_eq_true, all_eq_true] at hS
    simp only [map_cons, isScheme, isLetter_lowerByte, hS.1, Bool.true_and, all_map, all_eq_true,
      Function.comp_apply]
    intro c hc
    rw [schemeChar_lowerByte]
    exact hS.2 c hc

theorem schemeName_ne_empty (hS : S ≠ []) : schemeName S ≠ "" := by
  intro hEmpty
  have hChars := congrArg String.toList hEmpty
  simp [toList_schemeName] at hChars
  exact hS hChars

end Schemes

def splitScheme (u : Bytes) : Except String (String × Bytes) := do
  match ← schemeEnd u 0 with
  | some n => pure (schemeName (u.take n), u.drop (n + 1))
  | none => pure ("", u)

def readRest (scheme : String) (rest : Bytes) : Except String Url := do
  let (rest, rawQuery, forceQuery) := splitQuery rest
  let base : Url := { scheme, rawQuery, forceQuery }
  if rest.head? ≠ some 47 then
    if scheme ≠ "" then return { base with rootless := rest }
    if (cut 47 rest).1.contains 58 then
      throw "first path segment in URL cannot contain colon"
  let (base, rest) ← if (scheme ≠ "" || !(Bytes.ofString "///").isPrefixOf rest) &&
      (Bytes.ofString "//").isPrefixOf rest then do
      let (auth, path) := splitAuthority (rest.drop 2)
      let (user, host) ← parseAuthority auth
      pure ({ base with user, host }, path)
    else pure (base, rest)
  let path ← unescape .path rest
  pure { base with path }

theorem parseMain_eq (u : Bytes) : parseMain u =
    if u.any (fun b => b.toNat < 0x20 || b.toNat == 0x7F) then .error "net/url: invalid control character in URL"
    else if u = [42] then .ok { path := [42] }
    else (splitScheme u).bind fun (scheme, rest) => readRest scheme rest := by
  rw [parseMain]
  by_cases hCtl : (u.any fun b => b.toNat < 0x20 || b.toNat == 0x7F) = true
  · simp only [hCtl, if_true]
    rfl
  · simp only [hCtl, if_false, Bool.false_eq_true]
    by_cases h42 : u = [42]
    · simp only [h42, if_true]
      rfl
    · simp only [h42, if_false]
      unfold splitScheme
      cases schemeEnd u 0 with
      | error e => rfl
      | ok r =>
        cases r with
        | none => rfl
        | some n => rfl

section Cuts

variable {sep c : UInt8} {s A t a : Bytes}

theorem cut_of_not_mem (h : sep ∉ s) : cut sep s = (s, none) := by
  simp [cut, idxOf?_eq_none_iff.2 h]

theorem cut_cons_of_ne (h : c ≠ sep) : cut sep (c :: s) = (c :: (cut sep s).1, (cut sep s).2) := by
  unfold cut
  rw [idxOf?_cons]
  cases s.idxOf? sep <;> simp [h]

theorem cut_append_of_not_mem (h : sep ∉ A) :
    cut sep (A ++ s) = (A ++ (cut sep s).1, (cut sep s).2) := by
  induction A with
  | nil => rfl
  | cons b A ih =>
    have hb : b ≠ sep := fun hb => h (hb ▸ mem_cons_self)
    rw [cons_append, cut_cons_of_ne hb, ih (fun hm => h (mem_cons_of_mem _ hm))]
    rfl

theorem cut_fst_prefix : (cut sep s).1 <+: s := by
  unfold cut
  cases s.idxOf? sep
  · exact prefix_refl s
  · exact take_prefix _ _

theorem not_mem_of_cut_fst_eq (h : (cut sep s).1 = s) : sep ∉ s := by
  intro hm
  unfold cut at h
  cases hIdx : s.idxOf? sep with
  | none => exact idxOf?_eq_none_iff.1 hIdx hm
  | some i =>
    rw [hIdx] at h
    obtain ⟨hLt, -⟩ := idxOf?_eq_some_iff.1 hIdx
    have := congrArg length h
    simp at this
    omega

theorem not_mem_cut_fst : sep ∉ (cut sep s).1 := by
  unfold cut
  cases hIdx : s.idxOf? sep with
  | none => exact idxOf?_eq_none_iff.1 hIdx
  | some i =>
    obtain ⟨hLt, -, hBefore⟩ := idxOf?_eq_some_iff.1 hIdx
    intro hm
    obtain ⟨j, hj, hAt⟩ := getElem_of_mem hm
    rw [length_take] at hj
    rw [getElem_take] at hAt
    exact hBefore j (by omega) hAt

theorem mem_of_mem_cut_snd (hc : c ∈ ((cut sep s).2.getD [])) : c ∈ s := by
  unfold cut at hc
  cases hIdx : s.idxOf? sep
  · simp [hIdx] at hc
  · simp only [hIdx, Option.getD_some] at hc
    exact mem_of_mem_drop hc

theorem splitQuery_of_not_mem (h : 63 ∉ t) : splitQuery t = (t, [], false) := by
  have hLast : t.getLast? ≠ some 63 := fun hLast => h (mem_of_getLast? hLast)
  simp [splitQuery, hLast, cut_of_not_mem h]

/-- A query after a text without "?" is split off whole: the "?" in front of it comes first,
whatever "?" the query ends with. -/
theorem splitQuery_append (hA : 63 ∉ A) {q : Bytes} (hq : q ≠ []) :
    splitQuery (A ++ 63 :: q) = (A, q, false) := by
  have hForced : ¬((A ++ 63 :: q).getLast? = some 63 && (A ++ 63 :: q).count 63 = 1) = true := by
    obtain ⟨q', d, rfl⟩ := (eq_nil_or_concat q).resolve_left hq
    have hA0 : A.count 63 = 0 := count_eq_zero.2 hA
    by_cases hd : d = 63
    · subst hd
      simp [count_append, hA0]
    · simp [getLast?_cons, hd]
  rw [splitQuery, if_neg hForced, cut_append_of_not_mem hA]
  simp [cut, idxOf?_cons]

theorem splitQuery_slashes (t : Bytes) :
    splitQuery (47 :: 47 :: t) = (47 :: 47 :: (splitQuery t).1, (splitQuery t).2) := by
  have hLast : (47 :: 47 :: t).getLast? = some 63 ↔ t.getLast? = some 63 := by
    cases h : t.getLast? <;> simp [getLast?_cons, h]
  by_cases hForced : t.getLast? = some 63 ∧ t.count 63 = 1
  · have hNe : t ≠ [] := by rintro rfl; simp at hForced
    simp only [splitQuery, hLast, hForced, count_cons]
    simp [dropLast_cons_of_ne_nil hNe]
  · simp only [splitQuery, hLast, count_cons]
    simp [hForced, cut_cons_of_ne]

theorem splitQuery_fst_prefix : (splitQuery t).1 <+: t := by
  unfold splitQuery
  split
  · exact dropLast_prefix t
  · exact cut_fst_prefix

theorem not_mem_of_splitQuery_fst_eq (h : (splitQuery t).1 = t) : 63 ∉ t := by
  unfold splitQuery at h
  split at h
  · next hForced =>
    have hNe : t ≠ [] := by rintro rfl; simp at hForced
    have hLength := congrArg length h
    rw [length_dropLast] at hLength
    have := length_pos_of_ne_nil hNe
    omega
  · exact not_mem_of_cut_fst_eq h

theorem mem_of_mem_splitQuery_query (hc : c ∈ (splitQuery t).2.1) : c ∈ t := by
  unfold splitQuery at hc
  split at hc
  · simp at hc
  · exact mem_of_mem_cut_snd hc

theorem splitAuthority_of_head (h : a.head? = some 47) : splitAuthority a = ([], a) := by
  rcases a with _ | ⟨b, a⟩
  · simp at h
  · simp at h
    simp [splitAuthority, idxOf?_cons, h]

theorem splitAuthority_of_not_mem (h : 47 ∉ a) : splitAuthority a = (a, []) := by
  simp [splitAuthority, idxOf?_eq_none_iff.2 h]

theorem splitAuthority_snd_suffix : (splitAuthority a).2 <:+ a := by
  unfold splitAuthority
  split
  · exact drop_suffix _ _
  · exact nil_suffix

/-- The path after an authority is all of the text only when the authority is empty. -/
theorem head_of_splitAuthority_snd_eq (h : (splitAuthority a).2 = a) :
    a = [] ∨ a.head? = some 47 := by
  unfold splitAuthority at h
  split at h
  · next i hIdx =>
    obtain ⟨hLt, hAt, -⟩ := idxOf?_eq_some_iff.1 hIdx
    have hLength := congrArg length h
    rw [length_drop] at hLength
    obtain rfl : i = 0 := by omega
    rcases a with _ | ⟨b, a⟩
    · simp at hLt
    · exact .inr (by simpa using hAt)
  · exact .inl h.symm

end Cuts

section Reading

variable {scheme : String} {t : Bytes} {w : Url}

theorem readRest_slashes (hScheme : scheme ≠ "") (t : Bytes) :
    readRest scheme (47 :: 47 :: t) =
      (parseAuthority (splitAuthority (splitQuery t).1).1).bind fun (user, host) =>
        (unescape .path (splitAuthority (splitQuery t).1).2).map fun path =>
          { scheme, rawQuery := (splitQuery t).2.1, forceQuery := (splitQuery t).2.2, user, host,
            path } := by
  have hSlashes : Bytes.ofString "//" <+: 47 :: 47 :: (splitQuery t).1 := ⟨(splitQuery t).1, rfl⟩
  unfold readRest
  rw [splitQuery_slashes]
  simp [hScheme, hSlashes]
  rfl

/-- The host of a read authority is one that `parseHost` reads off a suffix of it: every way
through the user information ends with that host. -/
theorem parseAuthority_eq_ok {a : Bytes} {user : Option Bytes} {host : Bytes}
    (h : parseAuthority a = .ok (user, host)) : ∃ s, s <:+ a ∧ parseHost s = .ok host := by
  unfold parseAuthority at h
  split at h
  · cases hHost : parseHost a with
    | error e => simp [hHost, bind, Except.bind] at h
    | ok x =>
      simp only [hHost, bind, Except.bind, pure, Except.pure, Except.ok.injEq, Prod.mk.injEq] at h
      exact ⟨a, suffix_refl a, h.2 ▸ hHost⟩
  · next i hAt =>
    cases hHost : parseHost (a.drop (i + 1)) with
    | error e => simp [hHost, bind, Except.bind] at h
    | ok x =>
      refine ⟨a.drop (i + 1), drop_suffix _ _, ?_⟩
      simp only [hHost, bind, Except.bind] at h
      split_ifs at h
      split at h
      · split at h
        · cases h
        · split at h
          · cases h
          · simp only [pure, Except.pure, Except.ok.injEq, Prod.mk.injEq] at h
            exact h.2 ▸ hHost
      · split at h
        · cases h
        · simp only [pure, Except.pure, Except.ok.injEq, Prod.mk.injEq] at h
          exact h.2 ▸ hHost

theorem parseAuthority_of_not_mem {a : Bytes} (h : 64 ∉ a) :
    parseAuthority a = (parseHost a).map fun host => (none, host) := by
  unfold parseAuthority
  rw [lastIndex_eq_none_iff.2 h]
  cases parseHost a <;> rfl

theorem parse_of_not_mem {raw : Bytes} {v : Url} (h : 35 ∉ raw) :
    parse raw = .ok v ↔ parseMain raw = .ok v := by
  unfold parse
  rw [cut_of_not_mem h]
  cases hMain : parseMain raw <;> simp [hMain]

/-- A read URL is what its text before "#" reads to, with the fragment set. -/
theorem parse_eq_ok {raw : Bytes} {v : Url} (h : parse raw = .ok v) :
    ∃ w, parseMain (cut 35 raw).1 = .ok w ∧ v.scheme = w.scheme ∧ v.host = w.host ∧
      v.path = w.path ∧ v.rawQuery = w.rawQuery := by
  unfold parse at h
  cases hMain : parseMain (cut 35 raw).1 with
  | error e => simp [hMain] at h
  | ok w =>
    refine ⟨w, rfl, ?_⟩
    simp only [hMain] at h
    split at h
    · cases h
      exact ⟨rfl, rfl, rfl, rfl⟩
    · cases h
      exact ⟨rfl, rfl, rfl, rfl⟩
    · split at h
      · cases h
        exact ⟨rfl, rfl, rfl, rfl⟩
      · cases h

theorem splitScheme_eq_ok {u rest : Bytes} (h : splitScheme u = .ok (scheme, rest)) :
    (scheme = "" ∧ rest = u) ∨
      ∃ n, schemeEnd u 0 = .ok (some n) ∧ scheme = schemeName (u.take n) ∧ rest = u.drop (n + 1) := by
  unfold splitScheme at h
  cases hEnd : schemeEnd u 0 with
  | error e => simp [hEnd, bind, Except.bind] at h
  | ok r =>
    cases r with
    | none =>
      simp only [hEnd, bind, Except.bind, pure, Except.pure, Except.ok.injEq, Prod.mk.injEq] at h
      exact .inl ⟨h.1.symm, h.2.symm⟩
    | some n =>
      simp only [hEnd, bind, Except.bind, pure, Except.pure, Except.ok.injEq, Prod.mk.injEq] at h
      exact .inr ⟨n, rfl, h.1.symm, h.2.symm⟩

/-- Whether or not it has an authority, a URL read past its scheme and query keeps them, and
its host is one that `parseHost` reads. -/
theorem readTail_eq_ok {r q : Bytes} {f : Bool} (auth : Bool)
    (h : (if auth then
          (parseAuthority (splitAuthority (r.drop 2)).1).bind fun (user, host) =>
            (unescape .path (splitAuthority (r.drop 2)).2).map fun path =>
              { scheme, user, host, path, rawQuery := q, forceQuery := f }
        else (unescape .path r).map fun path => { scheme, path, rawQuery := q, forceQuery := f }) =
      .ok w) :
    w.scheme = scheme ∧ w.rawQuery = q ∧ ∃ s, parseHost s = .ok w.host := by
  cases auth
  · cases hU : unescape .path r with
    | error e => simp [hU, Except.map] at h
    | ok path =>
      simp only [hU, Except.map, Except.ok.injEq, if_false, Bool.false_eq_true] at h
      subst h
      exact ⟨rfl, rfl, [], rfl⟩
  · cases hA : parseAuthority (splitAuthority (r.drop 2)).1 with
    | error e => simp [hA, Except.bind] at h
    | ok uh =>
      cases hU : unescape .path (splitAuthority (r.drop 2)).2 with
      | error e => simp [hA, hU, Except.bind, Except.map] at h
      | ok path =>
        simp only [hA, hU, Except.bind, Except.map, Except.ok.injEq, if_true] at h
        subst h
        obtain ⟨s, -, hHost⟩ := parseAuthority_eq_ok hA
        exact ⟨rfl, rfl, s, hHost⟩

/-- A URL read past its scheme keeps the scheme and the query split off the rest, and its host
is one that `parseHost` reads: a rootless URL returns early, and every other way through
reads the same tail. -/
theorem readRest_eq_ok {rest : Bytes} (h : readRest scheme rest = .ok w) :
    w.scheme = scheme ∧ w.rawQuery = (splitQuery rest).2.1 ∧ ∃ s, parseHost s = .ok w.host := by
  unfold readRest at h
  rcases hQ : splitQuery rest with ⟨r, q, f⟩
  simp only [hQ] at h ⊢
  split at h
  · split at h
    · cases h
      exact ⟨rfl, rfl, [], rfl⟩
    · split at h
      · simp [throw, throwThe, MonadExceptOf.throw, bind, Except.bind] at h
      · exact readTail_eq_ok _ h
  · exact readTail_eq_ok _ h

/-- Whether every octet of a text stands for itself in a URL's path: no "#" or "?", which end
the path, no "%", which starts an escape, and no control octet, which a URL may not hold. -/
def isLiteral (s : Bytes) : Bool :=
  s.all fun b => !(b == 35 || b == 63 || b == 37 || b.toNat < 0x20 || b.toNat == 0x7F)

theorem isLiteral_iff {s : Bytes} :
    isLiteral s = true ↔
      ∀ c ∈ s, c ≠ 35 ∧ c ≠ 63 ∧ c ≠ 37 ∧ 0x20 ≤ c.toNat ∧ c.toNat ≠ 0x7F := by
  simp only [isLiteral, all_eq_true, Bool.not_eq_true', Bool.or_eq_false_iff, beq_eq_false_iff_ne,
    decide_eq_false_iff_not, not_lt, and_assoc]

/-- Scheme characters run from "+" to "z". -/
theorem schemeChar_range {b : UInt8} (hb : schemeChar b = true) :
    0x2B ≤ b.toNat ∧ b.toNat ≤ 0x7A := by
  simp [schemeChar, isLetter, isDigit, oneOf, code, ← UInt8.toNat_inj] at hb
  omega

/-- A text that starts with a scheme and "://" is read on after its scheme, once it holds no
control octet. -/
theorem parseMain_scheme_slashes {S : Bytes} (hS : isScheme S = true)
    (hClean : ∀ c ∈ t, 0x20 ≤ c.toNat ∧ c.toNat ≠ 0x7F) :
    parseMain (S ++ 58 :: 47 :: 47 :: t) = readRest (schemeName S) (47 :: 47 :: t) := by
  have hNoControl : ((S ++ 58 :: 47 :: 47 :: t).any
      fun b => b.toNat < 0x20 || b.toNat == 0x7F) = false := by
    simp only [any_eq_false, mem_append, mem_cons]
    intro c hc
    have hPrintable : 0x20 ≤ c.toNat ∧ c.toNat ≠ 0x7F := by
      rcases hc with hc | rfl | rfl | rfl | hc
      · have := schemeChar_range (all_eq_true.1 (isScheme_all hS) c hc)
        omega
      · decide
      · decide
      · decide
      · exact hClean c hc
    simp only [Bool.or_eq_true, decide_eq_true_eq, beq_iff_eq, not_or]
    omega
  have hNotStar : S ++ 58 :: 47 :: 47 :: t ≠ [42] := by
    intro hStar
    have := congrArg length hStar
    simp at this
    omega
  have hScheme : splitScheme (S ++ 58 :: 47 :: 47 :: t) = .ok (schemeName S, 47 :: 47 :: t) := by
    unfold splitScheme
    rw [schemeEnd_scheme hS]
    simp [pure, Except.pure, bind, Except.bind]
  rw [parseMain_eq, if_neg (by simp only [hNoControl]; decide), if_neg hNotStar, hScheme]
  rfl

theorem ofString_file : Bytes.ofString "file://" = [102, 105, 108, 101, 58, 47, 47] := by
  decide

theorem schemeName_file : schemeName [102, 105, 108, 101] = "file" := by
  apply String.toList_inj.1
  simp [toList_schemeName]

/-- A file URL whose directory is rooted and literal reads back with that directory as its path. -/
theorem parse_file {dir : Bytes} (hLit : isLiteral dir = true)
    (hRoot : dir = [] ∨ dir.head? = some 47) :
    parse (Bytes.ofString "file://" ++ dir) = .ok { scheme := "file", path := dir } := by
  rw [isLiteral_iff] at hLit
  have hUrl : Bytes.ofString "file://" ++ dir = [102, 105, 108, 101] ++ 58 :: 47 :: 47 :: dir := by
    rw [ofString_file]
    rfl
  have h35 : (35 : UInt8) ∉ [102, 105, 108, 101] ++ 58 :: 47 :: 47 :: dir := by
    intro hm
    simp only [mem_append, mem_cons] at hm
    rcases hm with hm | hm | hm | hm | hm
    · revert hm
      decide
    · cases hm
    · cases hm
    · cases hm
    · exact (hLit 35 hm).1 rfl
  rw [hUrl, parse_of_not_mem h35, parseMain_scheme_slashes (by decide) (fun c hc => (hLit c hc).2.2.2),
    readRest_slashes (by rw [schemeName_file]; decide), schemeName_file,
    splitQuery_of_not_mem (fun hm => (hLit 63 hm).2.1 rfl)]
  have hAuthority : splitAuthority dir = ([], dir) := by
    rcases hRoot with rfl | hHead
    · rfl
    · exact splitAuthority_of_head hHead
  rw [hAuthority, unescape_path_of_not_mem (fun hm => (hLit 37 hm).2.2.1 rfl)]
  rfl

/-- A text that reads as a URL holds no control octet. -/
theorem printable_of_parseMain {u : Bytes} (h : parseMain u = .ok w) :
    ∀ c ∈ u, 0x20 ≤ c.toNat ∧ c.toNat ≠ 0x7F := by
  rw [parseMain_eq] at h
  split_ifs at h with hControl
  all_goals
    intro c hc
    have hOctet := any_eq_false.1 (Bool.eq_false_iff.2 hControl) c hc
    simp only [Bool.or_eq_true, decide_eq_true_eq, beq_iff_eq, not_or] at hOctet
    omega

/-- A file URL that reads back with its directory as its path has a rooted, literal directory:
anything cut off at "#" or "?", an escape, or an authority would make the path shorter. -/
theorem literal_of_parse_file {dir : Bytes} {v : Url}
    (h : parse (Bytes.ofString "file://" ++ dir) = .ok v) (hPath : v.path = dir) :
    isLiteral dir = true ∧ (dir = [] ∨ dir.head? = some 47) := by
  obtain ⟨w, hMain, -, -, hwPath, -⟩ := parse_eq_ok h
  rw [ofString_file, cut_append_of_not_mem (by decide)] at hMain
  set t := (cut 35 dir).1 with ht
  have hUrl : [102, 105, 108, 101, 58, 47, 47] ++ t = [102, 105, 108, 101] ++ 58 :: 47 :: 47 :: t :=
    rfl
  rw [hUrl] at hMain
  have hClean : ∀ c ∈ t, 0x20 ≤ c.toNat ∧ c.toNat ≠ 0x7F :=
    fun c hc => printable_of_parseMain hMain c (by simp [hc])
  rw [parseMain_scheme_slashes (by decide) hClean,
    readRest_slashes (by rw [schemeName_file]; decide), schemeName_file] at hMain
  set A := (splitQuery t).1 with hA
  set P := (splitAuthority A).2 with hP
  obtain ⟨hCheck, hDecode⟩ : check .path P = .ok () ∧ decode P = w.path := by
    cases hAuth : parseAuthority (splitAuthority A).1 with
    | error e => simp [hAuth, Except.bind] at hMain
    | ok uh =>
      cases hU : unescape .path P with
      | error e => simp [hAuth, hU, Except.bind, Except.map] at hMain
      | ok path =>
        simp only [hAuth, hU, Except.bind, Except.map, Except.ok.injEq] at hMain
        rw [← hMain]
        exact unescape_eq_ok.1 hU
  have hPA : P <:+ A := splitAuthority_snd_suffix
  have hAt : A <+: t := splitQuery_fst_prefix
  have htd : t <+: dir := cut_fst_prefix
  have hLength := length_decode_add hCheck
  rw [hDecode, ← hwPath, hPath] at hLength
  have hPA' := hPA.length_le
  have hAt' := hAt.length_le
  have htd' := htd.length_le
  have hNoPercent : P.count 37 = 0 := by omega
  have hEqA : P = A := hPA.eq_of_length (by omega)
  have hEqt : A = t := hAt.eq_of_length (by omega)
  have hEqd : t = dir := htd.eq_of_length (by omega)
  refine ⟨isLiteral_iff.2 fun c hc => ⟨?_, ?_, ?_, hClean c (hEqd ▸ hc)⟩, ?_⟩
  · rintro rfl
    exact not_mem_of_cut_fst_eq hEqd hc
  · rintro rfl
    exact not_mem_of_splitQuery_fst_eq hEqt (hEqd ▸ hc)
  · rintro rfl
    rw [← hEqd, ← hEqt, ← hEqA] at hc
    exact absurd hNoPercent (count_pos_iff.2 hc).ne'
  · rw [← hEqd, ← hEqt]
    exact head_of_splitAuthority_snd_eq hEqA

/-- A bucket URL, a scheme, a host and a query, reads back to the same scheme and query, with
the host read again: after "//" comes the host, then the query after its "?". -/
theorem parse_bucket {S host q : Bytes} {v : Url} (hS : isScheme S = true)
    (hHost : ∀ c ∈ host, HostSafe c)
    (hQuery : ∀ c ∈ q, c ≠ 35 ∧ 0x20 ≤ c.toNat ∧ c.toNat ≠ 0x7F) :
    parse (S ++ 58 :: 47 :: 47 :: (host ++ (if q.isEmpty then [] else [63] ++ q))) = .ok v ↔
      ∃ h, parseHost host = .ok h ∧ v = { scheme := schemeName S, host := h, rawQuery := q } := by
  have hNot : ∀ c, c = 35 ∨ c = 47 ∨ c = 63 ∨ c = 64 → c ∉ host := by
    rintro c hc hMem
    have := hHost c hMem
    unfold HostSafe at this
    rcases hc with rfl | rfl | rfl | rfl <;> simp at this
  set t := host ++ (if q.isEmpty then [] else [63] ++ q) with ht
  have hSplit : splitQuery t = (host, q, false) := by
    by_cases hq : q = []
    · subst hq
      simp only [ht, isEmpty_nil, if_true, append_nil]
      exact splitQuery_of_not_mem (hNot 63 (by simp))
    · simp only [ht, List.isEmpty_iff, hq, if_false, singleton_append]
      exact splitQuery_append (hNot 63 (by simp)) hq
  have hQuery' : ∀ c ∈ (if q.isEmpty then [] else [63] ++ q),
      c ≠ 35 ∧ 0x20 ≤ c.toNat ∧ c.toNat ≠ 0x7F := by
    intro c hc
    split at hc
    · simp at hc
    · rcases mem_append.1 hc with hc | hc
      · simp only [mem_singleton] at hc
        subst hc
        decide
      · exact hQuery c hc
  have hClean : ∀ c ∈ t, 0x20 ≤ c.toNat ∧ c.toNat ≠ 0x7F := by
    intro c hc
    rcases mem_append.1 hc with hc | hc
    · have := hHost c hc
      unfold HostSafe at this
      omega
    · exact (hQuery' c hc).2
  have h35 : (35 : UInt8) ∉ S ++ 58 :: 47 :: 47 :: t := by
    intro hm
    simp only [mem_append, mem_cons] at hm
    rcases hm with hm | hm | hm | hm | hm
    · have := schemeChar_range (all_eq_true.1 (isScheme_all hS) 35 hm)
      simp at this
    · cases hm
    · cases hm
    · cases hm
    · rcases mem_append.1 hm with hm | hm
      · exact hNot 35 (by simp) hm
      · exact (hQuery' 35 hm).1 rfl
  rw [parse_of_not_mem h35, parseMain_scheme_slashes hS hClean,
    readRest_slashes (schemeName_ne_empty (by rintro rfl; simp [isScheme] at hS)), hSplit,
    splitAuthority_of_not_mem (hNot 47 (by simp)), parseAuthority_of_not_mem (hNot 64 (by simp))]
  cases parseHost host <;> simp [Except.map, Except.bind, unescape_path_of_not_mem, eq_comm]

theorem isScheme_take {u : Bytes} {n : Nat} (h : schemeEnd u 0 = .ok (some n)) :
    isScheme (u.take n) = true := by
  obtain ⟨k, rfl, -, hAll, hPos, hFirst⟩ := schemeEnd_eq_some h
  obtain ⟨b, rest, rfl, hb⟩ := hFirst rfl
  obtain ⟨k, rfl⟩ : ∃ k', k = k' + 1 := ⟨k - 1, by omega⟩
  simp only [Nat.zero_add, take_succ_cons, all_cons, Bool.and_eq_true] at hAll ⊢
  simp [isScheme, hb, hAll.2]

/-- Reading a URL is either the lone "*" or reading on after a scheme, or after none. -/
theorem parseMain_eq_ok {u : Bytes} (h : parseMain u = .ok w) :
    (u = [42] ∧ w = { path := [42] }) ∨
      ∃ scheme rest, splitScheme u = .ok (scheme, rest) ∧ readRest scheme rest = .ok w := by
  rw [parseMain_eq] at h
  split_ifs at h with hControl hStar
  · cases h
    exact .inl ⟨hStar, rfl⟩
  · cases hSplit : splitScheme u with
    | error e => simp [hSplit, Except.bind] at h
    | ok sr =>
      obtain ⟨scheme, rest⟩ := sr
      simp only [hSplit, Except.bind] at h
      exact .inr ⟨scheme, rest, rfl, h⟩

/-- What a read URL's scheme, host and query can be: a scheme read off its text, a host read
from some text, and a query of octets of its text before "#". -/
theorem parts_of_parse {raw : Bytes} {u : Url} (h : parse raw = .ok u) :
    (u.scheme ≠ "" → ∃ S, isScheme S = true ∧ u.scheme = schemeName S) ∧
      (∃ s, parseHost s = .ok u.host) ∧
      ∀ c ∈ u.rawQuery, c ≠ 35 ∧ 0x20 ≤ c.toNat ∧ c.toNat ≠ 0x7F := by
  obtain ⟨w, hMain, hScheme, hHost, -, hQuery⟩ := parse_eq_ok h
  have hClean := printable_of_parseMain hMain
  rw [hScheme, hHost, hQuery]
  rcases parseMain_eq_ok hMain with ⟨-, rfl⟩ | ⟨scheme, rest, hSplit, hRead⟩
  · exact ⟨fun hNe => absurd rfl hNe, ⟨[], rfl⟩, fun c hc => by simp at hc⟩
  · obtain ⟨hwScheme, hwQuery, hwHost⟩ := readRest_eq_ok hRead
    refine ⟨fun hNe => ?_, hwHost, fun c hc => ?_⟩
    · rcases splitScheme_eq_ok hSplit with ⟨rfl, -⟩ | ⟨n, hEnd, rfl, -⟩
      · exact absurd hwScheme hNe
      · exact ⟨_, isScheme_take hEnd, hwScheme⟩
    · rw [hwQuery] at hc
      have hRest := mem_of_mem_splitQuery_query hc
      have hText : c ∈ (cut 35 raw).1 := by
        rcases splitScheme_eq_ok hSplit with ⟨-, rfl⟩ | ⟨n, -, -, rfl⟩
        · exact hRest
        · exact mem_of_mem_drop hRest
      exact ⟨fun h35 => not_mem_cut_fst (h35 ▸ hText), hClean c hText⟩

end Reading

end Url
end LineBatch
