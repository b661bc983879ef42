import LineBatch.Proofs.Location.Reading

/-
  Reading a bucket URL back.

  A location names an object: a local path, a file URL, or a URL of
  another scheme. Parsing it gives the URL of the object's bucket and
  the object's key, and the bucket URL is later read again as a URL.
  For a local path or a file URL the bucket URL is "file://" and the
  directory of the path, written as it is; it reads back as that
  directory exactly when the directory is rooted and holds no '#',
  '?', '%' or control octet. For any other URL the bucket URL is its
  scheme, host and query; it reads back as them exactly when the URL
  has a scheme and its decoded host holds no '%'. A directory such as
  "/tmp/a#b/" reads back as "/tmp/a", with "b/" as the fragment.

  Main declarations:
    * `LocalPath.split_spec`
    * `Location.ReadsAsDirectory`, `Location.readsAsDirectory_iff`
    * `Location.ReadsAsBucket`, `Location.readsAsBucket_iff`
    * `Location.bucket_url_reads_back_iff`
    * `Location.hash_in_directory_cuts_bucket`
-/

namespace LineBatch
open List

namespace LocalPath

/-- A path is its directory, up to and with its last slash, then a name without a slash. -/
theorem split_spec (p : Bytes) :
    p = (split p).1 ++ (split p).2 ∧ 47 ∉ (split p).2 ∧
      ((split p).1 = [] ∨ (split p).1.getLast? = some 47) := by
  unfold split
  cases hLast : Url.lastIndex 47 p with
  | none => exact ⟨rfl, Url.lastIndex_eq_none_iff.1 hLast, .inl rfl⟩
  | some i =>
    have hAt := Url.getElem?_lastIndex hLast
    obtain ⟨hLt, hGet⟩ := List.getElem?_eq_some_iff.1 hAt
    refine ⟨(take_append_drop _ _).symm, Url.not_mem_drop_lastIndex hLast, .inr ?_⟩
    rw [getLast?_eq_getElem?, length_take, getElem?_take]
    simp [Nat.min_eq_left (show i + 1 ≤ p.length by omega), hAt]

end LocalPath

namespace Url

/-- A text that starts with a colon names no scheme and does not read as a URL. -/
theorem parse_colon (r : Bytes) (v : Url) : parse (58 :: r) ≠ .ok v := by
  intro h
  obtain ⟨w, hMain, -⟩ := parse_eq_ok h
  rw [cut_cons_of_ne (by decide)] at hMain
  rcases parseMain_eq_ok hMain with ⟨hStar, -⟩ | ⟨scheme, rest, hSplit, -⟩
  · simp at hStar
  · unfold splitScheme at hSplit
    simp [schemeEnd, isLetter, isDigit, oneOf, code, bind, Except.bind] at hSplit

end Url

namespace Location

/-- A bucket URL reads back as the file bucket of a directory: scheme "file", no query and
no fragment, and the directory as its path. -/
def ReadsAsDirectory (url dir : Bytes) : Prop :=
  ∃ v, Url.parse url = .ok v ∧ v.scheme = "file" ∧ v.rawQuery = [] ∧ v.fragment = [] ∧
    v.path = dir

/-- A bucket URL reads back with the scheme, host and query of a location's URL. -/
def ReadsAsBucket (url : Bytes) (u : Url) : Prop :=
  ∃ v, Url.parse url = .ok v ∧ v.scheme = u.scheme ∧ v.host = u.host ∧
    v.rawQuery = u.rawQuery

/-- The file bucket of a directory reads back exactly when the directory is rooted and literal. -/
theorem readsAsDirectory_iff (dir : Bytes) :
    ReadsAsDirectory (Bytes.ofString "file://" ++ dir) dir ↔
      (dir = [] ∨ dir.head? = some 47) ∧ Url.isLiteral dir = true := by
  constructor
  · rintro ⟨v, hParse, -, -, -, hPath⟩
    exact (Url.literal_of_parse_file hParse hPath).symm
  · rintro ⟨hRoot, hLit⟩
    exact ⟨_, Url.parse_file hLit hRoot, rfl, rfl, rfl, rfl⟩

/-- The bucket of a URL, its scheme, host and query, reads back exactly when it has a scheme
and its host holds no percent sign. Without a scheme the bucket starts with "://", which
reads as nothing; the scheme is written back in lower case, which reads as the same scheme,
and the host must read as itself. -/
theorem readsAsBucket_iff {raw : Bytes} {u : Url} (h : Url.parse raw = .ok u) :
    ReadsAsBucket (Bytes.ofString (u.scheme ++ "://") ++ u.host ++
        (if u.rawQuery.isEmpty then [] else [63] ++ u.rawQuery)) u ↔
      u.scheme ≠ "" ∧ 37 ∉ u.host := by
  obtain ⟨hScheme, ⟨s, hHost⟩, hQuery⟩ := Url.parts_of_parse h
  by_cases hEmpty : u.scheme = ""
  · simp only [hEmpty, ne_eq, not_true_eq_false, false_and, iff_false]
    rintro ⟨v, hParse, -⟩
    exact Url.parse_colon _ v hParse
  · obtain ⟨S, hS, hName⟩ := hScheme hEmpty
    have hBytes : Bytes.ofString (u.scheme ++ "://") = S.map Url.lowerByte ++ [58, 47, 47] := by
      have hAppend : Bytes.ofString (u.scheme ++ "://") =
          Bytes.ofString u.scheme ++ Bytes.ofString "://" := by
        simp [Bytes.ofString, Utf8.encode, Utf8.encodeChars, String.toList_append]
      rw [hAppend, hName, Url.ofString_schemeName (Url.isScheme_all hS)]
      rfl
    have hUrl : Bytes.ofString (u.scheme ++ "://") ++ u.host ++
        (if u.rawQuery.isEmpty then [] else [63] ++ u.rawQuery) =
        S.map Url.lowerByte ++ 58 :: 47 :: 47 :: (u.host ++
          (if u.rawQuery.isEmpty then [] else [63] ++ u.rawQuery)) := by
      rw [hBytes]
      simp
    have hRead := fun v => Url.parse_bucket (v := v) (Url.isScheme_map_lowerByte hS)
      (fun c hc => Url.hostSafe_of_parseHost hHost hc) hQuery
    rw [Url.schemeName_map_lowerByte (Url.isScheme_all hS), ← hName] at hRead
    have hSelf : ReadsAsBucket (Bytes.ofString (u.scheme ++ "://") ++ u.host ++
        (if u.rawQuery.isEmpty then [] else [63] ++ u.rawQuery)) u ↔
        Url.parseHost u.host = .ok u.host := by
      rw [hUrl]
      constructor
      · rintro ⟨v, hParse, -, hSameHost, -⟩
        obtain ⟨h', hReread, rfl⟩ := (hRead v).1 hParse
        exact hSameHost ▸ hReread
      · intro hReread
        exact ⟨_, (hRead _).2 ⟨u.host, hReread, rfl⟩, rfl, rfl, rfl⟩
    rw [hSelf]
    constructor
    · intro hReread
      have hLength := Url.length_parseHost hReread
      exact ⟨hEmpty, count_eq_zero.1 (by omega)⟩
    · rintro ⟨-, hNoPercent⟩
      exact Url.parseHost_self hHost hNoPercent

/-
  The bucket URL and key of every location parsed: a local path or a
  file URL splits into a directory, its bucket, and a name without a
  slash, its key, and the bucket reads back as the directory exactly
  when the directory is rooted and literal; any other URL keeps its
  decoded path without the leading slash as the key, and its bucket
  reads back with its scheme, host and query exactly when it has a
  scheme and its host holds no percent sign.
-/
theorem bucket_url_reads_back_iff (cwd loc : String) {url key : Bytes}
    (hParse : parse cwd loc = .ok (url, key)) :
    (∃ path dir,
        ((hasScheme (Bytes.ofString loc) = false ∧
            path = LocalPath.absolute cwd (Bytes.ofString loc)) ∨
          ∃ u, Url.parse (Bytes.ofString loc) = .ok u ∧ u.scheme = "file" ∧ path = u.path) ∧
        path = dir ++ key ∧ 47 ∉ key ∧ (dir = [] ∨ dir.getLast? = some 47) ∧
        url = Bytes.ofString "file://" ++ dir ∧
        (ReadsAsDirectory url dir ↔
          (dir = [] ∨ dir.head? = some 47) ∧ Url.isLiteral dir = true)) ∨
      hasScheme (Bytes.ofString loc) = true ∧
        ∃ u, Url.parse (Bytes.ofString loc) = .ok u ∧ u.scheme ≠ "file" ∧
        key = (if u.path.head? = some 47 then u.path.drop 1 else u.path) ∧
        (ReadsAsBucket url u ↔ u.scheme ≠ "" ∧ 37 ∉ u.host) := by
  unfold parse at hParse
  dsimp only at hParse
  cases hScheme : hasScheme (Bytes.ofString loc)
  · simp only [hScheme, Bool.not_false, if_true, Except.ok.injEq, Prod.mk.injEq] at hParse
    obtain ⟨rfl, rfl⟩ := hParse
    obtain ⟨hPath, hName, hDir⟩ :=
      LocalPath.split_spec (LocalPath.absolute cwd (Bytes.ofString loc))
    exact .inl ⟨_, _, .inl ⟨rfl, rfl⟩, hPath, hName, hDir, rfl, readsAsDirectory_iff _⟩
  · simp only [hScheme, Bool.not_true, Bool.false_eq_true, if_false] at hParse
    cases hUrl : Url.parse (Bytes.ofString loc) with
    | error e => simp [hUrl] at hParse
    | ok u =>
      simp only [hUrl] at hParse
      by_cases hFile : u.scheme = "file"
      · simp only [hFile, if_true] at hParse
        by_cases hNoName : (LocalPath.split u.path).2.isEmpty = true
        · rw [if_pos hNoName] at hParse
          cases hParse
        · rw [if_neg hNoName] at hParse
          simp only [Except.ok.injEq, Prod.mk.injEq] at hParse
          obtain ⟨rfl, rfl⟩ := hParse
          obtain ⟨hPath, hName, hDir⟩ := LocalPath.split_spec u.path
          exact .inl ⟨_, _, .inr ⟨u, rfl, hFile, rfl⟩, hPath, hName, hDir, rfl,
            readsAsDirectory_iff _⟩
      · simp only [hFile, if_false] at hParse
        by_cases hNoKey :
            (if u.path.head? = some 47 then u.path.drop 1 else u.path).isEmpty = true
        · rw [if_pos hNoKey] at hParse
          cases hParse
        · rw [if_neg hNoKey] at hParse
          simp only [Except.ok.injEq, Prod.mk.injEq] at hParse
          obtain ⟨rfl, rfl⟩ := hParse
          exact .inr ⟨rfl, u, rfl, hFile, rfl, readsAsBucket_iff hUrl⟩

/- A file under "/tmp" is read from the bucket of "/tmp/", which reads back as that directory. -/
theorem bucket_url_reads_back_iff_tmp :
    parse "/" "/tmp/in.txt" = .ok (Bytes.ofString "file:///tmp/", Bytes.ofString "in.txt") ∧
      ReadsAsDirectory (Bytes.ofString "file:///tmp/") (Bytes.ofString "/tmp/") := by
  have hParse : parse "/" "/tmp/in.txt" =
      .ok (Bytes.ofString "file:///tmp/", Bytes.ofString "in.txt") := rfl
  refine ⟨hParse, ?_⟩
  rcases bucket_url_reads_back_iff "/" "/tmp/in.txt" hParse with
    ⟨path, dir, -, -, -, -, hUrl, hReads⟩ | ⟨hScheme, -⟩
  · have hSplit : Bytes.ofString "file:///tmp/" =
        Bytes.ofString "file://" ++ Bytes.ofString "/tmp/" := rfl
    have hDir : dir = Bytes.ofString "/tmp/" := append_cancel_left (hUrl.symm.trans hSplit)
    subst hDir
    exact hUrl ▸ hReads.2 ⟨by decide, by decide⟩
  · exact absurd hScheme (by decide)

/-- A directory holding "#" does not read back: its file bucket reads as the directory up to
the "#", and what follows becomes the fragment. -/
theorem hash_in_directory_cuts_bucket :
    parse "/" "/tmp/a#b/in.txt" =
        .ok (Bytes.ofString "file://" ++ Bytes.ofString "/tmp/a#b/", Bytes.ofString "in.txt") ∧
      Url.parse (Bytes.ofString "file://" ++ Bytes.ofString "/tmp/a#b/") =
        .ok { scheme := "file", path := Bytes.ofString "/tmp/a",
              fragment := Bytes.ofString "b/" } ∧
      ¬ReadsAsDirectory (Bytes.ofString "file://" ++ Bytes.ofString "/tmp/a#b/")
        (Bytes.ofString "/tmp/a#b/") := by
  refine ⟨rfl, ?_, fun hReads => ?_⟩
  · have hMain : Url.parseMain (Bytes.ofString "file://" ++ Bytes.ofString "/tmp/a") =
        .ok { scheme := "file", path := Bytes.ofString "/tmp/a" } :=
      (Url.parse_of_not_mem (by decide)).1 (Url.parse_file (by decide) (by decide))
    unfold Url.parse
    have hCut : Url.cut 35 (Bytes.ofString "file://" ++ Bytes.ofString "/tmp/a#b/") =
        (Bytes.ofString "file://" ++ Bytes.ofString "/tmp/a", some (Bytes.ofString "b/")) := by
      decide
    rw [hCut]
    simp only [hMain]
    rfl
  · have := ((readsAsDirectory_iff _).1 hReads).2
    revert this
    decide

end Location

end LineBatch
