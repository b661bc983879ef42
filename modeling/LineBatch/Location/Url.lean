import LineBatch.Text.Quoted

/-
  Reading URLs.

  A URL is read as scheme ":" then, when what follows starts with
  "//", an authority (user information and host) up to the next
  slash, then a path, an optional query after the first "?" and an
  optional fragment after the first "#". The scheme is made lower
  case. After a scheme, text that does not start with a slash is a
  rootless part, kept as it is.

  Percent escapes are checked and decoded in the host, the user
  information, the path and the fragment; the query is kept raw. A
  host may escape only octets from 0x80 on (and "%25" for a percent
  sign), and may hold only letters, digits and a few punctuation
  marks. A port must be all digits.

  Failures are reported as "parse" and the quoted text, then the
  reason.

  Key definitions:
    * `Url`, `Url.parse`, `Url.unescape`
-/

namespace LineBatch

/-- A URL, its parts decoded. -/
structure Url where
  scheme : String := ""
  rootless : Bytes := []
  user : Option Bytes := none
  host : Bytes := []
  path : Bytes := []
  rawQuery : Bytes := []
  forceQuery : Bool := false
  fragment : Bytes := []
  deriving Repr

namespace Url

/-- The places percent escapes are decoded in, which differ in what they allow. -/
inductive Part where
  | host
  | zone
  | path
  | userinfo
  | fragment
  deriving DecidableEq

/-- The code of an ASCII character. -/
def code (c : Char) : UInt8 := c.toNat.toUInt8

/-- Whether an octet is one of the characters of a string. -/
def oneOf (cs : String) (b : UInt8) : Bool := cs.toList.any fun c => code c == b

def isLetter (b : UInt8) : Bool := (65 ≤ b.toNat && b.toNat ≤ 90) || (97 ≤ b.toNat && b.toNat ≤ 122)

def isDigit (b : UInt8) : Bool := 48 ≤ b.toNat && b.toNat ≤ 57

/-- Whether an octet is a hexadecimal digit of either case. -/
def isHex (b : UInt8) : Bool :=
  isDigit b || (65 ≤ b.toNat && b.toNat ≤ 70) || (97 ≤ b.toNat && b.toNat ≤ 102)

/-- The value of a hexadecimal digit. -/
def hexValue (b : UInt8) : Nat :=
  if isDigit b then b.toNat - 48 else if b.toNat ≤ 70 then b.toNat - 55 else b.toNat - 87

/-- Whether an octet may stand unescaped in a host name. -/
def hostAllows (b : UInt8) : Bool :=
  isLetter b || isDigit b || oneOf "!$&'()*+,;=:[]<>\"-_.~" b

/-- The message of a malformed escape. -/
def escapeError (s : Bytes) : String := "invalid URL escape " ++ Quoted.quoteBytes s

/-- Checks the escapes of a text for a part of a URL, octet after octet. -/
def check (part : Part) : Bytes → Except String Unit
  | [] => .ok ()
  | b :: rest =>
    if b == 37 then
      match rest with
      | x :: y :: more =>
        if !(isHex x && isHex y) then .error (escapeError [b, x, y])
        else if part = .host && hexValue x < 8 && !(x == 50 && y == 53) then
          .error (escapeError [b, x, y])
        else if part = .zone && !(x == 50 && y == 53) &&
            (let v := (hexValue x * 16 + hexValue y).toUInt8
             v != 32 && !(v.toNat < 0x80 && hostAllows v)) then
          .error (escapeError [b, x, y])
        else check part more
      | _ => .error (escapeError (b :: rest))
    else if (part = .host || part = .zone) && b.toNat < 0x80 && !hostAllows b then
      .error ("invalid character " ++ Quoted.quoteBytes [b] ++ " in host name")
    else check part rest

/-- Decodes the percent escapes of a text. -/
def decode : Bytes → Bytes
  | [] => []
  | b :: rest =>
    match rest with
    | x :: y :: more =>
      if b == 37 && isHex x && isHex y then (hexValue x * 16 + hexValue y).toUInt8 :: decode more
      else b :: decode (x :: y :: more)
    | [x] => [b, x]
    | [] => [b]

/-- Checks and decodes the escapes of a text for a part of a URL. -/
def unescape (part : Part) (s : Bytes) : Except String Bytes := do
  check part s
  pure (decode s)

/-- Splits at the first occurrence of an octet. -/
def cut (sep : UInt8) (s : Bytes) : Bytes × Option Bytes :=
  match s.idxOf? sep with
  | some i => (s.take i, some (s.drop (i + 1)))
  | none => (s, none)

/-- The position of the last occurrence of an octet. -/
def lastIndex (sep : UInt8) (s : Bytes) : Option Nat :=
  (s.zipIdx.filter fun (b, _) => b == sep).getLast?.map (·.2)

/-- The position of the first occurrence of a text. -/
def indexOf (pat s : Bytes) : Option Nat :=
  (List.range (s.length + 1)).find? fun i => pat.isPrefixOf (s.drop i)

/-- The length of the scheme when the text starts with one and a colon. -/
def schemeEnd : Bytes → Nat → Except String (Option Nat)
  | [], _ => .ok none
  | b :: rest, i =>
    if isLetter b then schemeEnd rest (i + 1)
    else if isDigit b || oneOf "+-." b then
      if i = 0 then .ok none else schemeEnd rest (i + 1)
    else if b == 58 then
      if i = 0 then .error "missing protocol scheme" else .ok (some i)
    else .ok none

/-- Whether a port, with its colon, is absent or all digits. -/
def validPort (p : Bytes) : Bool :=
  match p with
  | [] => true
  | c :: ds => c == 58 && ds.all isDigit

/-- The message of a bad port. -/
def portError (p : Bytes) : String := "invalid port " ++ Quoted.quoteBytes p ++ " after host"

/-- Reads a host, with its port. -/
def parseHost (h : Bytes) : Except String Bytes :=
  if h.head? = some 91 then
    match lastIndex 93 h with
    | none => .error "missing ']' in host"
    | some i =>
      let port := h.drop (i + 1)
      if !validPort port then .error (portError port)
      else
        match indexOf (Bytes.ofString "%25") (h.take i) with
        | some z => do
          let a ← unescape .host (h.take z)
          let b ← unescape .zone ((h.take i).drop z)
          let c ← unescape .host (h.drop i)
          pure (a ++ b ++ c)
        | none => unescape .host h
  else
    match lastIndex 58 h with
    | some i =>
      let port := h.drop i
      if !validPort port then .error (portError port) else unescape .host h
    | none => unescape .host h

/-- Whether user information holds only the characters it may. -/
def validUserinfo (s : Bytes) : Bool :=
  s.all fun b => isLetter b || isDigit b || oneOf "-._:~!$&'()*+,;=%@" b

/-- Reads an authority: user information up to the last "@", then the host. -/
def parseAuthority (a : Bytes) : Except String (Option Bytes × Bytes) :=
  match lastIndex 64 a with
  | none => do
    let h ← parseHost a
    pure (none, h)
  | some i => do
    let h ← parseHost (a.drop (i + 1))
    let info := a.take i
    if !validUserinfo info then throw "net/url: invalid userinfo"
    match cut 58 info with
    | (name, some pass) =>
      let n ← unescape .userinfo name
      let p ← unescape .userinfo pass
      pure (some (n ++ [58] ++ p), h)
    | (name, none) =>
      let n ← unescape .userinfo name
      pure (some n, h)

/-- Reads a URL without its fragment; failures give the reason only. -/
def parseMain (u : Bytes) : Except String Url := do
  if u.any fun b => b.toNat < 0x20 || b.toNat == 0x7F then
    throw "net/url: invalid control character in URL"
  if u = [42] then return { path := [42] }
  let (scheme, rest) ← match ← schemeEnd u 0 with
    | some n => pure ((String.ofList ((u.take n).map fun b => Char.ofNat b.toNat)).toLower,
        u.drop (n + 1))
    | none => pure ("", u)
  let (rest, rawQuery, forceQuery) :=
    if rest.getLast? = some 63 && rest.count 63 = 1 then (rest.dropLast, [], true)
    else
      let (r, q) := cut 63 rest
      (r, q.getD [], false)
  let base : Url := { scheme, rawQuery, forceQuery }
  if rest.head? ≠ some 47 then
    if scheme ≠ "" then return { base with rootless := rest }
    if (cut 47 rest).1.contains 58 then
      throw "first path segment in URL cannot contain colon"
  let (base, rest) ← if (scheme ≠ "" || !(Bytes.ofString "///").isPrefixOf rest) &&
      (Bytes.ofString "//").isPrefixOf rest then do
      let a := rest.drop 2
      let (auth, path) := match a.idxOf? 47 with
        | some i => (a.take i, a.drop i)
        | none => (a, [])
      let (user, host) ← parseAuthority auth
      pure ({ base with user, host }, path)
    else pure (base, rest)
  let path ← unescape .path rest
  pure { base with path }

/-- Reads a URL. -/
def parse (raw : Bytes) : Except String Url :=
  let (u, frag) := cut 35 raw
  match parseMain u with
  | .error e => .error ("parse " ++ Quoted.quoteBytes u ++ ": " ++ e)
  | .ok url =>
    match frag with
    | none => .ok url
    | some [] => .ok url
    | some f =>
      match unescape .fragment f with
      | .ok fragment => .ok { url with fragment }
      | .error e => .error ("parse " ++ Quoted.quoteBytes raw ++ ": " ++ e)

/-- A text without a percent sign decodes to itself. -/
theorem decode_of_no_percent (s : Bytes) (h : 37 ∉ s) : decode s = s := by
  induction s using decode.induct <;> simp_all [decode]

end Url

end LineBatch
