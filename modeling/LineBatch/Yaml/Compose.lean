import LineBatch.Yaml.Scanner
import LineBatch.Yaml.Resolve

/-
  Composing the first document of a YAML stream into a tree of nodes.

  The parser reads tokens from the scanner and builds nodes as it
  goes: scalars, sequences, mappings, and aliases to nodes anchored
  earlier. Block collections are delimited by their start and end
  tokens; a block mapping's value may also be a sequence of entries at
  the mapping's own column. Flow sequences may hold single-pair
  mappings. A missing key or value is an empty plain scalar, which
  resolves to null.

  Each node records the line it starts on, counted from one, and its
  tag in short form: an explicit tag, !!str for quoted and block
  scalars, the resolved tag for plain ones, and !!seq or !!map for
  collections.

  Only the first document is read; the rest of the stream is never
  looked at beyond the scanner's look-ahead.

  Key definitions:
    * `Node`, `Node.tag`, `Node.line`, `Node.value`
    * `Composer`, `ParseM`, `parseNode`, `compose`
-/

namespace LineBatch

namespace Yaml

/-- A node of a YAML document. -/
inductive Node where
  | scalar (tag value : String) (style : Style) (line : Nat)
  | sequence (tag : String) (items : List Node) (line : Nat)
  | mapping (tag : String) (pairs : List (Node × Node)) (line : Nat)
  | alias (name : String) (target : Node) (line : Nat)
  deriving Repr, Inhabited

namespace Node

/-- The tag of a node; an alias has none of its own. -/
def tag : Node → String
  | .scalar t _ _ _ => t
  | .sequence t _ _ => t
  | .mapping t _ _ => t
  | .alias _ _ _ => ""

/-- The line a node starts on, counted from one. -/
def line : Node → Nat
  | .scalar _ _ _ l => l
  | .sequence _ _ l => l
  | .mapping _ _ l => l
  | .alias _ _ l => l

/-- The text of a scalar, the name of an alias, and nothing for a collection. -/
def value : Node → String
  | .scalar _ v _ _ => v
  | .alias n _ _ => n
  | _ => ""

/-- Which of the four kinds a node is. -/
def kindIndex : Node → Nat
  | .scalar .. => 0
  | .sequence .. => 1
  | .mapping .. => 2
  | .alias .. => 3

end Node

/-- The parser: the scanner, the tag handles in force, and the anchored nodes. -/
structure Composer where
  scan : Scanner
  directives : List (String × String) := []
  anchors : List (String × Node) := []

/-- Parsing steps. -/
abbrev ParseM := StateT Composer (Except Fault)

namespace Composer

/-- Runs a scanning step. -/
def liftScan {α : Type} (m : ScanM α) : ParseM α := fun c => do
  let (a, s) ← m c.scan
  return (a, { c with scan := s })

/-- The next token. -/
def peek : ParseM Token := liftScan Scanner.peek

/-- Moves past the next token. -/
def next : ParseM Unit := liftScan Scanner.advanceToken

/-- A failure of the parser. -/
def fail {α : Type} (context problem : Mark) (message : String) : ParseM α :=
  throw (.marked false context problem message)

/-- The tag handles every document has. -/
def defaultDirectives : List (String × String) := [("!", "!"), ("!!", tagPrefix)]

/-- The full tag of a tag token. -/
def fullTag (handle suffix : String) (start tagMark : Mark) : ParseM String := do
  if handle.isEmpty then return suffix
  match (← get).directives.lookup handle with
  | some pfx =>
    let t := pfx ++ suffix
    if t.isEmpty then fail start tagMark "found undefined tag handle" else return t
  | none => fail start tagMark "found undefined tag handle"

/-- Remembers a node under an anchor name, hiding any earlier one. -/
def anchor (name : Option String) (n : Node) : ParseM Node := do
  if let some a := name then
    modify fun c => { c with anchors := (a, n) :: c.anchors }
  return n

/-- A scalar node: an explicit tag in short form, else !!str for a quoted or block
scalar, else !!merge for a plain "<<", else the tag its text resolves to. -/
def scalarNode (tag value : String) (style : Style) (start : Mark) : Node :=
  let t := if tag != "" && tag != "!" then shortTag tag
    else if style != .plain then "!!str"
    else if value == "<<" then "!!merge"
    else (resolveText "" value).1
  .scalar t value style (start.line + 1)

/-- The tag of a collection: an explicit one in short form, else the default. -/
def collectionTag (tag default : String) : String :=
  if tag != "" && tag != "!" then shortTag tag else default

/-- The empty plain scalar standing for a missing node. -/
def emptyScalar (m : Mark) : Node := scalarNode "" "" .plain m

/-- Whether a token is one of the given kinds. -/
def isOneOf (t : Token) (kinds : List TokenKind) : Bool := kinds.contains t.kind

/-- The steps any loop over the tokens may take. -/
def fuel : ParseM Nat := do return (← get).scan.fuel

/-- A node with an anchor or a tag but no content is an empty scalar; with neither, the
content is missing. -/
def orEmpty (anchorName : Option String) (tag : String) (start : Mark)
    (t : Token) : ParseM Node :=
  if anchorName.isSome || tag != "" then anchor anchorName (scalarNode tag "" .plain start)
  else fail start t.start "did not find expected node content"

mutual

/-- Parses a node. `block` allows block collections; `indentless` allows a sequence of
entries at the column of the enclosing mapping. The depth bound `n` stops runaway
nesting. -/
def parseNode : Nat → Bool → Bool → ParseM Node
  | 0, _, _ => throw (.plain "exceeded max depth of 10000")
  | n + 1, block, indentless => do
    let t ← peek
    match t.kind with
    | .alias name =>
      next
      match (← get).anchors.lookup name with
      | some target => return .alias name target (t.start.line + 1)
      | none => throw (.plain ("unknown anchor '" ++ name ++ "' referenced"))
    | _ =>
      let start := t.start
      let mut t := t
      let mut anchorName : Option String := none
      let mut tagToken : Option (String × String × Mark) := none
      if let .anchor a := t.kind then
        anchorName := some a
        next
        t ← peek
        if let .tag h s := t.kind then
          tagToken := some (h, s, t.start)
          next
          t ← peek
      else if let .tag h s := t.kind then
        tagToken := some (h, s, t.start)
        next
        t ← peek
        if let .anchor a := t.kind then
          anchorName := some a
          next
          t ← peek
      let tag ← match tagToken with
        | some (h, s, m) => fullTag h s start m
        | none => pure ""
      if indentless && t.kind == .blockEntry then
        let node ← parseIndentless n tag start
        return ← anchor anchorName node
      match t.kind with
      | .scalar v style =>
        next
        anchor anchorName (scalarNode tag v style start)
      | .flowSequenceStart => anchor anchorName (← parseFlowSequence n tag start)
      | .flowMappingStart => anchor anchorName (← parseFlowMapping n tag start)
      | .blockSequenceStart =>
        if block then anchor anchorName (← parseBlockSequence n tag start)
        else orEmpty anchorName tag start t
      | .blockMappingStart =>
        if block then anchor anchorName (← parseBlockMapping n tag start)
        else orEmpty anchorName tag start t
      | _ => orEmpty anchorName tag start t

/-- Parses a block sequence from its start token to its end token. -/
def parseBlockSequence : Nat → String → Mark → ParseM Node
  | 0, _, _ => throw (.plain "exceeded max depth of 10000")
  | n + 1, tag, start => do
    let ctx := (← peek).start
    next
    let mut items : Array Node := #[]
    for _ in [0:(← fuel)] do
      let t ← peek
      if t.kind == .blockEntry then
        next
        let u ← peek
        if !isOneOf u [.blockEntry, .blockEnd] then items := items.push (← parseNode n true false)
        else items := items.push (emptyScalar t.stop)
      else if t.kind == .blockEnd then
        next
        break
      else fail ctx t.start "did not find expected '-' indicator"
    return .sequence (collectionTag tag "!!seq") items.toList (start.line + 1)

/-- Parses the entries of a sequence at a mapping's own column, up to the first token
that is not an entry. -/
def parseIndentless : Nat → String → Mark → ParseM Node
  | 0, _, _ => throw (.plain "exceeded max depth of 10000")
  | n + 1, tag, start => do
    let mut items : Array Node := #[]
    for _ in [0:(← fuel)] do
      let t ← peek
      if t.kind != .blockEntry then break
      next
      let u ← peek
      if !isOneOf u [.blockEntry, .key, .value, .blockEnd] then
        items := items.push (← parseNode n true false)
      else items := items.push (emptyScalar t.stop)
    return .sequence (collectionTag tag "!!seq") items.toList (start.line + 1)

/-- Parses a block mapping from its start token to its end token. -/
def parseBlockMapping : Nat → String → Mark → ParseM Node
  | 0, _, _ => throw (.plain "exceeded max depth of 10000")
  | n + 1, tag, start => do
    let ctx := (← peek).start
    next
    let mut pairs : Array (Node × Node) := #[]
    for _ in [0:(← fuel)] do
      let t ← peek
      if t.kind == .key then
        next
        let u ← peek
        let k ← if !isOneOf u [.key, .value, .blockEnd] then parseNode n true true
          else pure (emptyScalar t.stop)
        let t ← peek
        let v ← if t.kind == .value then do
            next
            let u ← peek
            if !isOneOf u [.key, .value, .blockEnd] then parseNode n true true
            else pure (emptyScalar t.stop)
          else pure (emptyScalar t.start)
        pairs := pairs.push (k, v)
      else if t.kind == .blockEnd then
        next
        break
      else fail ctx t.start "did not find expected key"
    return .mapping (collectionTag tag "!!map") pairs.toList (start.line + 1)

/-- Parses a flow sequence; an entry with a key is a mapping of one pair. -/
def parseFlowSequence : Nat → String → Mark → ParseM Node
  | 0, _, _ => throw (.plain "exceeded max depth of 10000")
  | n + 1, tag, start => do
    let ctx := (← peek).start
    next
    let mut items : Array Node := #[]
    let mut first := true
    for _ in [0:(← fuel)] do
      let mut t ← peek
      if t.kind == .flowSequenceEnd then
        next
        break
      if !first then
        if t.kind == .flowEntry then
          next
          t ← peek
        else fail ctx t.start "did not find expected ',' or ']'"
      first := false
      if t.kind == .key then
        next
        let u ← peek
        let k ← if !isOneOf u [.value, .flowEntry, .flowSequenceEnd] then parseNode n false false
          else do
            next
            pure (emptyScalar u.stop)
        let w ← peek
        let v ← if w.kind == .value then do
            next
            let x ← peek
            if !isOneOf x [.flowEntry, .flowSequenceEnd] then parseNode n false false
            else pure (emptyScalar w.start)
          else pure (emptyScalar w.start)
        items := items.push (.mapping "!!map" [(k, v)] (t.start.line + 1))
      else if t.kind == .flowSequenceEnd then
        next
        break
      else items := items.push (← parseNode n false false)
    return .sequence (collectionTag tag "!!seq") items.toList (start.line + 1)

/-- Parses a flow mapping; an entry without ':' has an empty value. -/
def parseFlowMapping : Nat → String → Mark → ParseM Node
  | 0, _, _ => throw (.plain "exceeded max depth of 10000")
  | n + 1, tag, start => do
    let ctx := (← peek).start
    next
    let mut pairs : Array (Node × Node) := #[]
    let mut first := true
    for _ in [0:(← fuel)] do
      let mut t ← peek
      if t.kind == .flowMappingEnd then
        next
        break
      if !first then
        if t.kind == .flowEntry then
          next
          t ← peek
        else fail ctx t.start "did not find expected ',' or '\x7d'"
      first := false
      if t.kind == .key then
        next
        let u ← peek
        let k ← if !isOneOf u [.value, .flowEntry, .flowMappingEnd] then parseNode n false false
          else pure (emptyScalar u.start)
        let w ← peek
        let v ← if w.kind == .value then do
            next
            let x ← peek
            if !isOneOf x [.flowEntry, .flowMappingEnd] then parseNode n false false
            else pure (emptyScalar x.start)
          else pure (emptyScalar w.start)
        pairs := pairs.push (k, v)
      else if t.kind == .flowMappingEnd then
        next
        break
      else
        let k ← parseNode n false false
        let w ← peek
        pairs := pairs.push (k, emptyScalar w.start)
    return .mapping (collectionTag tag "!!map") pairs.toList (start.line + 1)

end

/-- Reads the directives before an explicit document. -/
def readDirectives : ParseM Unit := do
  let mut version := false
  for _ in [0:(← fuel)] do
    let t ← peek
    match t.kind with
    | .versionDirective major minor =>
      if version then fail {} t.start "found duplicate %YAML directive"
      if major != 1 || minor != 1 then fail {} t.start "found incompatible YAML document"
      version := true
      next
    | .tagDirective h p =>
      if ((← get).directives.lookup h).isSome then fail {} t.start "found duplicate %TAG directive"
      modify fun c => { c with directives := c.directives ++ [(h, p)] }
      next
    | _ => break
  modify fun c => { c with directives := c.directives ++
    defaultDirectives.filter fun (h, _) => (c.directives.lookup h).isNone }

/-- Parses the first document of the stream, if there is one. -/
def document : ParseM (Option Node) := do
  let depth ← fuel
  let t ← peek
  if t.kind != .streamStart then fail {} t.start "did not find expected <stream-start>"
  next
  let t ← peek
  let root ← match t.kind with
    | .streamEnd => pure none
    | .versionDirective .. | .tagDirective .. | .documentStart => do
      readDirectives
      let t ← peek
      if t.kind != .documentStart then fail {} t.start "did not find expected <document start>"
      next
      let u ← peek
      if isOneOf u [.documentStart, .documentEnd, .streamEnd]
          || (match u.kind with
              | .versionDirective .. => true
              | .tagDirective .. => true
              | _ => false) then
        pure (some (emptyScalar u.start))
      else pure (some (← parseNode depth true false))
    | _ => do
      readDirectives
      pure (some (← parseNode depth true false))
  if root.isSome then
    let t ← peek
    if t.kind == .documentEnd then next
  return root

end Composer

/-- The first document of a YAML text as a node, or nothing for an empty stream. -/
def compose (input : Bytes) : Except Fault (Option Node) := do
  let scan ← Scanner.ofBytes input
  let (root, _) ← Composer.document.run { scan }
  return root

end Yaml

end LineBatch
