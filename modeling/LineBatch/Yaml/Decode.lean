import LineBatch.Yaml.Compose
import LineBatch.Text.Quoted

/-
  Reading a YAML document into a value of a given shape.

  A shape is a string, an integer, a boolean, an optional value, a
  list, or a record with named fields. Decoding walks the node tree
  along the shape:

    * a null leaves a string, number, boolean or record as it was, and
      empties an optional value or a list;
    * a string takes the text of any scalar;
    * an integer takes an integer that fits, or a float no greater than
      2^63, cut toward zero (a float out of range gives the least
      64-bit integer, as the processor does);
    * a boolean takes true or false, or one of the older spellings
      y, yes, on, n, no, off in their usual cases given as strings;
    * a list takes a sequence, dropping the items that cannot be read;
    * a record takes a mapping; keys naming no field are ignored, and a
      mapping may not repeat a key. A "<<" key reads the mapping it
      holds into the record at that point, or each mapping of a
      sequence from the last to the first, so the earlier ones win.

  Anything else is a type error, noted with its line and reading on;
  a document with type errors is refused with all of them. A tagged
  scalar whose text does not fit its tag stops reading at once.

  Key definitions:
    * `Shape`, `Value`, `Shape.typeName`, `Shape.zero`
    * `decode`, `unmarshal`
-/

namespace LineBatch

namespace Yaml

/-- The shape of a value read from YAML. -/
inductive Shape where
  | text
  | int
  | bool
  | optional (s : Shape)
  | list (s : Shape)
  | record (name : String) (fields : List (String × Shape))
  deriving Repr, Inhabited

/-- A value read from YAML. -/
inductive Value where
  | null
  | text (s : String)
  | int (i : Int)
  | bool (b : Bool)
  | list (items : List Value)
  | record (fields : List (String × Value))
  deriving Repr, Inhabited

namespace Shape

/-- The name of a shape in type errors. -/
def typeName : Shape → String
  | .text => "string"
  | .int => "int"
  | .bool => "bool"
  | .optional s => "*" ++ s.typeName
  | .list s => "[]" ++ s.typeName
  | .record name _ => name

/-- The value a shape has before anything is read into it. -/
def zero : Shape → Value
  | .text => .text ""
  | .int => .int 0
  | .bool => .bool false
  | .optional _ => .null
  | .list _ => .null
  | .record _ _ => .record []

end Shape

namespace Value

/-- A field of a record, or nothing. -/
def field (v : Value) (name : String) : Option Value :=
  match v with
  | .record fs => fs.lookup name
  | _ => none

/-- Sets a field of a record. -/
def setField (v : Value) (name : String) (x : Value) : Value :=
  match v with
  | .record fs => .record ((name, x) :: fs.filter (·.1 != name))
  | _ => .record [(name, x)]

/-- The text of a string value, else the empty text. -/
def textD : Value → String
  | .text s => s
  | _ => ""

/-- The number of an integer value, else zero. -/
def intD : Value → Int
  | .int i => i
  | _ => 0

end Value

/-- Decoding steps: type errors are collected; a plain failure stops decoding. -/
abbrev DecodeM := StateT (Array String) (Except String)

/-- A value shown in a type error: nothing for a collection, else the text between
backquotes, cut to its first seven octets and an ellipsis when longer than ten. -/
def shownValue (tag value : String) : String :=
  if tag == "!!seq" || tag == "!!map" then ""
  else
    let bs := Utf8.encode value
    if bs.length > 10 then " `" ++ Bytes.lossy (bs.take 7) ++ "...`"
    else " `" ++ value ++ "`"

/-- Notes that a node cannot be read into a shape. -/
def typeError (n : Node) (tag : String) (shape : Shape) : DecodeM Unit :=
  let t := if n.tag != "" then n.tag else tag
  modify (·.push ("line " ++ toString n.line ++ ": cannot unmarshal " ++ shortTag t
    ++ shownValue t n.value ++ " into " ++ shape.typeName))

/-- Notes every key of a mapping that repeats an earlier one. -/
def duplicateKeys (pairs : List (Node × Node)) : List String :=
  let keys := pairs.map (·.1)
  (keys.zipIdx).flatMap fun (ki, i) =>
    (keys.drop (i + 1)).filterMap fun kj =>
      if ki.kindIndex == kj.kindIndex && ki.value == kj.value then
        some ("line " ++ toString kj.line ++ ": mapping key " ++ Quoted.quote kj.value
          ++ " already defined at line " ++ toString ki.line)
      else none

/-- The spellings of true and false a boolean also accepts from a string. -/
def olderBool? (s : String) : Option Bool :=
  if ["y", "Y", "yes", "Yes", "YES", "on", "On", "ON"].contains s then some true
  else if ["n", "N", "no", "No", "NO", "off", "Off", "OFF"].contains s then some false
  else none

/-- Whether a float is at most 2^63. -/
def atMostInt64Bound (x : Binary64) : Bool :=
  match x with
  | .nan => false
  | _ => !Binary64.lt (Binary64.ofInt (Int.pow 2 63)) x

/-- Reads a scalar into a shape: whether it was read, and the new value. -/
def scalarInto (n : Node) (shape : Shape) (cur : Value) : DecodeM (Bool × Value) := do
  let (tag, r) ← if n.tag == "!!str" then pure ("!!str", Resolved.text n.value)
    else match resolve n.tag n.value with
      | .ok p => pure p
      | .error e => throw e
  let bad : DecodeM (Bool × Value) := do
    typeError n tag shape
    return (false, cur)
  match r, shape with
  | .null, .optional _ => return (true, .null)
  | .null, .list _ => return (true, .null)
  | .null, _ => return (false, cur)
  | _, .text => return (true, .text n.value)
  | .int i, .int => return (true, .int i)
  | .float x, .int => if atMostInt64Bound x then return (true, .int x.toInt64) else bad
  | .bool b, .bool => return (true, .bool b)
  | .text s, .bool =>
    match olderBool? s with
    | some b => return (true, .bool b)
    | none => bad
  | _, _ => bad

/-- Whether a key asks for the pairs of other mappings to be merged in: a plain "<<". -/
def isMergeKey : Node → Bool
  | .scalar t v _ _ => v == "<<" && (t == "" || t == "!" || t == "!!merge")
  | _ => false

/-- Whether a node is a mapping or an alias of one. -/
def isMappingLike : Node → Bool
  | .mapping .. => true
  | .alias _ (.mapping ..) _ => true
  | _ => false

/-- The mappings a merge key brings in, in the order they are read: a mapping or an alias
of one, or a sequence of them read from the last, so that earlier ones win. -/
def mergeSources (v : Node) : DecodeM (List Node) :=
  let wantMap : DecodeM (List Node) := throw "map merge requires map or sequence of maps as the value"
  match v with
  | .sequence _ items _ => if items.all isMappingLike then pure items.reverse else wantMap
  | _ => if isMappingLike v then pure [v] else wantMap

/-- Reads a node into a shape, starting from the current value: whether it was read, and
the new value. The depth bound stops runaway nesting. -/
def decode : Nat → Node → Shape → Value → DecodeM (Bool × Value)
  | 0, _, _, cur => return (false, cur)
  | fuel + 1, n, shape, cur =>
    match n with
    | .alias _ target _ => decode fuel target shape cur
    | _ =>
      let isNull := match n with
        | .scalar t _ _ _ => t == "!!null"
        | _ => false
      match shape, isNull with
      | .optional s, false => do
        let inner := match cur with
          | .null => s.zero
          | v => v
        let (ok, v) ← decode fuel n s inner
        return (ok, v)
      | _, _ =>
        match n with
        | .scalar .. => scalarInto n shape cur
        | .sequence _ items _ =>
          match shape with
          | .list s => do
            let mut out : Array Value := #[]
            for item in items do
              let (ok, v) ← decode fuel item s s.zero
              if ok then out := out.push v
            return (true, .list out.toList)
          | _ => do
            typeError n "!!seq" shape
            return (false, cur)
        | .mapping _ pairs _ => do
          let dups := duplicateKeys pairs
          if !dups.isEmpty then
            modify (· ++ dups.toArray)
            return (false, cur)
          match shape with
          | .record name fields => do
            let mut acc := cur
            let mut done : List String := []
            let mut keyName : Value := .text ""
            for (k, v) in pairs do
              if isMergeKey k then
                for src in ← mergeSources v do
                  let (_, nv) ← decode fuel src shape acc
                  acc := nv
                continue
              let (ok, kv) ← decode fuel k .text keyName
              keyName := kv
              if !ok then continue
              let sname := kv.textD
              match fields.lookup sname with
              | none => pure ()
              | some fshape =>
                if done.contains sname then
                  modify (·.push ("line " ++ toString k.line ++ ": field " ++ sname
                    ++ " already set in type " ++ name))
                  continue
                done := sname :: done
                let old := (acc.field sname).getD fshape.zero
                let (_, nv) ← decode fuel v fshape old
                acc := acc.setField sname nv
            return (true, acc)
          | _ => do
            typeError n "!!map" shape
            return (false, cur)
        | .alias .. => return (false, cur)

/-- Reads YAML text into a shape. An empty stream gives the shape's zero value. Failures
are prefixed "yaml: "; type errors are listed one per line. -/
def unmarshal (input : Bytes) (shape : Shape) : Except String Value :=
  match compose input with
  | .error f => .error ("yaml: " ++ f.text)
  | .ok none => .ok shape.zero
  | .ok (some root) =>
    match (decode (input.length + 2) root shape shape.zero).run #[] with
    | .error e => .error ("yaml: " ++ e)
    | .ok ((_, v), errs) =>
      if errs.isEmpty then .ok v
      else .error ("yaml: unmarshal errors:\n  " ++ "\n  ".intercalate errs.toList)

end Yaml

end LineBatch
