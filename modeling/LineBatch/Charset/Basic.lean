import LineBatch.Text.Keyword
import LineBatch.Error
import LineBatch.Text.Blank
import LineBatch.Text.Quoted
import LineBatch.Charset.SingleByte

/-
  Character encodings of input files, found by their labels.

  An encoding is named by any of its labels, as web browsers name
  them: "latin1", "ascii" and "iso-8859-1" all mean windows-1252, and
  "sjis" means shift_jis. Labels are matched ignoring blanks around
  them and case; an empty name means UTF-8. Lines are split on the
  octet 0x0A before they are decoded, so only encodings that write a
  line feed as that one octet are accepted: the UTF-16 encodings are
  refused.

  Key definitions:
    * `Encoding`, `Charset`, `Charset.lookup`, `Charset.canonical?`
-/

namespace LineBatch

/-- How the octets of a line are turned into text. -/
inductive Encoding where
  | utf8
  /-- ASCII, and the given characters for the octets 0x80 to 0xFF. -/
  | singleByte (upper : Array Char)
  | shiftJis
  | eucJp
  | iso2022Jp
  | gbk
  | gb18030
  | big5
  | eucKr
  /-- ASCII, and the octets 0x80 to 0xFF as U+F780 to U+F7FF. -/
  | userDefined
  /-- Every line reads as one replacement character. -/
  | replacement
  | utf16 (bigEndian : Bool)

/-- A resolved encoding with its canonical name. -/
structure Charset where
  name : String
  encoding : Encoding

namespace Charset

/-- The labels of each encoding, by canonical name. -/
def labels : List (String × List String) :=
  [("utf-8", ["unicode-1-1-utf-8", "unicode11utf8", "unicode20utf8", "utf-8", "utf8",
      "x-unicode20utf8"]),
   ("ibm866", ["866", "cp866", "csibm866", "ibm866"]),
   ("iso-8859-2", ["csisolatin2", "iso-8859-2", "iso-ir-101", "iso8859-2", "iso88592",
      "iso_8859-2", "iso_8859-2:1987", "l2", "latin2"]),
   ("iso-8859-3", ["csisolatin3", "iso-8859-3", "iso-ir-109", "iso8859-3", "iso88593",
      "iso_8859-3", "iso_8859-3:1988", "l3", "latin3"]),
   ("iso-8859-4", ["csisolatin4", "iso-8859-4", "iso-ir-110", "iso8859-4", "iso88594",
      "iso_8859-4", "iso_8859-4:1988", "l4", "latin4"]),
   ("iso-8859-5", ["csisolatincyrillic", "cyrillic", "iso-8859-5", "iso-ir-144", "iso8859-5",
      "iso88595", "iso_8859-5", "iso_8859-5:1988"]),
   ("iso-8859-6", ["arabic", "asmo-708", "csiso88596e", "csiso88596i", "csisolatinarabic",
      "ecma-114", "iso-8859-6", "iso-8859-6-e", "iso-8859-6-i", "iso-ir-127", "iso8859-6",
      "iso88596", "iso_8859-6", "iso_8859-6:1987"]),
   ("iso-8859-7", ["csisolatingreek", "ecma-118", "elot_928", "greek", "greek8", "iso-8859-7",
      "iso-ir-126", "iso8859-7", "iso88597", "iso_8859-7", "iso_8859-7:1987", "sun_eu_greek"]),
   ("iso-8859-8", ["csiso88598e", "csisolatinhebrew", "hebrew", "iso-8859-8", "iso-8859-8-e",
      "iso-ir-138", "iso8859-8", "iso88598", "iso_8859-8", "iso_8859-8:1988", "visual"]),
   ("iso-8859-8-i", ["csiso88598i", "iso-8859-8-i", "logical"]),
   ("iso-8859-10", ["csisolatin6", "iso-8859-10", "iso-ir-157", "iso8859-10", "iso885910", "l6",
      "latin6"]),
   ("iso-8859-13", ["iso-8859-13", "iso8859-13", "iso885913"]),
   ("iso-8859-14", ["iso-8859-14", "iso8859-14", "iso885914"]),
   ("iso-8859-15", ["csisolatin9", "iso-8859-15", "iso8859-15", "iso885915", "iso_8859-15",
      "l9"]),
   ("iso-8859-16", ["iso-8859-16"]),
   ("koi8-r", ["cskoi8r", "koi", "koi8", "koi8-r", "koi8_r"]),
   ("koi8-u", ["koi8-ru", "koi8-u"]),
   ("macintosh", ["csmacintosh", "mac", "macintosh", "x-mac-roman"]),
   ("windows-874", ["dos-874", "iso-8859-11", "iso8859-11", "iso885911", "tis-620",
      "windows-874"]),
   ("windows-1250", ["cp1250", "windows-1250", "x-cp1250"]),
   ("windows-1251", ["cp1251", "windows-1251", "x-cp1251"]),
   ("windows-1252", ["ansi_x3.4-1968", "ascii", "cp1252", "cp819", "csisolatin1", "ibm819",
      "iso-8859-1", "iso-ir-100", "iso8859-1", "iso88591", "iso_8859-1", "iso_8859-1:1987", "l1",
      "latin1", "us-ascii", "windows-1252", "x-cp1252"]),
   ("windows-1253", ["cp1253", "windows-1253", "x-cp1253"]),
   ("windows-1254", ["cp1254", "csisolatin5", "iso-8859-9", "iso-ir-148", "iso8859-9",
      "iso88599", "iso_8859-9", "iso_8859-9:1989", "l5", "latin5", "windows-1254", "x-cp1254"]),
   ("windows-1255", ["cp1255", "windows-1255", "x-cp1255"]),
   ("windows-1256", ["cp1256", "windows-1256", "x-cp1256"]),
   ("windows-1257", ["cp1257", "windows-1257", "x-cp1257"]),
   ("windows-1258", ["cp1258", "windows-1258", "x-cp1258"]),
   ("x-mac-cyrillic", ["x-mac-cyrillic", "x-mac-ukrainian"]),
   ("gbk", ["chinese", "csgb2312", "csiso58gb231280", "gb2312", "gb_2312", "gb_2312-80", "gbk",
      "iso-ir-58", "x-gbk"]),
   ("gb18030", ["gb18030"]),
   ("big5", ["big5", "big5-hkscs", "cn-big5", "csbig5", "x-x-big5"]),
   ("euc-jp", ["cseucpkdfmtjapanese", "euc-jp", "x-euc-jp"]),
   ("iso-2022-jp", ["csiso2022jp", "iso-2022-jp"]),
   ("shift_jis", ["csshiftjis", "ms932", "ms_kanji", "shift-jis", "shift_jis", "sjis",
      "windows-31j", "x-sjis"]),
   ("euc-kr", ["cseuckr", "csksc56011987", "euc-kr", "iso-ir-149", "korean", "ks_c_5601-1987",
      "ks_c_5601-1989", "ksc5601", "ksc_5601", "windows-949"]),
   ("replacement", ["csiso2022kr", "hz-gb-2312", "iso-2022-cn", "iso-2022-cn-ext",
      "iso-2022-kr", "replacement"]),
   ("utf-16be", ["unicodefffe", "utf-16be"]),
   ("utf-16le", ["csunicode", "iso-10646-ucs-2", "ucs-2", "unicode", "unicodefeff", "utf-16",
      "utf-16le"]),
   ("x-user-defined", ["x-user-defined"])]

/-- The canonical name of the encoding a label names. -/
def canonical? (label : String) : Option String :=
  let key := Keyword.normalize label
  (labels.find? fun (_, ls) => ls.contains key).map (·.1)

/-- The encoding of a canonical name. -/
def encodingOf (canonical : String) : Encoding :=
  match SingleByte.table? canonical with
  | some t => .singleByte t.toList.toArray
  | none =>
    match canonical with
    | "shift_jis" => .shiftJis
    | "euc-jp" => .eucJp
    | "iso-2022-jp" => .iso2022Jp
    | "gbk" => .gbk
    | "gb18030" => .gb18030
    | "big5" => .big5
    | "euc-kr" => .eucKr
    | "x-user-defined" => .userDefined
    | "replacement" => .replacement
    | "utf-16be" => .utf16 true
    | "utf-16le" => .utf16 false
    | _ => .utf8

/-- Resolves an encoding name. -/
def lookup (name : String) : Except Failure Charset :=
  let name := if (Blank.trimString name).isEmpty then "utf-8" else name
  match canonical? name with
  | none =>
    .error (.plain ("batch: unsupported encoding " ++ Quoted.quote name ++
      ": htmlindex: invalid encoding name"))
  | some canon =>
    match encodingOf canon with
    | .utf16 _ =>
      .error (.plain ("batch: encoding " ++ Quoted.quote name ++
        " does not use single-byte line feeds"))
    | e => .ok ⟨canon, e⟩

/-- UTF-8, the encoding when none is named. -/
def utf8 : Charset := ⟨"utf-8", .utf8⟩

/-- The length of a line terminator: one octet in every accepted encoding. -/
def eolLength (_ : Charset) : Nat := 1

/-- Whether the text is kept as it is read. -/
def isUtf8 (c : Charset) : Bool := c.name == "utf-8"

end Charset

end LineBatch
