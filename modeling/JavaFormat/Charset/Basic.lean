import JavaFormat.Charset.Big5
import JavaFormat.Charset.EucKr
import JavaFormat.Charset.Gb18030
import JavaFormat.Charset.Jis
import JavaFormat.Charset.SingleByte
import JavaFormat.Text.Blank

/-!
# Charsets

A `Charset` is one of the encodings of the web that are written in the encoding they are read in.
`Charset.ofLabel` finds it by any of its labels, `decode?` reads bytes strictly and `encode?`
writes a text, or fails where a character has no bytes.
-/

set_option autoImplicit false

namespace JavaFormat

/-- An encoding that texts are read and written in. -/
inductive Charset where
  /-- UTF-8. -/
  | utf8
  /-- A charset with one byte for each character. -/
  | singleByte (charset : SingleByte)
  /-- GBK. -/
  | gbk
  /-- GB 18030. -/
  | gb18030
  /-- Big5. -/
  | big5
  /-- EUC-JP. -/
  | eucJp
  /-- ISO-2022-JP. -/
  | iso2022Jp
  /-- Shift_JIS. -/
  | shiftJis
  /-- EUC-KR. -/
  | eucKr
  deriving DecidableEq, Repr

namespace Charset

/-- The name of a charset. -/
def name : Charset → String
  | utf8 => "UTF-8"
  | singleByte charset => charset.name
  | gbk => "GBK"
  | gb18030 => "gb18030"
  | big5 => "Big5"
  | eucJp => "EUC-JP"
  | iso2022Jp => "ISO-2022-JP"
  | shiftJis => "Shift_JIS"
  | eucKr => "EUC-KR"

/-- The labels that name a charset, in lower case. -/
def labels : Charset → List String
  | utf8 =>
    ["utf8", "utf-8", "unicode20utf8", "unicode11utf8", "x-unicode20utf8", "unicode-1-1-utf-8"]
  | singleByte charset => charset.labels
  | gbk =>
    ["gbk", "x-gbk", "gb2312", "gb_2312", "chinese", "csgb2312", "iso-ir-58", "gb_2312-80",
      "csiso58gb231280"]
  | gb18030 => ["gb18030"]
  | big5 => ["big5", "csbig5", "cn-big5", "x-x-big5", "big5-hkscs"]
  | eucJp => ["euc-jp", "x-euc-jp", "cseucpkdfmtjapanese"]
  | iso2022Jp => ["iso-2022-jp", "csiso2022jp"]
  | shiftJis =>
    ["sjis", "ms932", "x-sjis", "ms_kanji", "shift-jis", "shift_jis", "csshiftjis", "windows-31j"]
  | eucKr =>
    ["korean", "euc-kr", "ksc5601", "cseuckr", "ksc_5601", "iso-ir-149", "windows-949",
      "csksc56011987", "ks_c_5601-1987", "ks_c_5601-1989"]

/-- All charsets. -/
def all : List Charset :=
  [utf8, gbk, gb18030, big5, eucJp, iso2022Jp, shiftJis, eucKr] ++ SingleByte.all.map singleByte

/-- The labels of encodings that are written as another one than they are read as. -/
def unwritableLabels : List String :=
  ["ucs-2", "utf-16", "unicode", "utf-16be", "utf-16le", "csunicode", "hz-gb-2312", "unicodefffe",
    "unicodefeff", "iso-2022-cn", "iso-2022-kr", "csiso2022kr", "replacement", "iso-10646-ucs-2",
    "iso-2022-cn-ext"]

/-- What a label may lack. -/
inductive LabelProblem where
  /-- It names no encoding. -/
  | unknown
  /-- It names one that cannot be written back. -/
  | unwritable
  deriving DecidableEq, Repr

/-- A label without the white space around it and in lower case. -/
def normalLabel (label : String) : String :=
  String.ofList (Text.lowerAscii (Text.trim Text.isWhiteSpace label.toList))

/-- The charset that a label names. -/
def ofLabel (label : String) : Except LabelProblem Charset :=
  match all.find? fun charset => (normalLabel label) ∈ charset.labels with
  | some charset => .ok charset
  | none => .error (if normalLabel label ∈ unwritableLabels then .unwritable else .unknown)

/-- The text that some bytes stand for, if they are well formed throughout. -/
def decode? (charset : Charset) (bytes : List UInt8) : Option String :=
  match charset with
  | utf8 => String.fromUTF8? ⟨bytes.toArray⟩
  | singleByte charset => (decodeWith charset.read bytes).map String.ofList
  | gbk => (decodeWith Gb18030.read bytes).map String.ofList
  | gb18030 => (decodeWith Gb18030.read bytes).map String.ofList
  | big5 => (decodeWith Big5.read bytes).map String.ofList
  | eucJp => (decodeWith EucJp.read bytes).map String.ofList
  | iso2022Jp => (Iso2022Jp.decode bytes).map String.ofList
  | shiftJis => (decodeWith ShiftJis.read bytes).map String.ofList
  | eucKr => (decodeWith EucKr.read bytes).map String.ofList

/-- The bytes of a text, if every character has some. -/
def encode? (charset : Charset) (text : String) : Option (List UInt8) :=
  match charset with
  | utf8 => some text.toUTF8.data.toList
  | singleByte charset => encodeWith charset.write text.toList
  | gbk => encodeWith (Gb18030.writeAs false) text.toList
  | gb18030 => encodeWith (Gb18030.writeAs true) text.toList
  | big5 => encodeWith Big5.write text.toList
  | eucJp => encodeWith EucJp.write text.toList
  | iso2022Jp => Iso2022Jp.encode text.toList
  | shiftJis => encodeWith ShiftJis.write text.toList
  | eucKr => encodeWith EucKr.write text.toList

end Charset

end JavaFormat
