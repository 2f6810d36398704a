import JavaFormat.Charset.Index
import JavaFormat.Charset.Stream
import JavaFormat.Charset.Table.SingleByte

/-!
# Single-byte charsets

A single-byte charset reads the bytes below 0x80 as ASCII and each other byte by its own table.
-/

set_option autoImplicit false

namespace JavaFormat

/-- The single-byte charsets. -/
inductive SingleByte where
  | ibm866 | iso8859_2 | iso8859_3 | iso8859_4 | iso8859_5 | iso8859_6 | iso8859_7
  | iso8859_8 | iso8859_8I | iso8859_10 | iso8859_13 | iso8859_14 | iso8859_15 | iso8859_16
  | koi8R | koi8U | macintosh | windows874 | windows1250 | windows1251 | windows1252
  | windows1253 | windows1254 | windows1255 | windows1256 | windows1257 | windows1258 | macCyrillic
  | userDefined
  deriving DecidableEq, Repr

namespace SingleByte

open Charset

/-- All single-byte charsets. -/
def all : List SingleByte :=
  [.ibm866, .iso8859_2, .iso8859_3, .iso8859_4, .iso8859_5, .iso8859_6, .iso8859_7, .iso8859_8,
   .iso8859_8I, .iso8859_10, .iso8859_13, .iso8859_14, .iso8859_15, .iso8859_16, .koi8R, .koi8U,
   .macintosh, .windows874, .windows1250, .windows1251, .windows1252, .windows1253, .windows1254,
   .windows1255, .windows1256, .windows1257, .windows1258, .macCyrillic, .userDefined]

/-- The name of a charset. -/
def name : SingleByte → String
  | ibm866 => "IBM866"
  | iso8859_2 => "ISO-8859-2"
  | iso8859_3 => "ISO-8859-3"
  | iso8859_4 => "ISO-8859-4"
  | iso8859_5 => "ISO-8859-5"
  | iso8859_6 => "ISO-8859-6"
  | iso8859_7 => "ISO-8859-7"
  | iso8859_8 => "ISO-8859-8"
  | iso8859_8I => "ISO-8859-8-I"
  | iso8859_10 => "ISO-8859-10"
  | iso8859_13 => "ISO-8859-13"
  | iso8859_14 => "ISO-8859-14"
  | iso8859_15 => "ISO-8859-15"
  | iso8859_16 => "ISO-8859-16"
  | koi8R => "KOI8-R"
  | koi8U => "KOI8-U"
  | macintosh => "macintosh"
  | windows874 => "windows-874"
  | windows1250 => "windows-1250"
  | windows1251 => "windows-1251"
  | windows1252 => "windows-1252"
  | windows1253 => "windows-1253"
  | windows1254 => "windows-1254"
  | windows1255 => "windows-1255"
  | windows1256 => "windows-1256"
  | windows1257 => "windows-1257"
  | windows1258 => "windows-1258"
  | macCyrillic => "x-mac-cyrillic"
  | userDefined => "x-user-defined"

/-- The labels that name a charset, in lower case. -/
def labels : SingleByte → List String
  | ibm866 => ["866", "cp866", "ibm866", "csibm866"]
  | iso8859_2 => ["l2", "latin2", "iso88592", "iso8859-2", "iso-ir-101", "iso-8859-2",
      "iso_8859-2", "csisolatin2", "iso_8859-2:1987"]
  | iso8859_3 => ["l3", "latin3", "iso88593", "iso8859-3", "iso-8859-3", "iso_8859-3",
      "iso-ir-109", "csisolatin3", "iso_8859-3:1988"]
  | iso8859_4 => ["l4", "latin4", "iso88594", "iso8859-4", "iso-ir-110", "iso-8859-4",
      "iso_8859-4", "csisolatin4", "iso_8859-4:1988"]
  | iso8859_5 => ["iso88595", "cyrillic", "iso8859-5", "iso-ir-144", "iso-8859-5", "iso_8859-5",
      "iso_8859-5:1988", "csisolatincyrillic"]
  | iso8859_6 => ["arabic", "ecma-114", "iso88596", "asmo-708", "iso8859-6", "iso-8859-6",
      "iso_8859-6", "iso-ir-127", "csiso88596e", "csiso88596i", "iso-8859-6-e", "iso-8859-6-i",
      "iso_8859-6:1987", "csisolatinarabic"]
  | iso8859_7 => ["greek", "greek8", "iso88597", "ecma-118", "elot_928", "iso8859-7",
      "iso-ir-126", "iso-8859-7", "iso_8859-7", "sun_eu_greek", "iso_8859-7:1987",
      "csisolatingreek"]
  | iso8859_8 => ["visual", "hebrew", "iso88598", "iso8859-8", "iso-8859-8", "iso_8859-8",
      "iso-ir-138", "csiso88598e", "iso-8859-8-e", "iso_8859-8:1988", "csisolatinhebrew"]
  | iso8859_8I => ["logical", "csiso88598i", "iso-8859-8-i"]
  | iso8859_10 => ["l6", "latin6", "iso885910", "iso8859-10", "iso-ir-157", "iso-8859-10",
      "csisolatin6"]
  | iso8859_13 => ["iso885913", "iso8859-13", "iso-8859-13"]
  | iso8859_14 => ["iso885914", "iso8859-14", "iso-8859-14"]
  | iso8859_15 => ["l9", "iso885915", "iso8859-15", "iso-8859-15", "iso_8859-15", "csisolatin9"]
  | iso8859_16 => ["iso-8859-16"]
  | koi8R => ["koi", "koi8", "koi8-r", "koi8_r", "cskoi8r"]
  | koi8U => ["koi8-u", "koi8-ru"]
  | macintosh => ["mac", "macintosh", "csmacintosh", "x-mac-roman"]
  | windows874 => ["tis-620", "dos-874", "iso885911", "iso8859-11", "iso-8859-11", "windows-874"]
  | windows1250 => ["cp1250", "x-cp1250", "windows-1250"]
  | windows1251 => ["cp1251", "x-cp1251", "windows-1251"]
  | windows1252 => ["l1", "cp819", "ascii", "latin1", "cp1252", "ibm819", "iso88591", "x-cp1252",
      "us-ascii", "iso8859-1", "iso-ir-100", "iso-8859-1", "iso_8859-1", "csisolatin1",
      "windows-1252", "ansi_x3.4-1968", "iso_8859-1:1987"]
  | windows1253 => ["cp1253", "x-cp1253", "windows-1253"]
  | windows1254 => ["l5", "cp1254", "latin5", "x-cp1254", "iso88599", "iso8859-9", "iso-ir-148",
      "iso-8859-9", "iso_8859-9", "csisolatin5", "windows-1254", "iso_8859-9:1989"]
  | windows1255 => ["cp1255", "x-cp1255", "windows-1255"]
  | windows1256 => ["cp1256", "x-cp1256", "windows-1256"]
  | windows1257 => ["cp1257", "x-cp1257", "windows-1257"]
  | windows1258 => ["cp1258", "x-cp1258", "windows-1258"]
  | macCyrillic => ["x-mac-cyrillic", "x-mac-ukrainian"]
  | userDefined => ["x-user-defined"]

/-- The characters of the bytes from 0x80 on. -/
def upper : SingleByte → Index
  | ibm866 => .ofRows 4 Table.ibm866
  | iso8859_2 => .ofRows 4 Table.iso8859_2
  | iso8859_3 => .ofRows 4 Table.iso8859_3
  | iso8859_4 => .ofRows 4 Table.iso8859_4
  | iso8859_5 => .ofRows 4 Table.iso8859_5
  | iso8859_6 => .ofRows 4 Table.iso8859_6
  | iso8859_7 => .ofRows 4 Table.iso8859_7
  | iso8859_8 => .ofRows 4 Table.iso8859_8
  | iso8859_8I => .ofRows 4 Table.iso8859_8
  | iso8859_10 => .ofRows 4 Table.iso8859_10
  | iso8859_13 => .ofRows 4 Table.iso8859_13
  | iso8859_14 => .ofRows 4 Table.iso8859_14
  | iso8859_15 => .ofRows 4 Table.iso8859_15
  | iso8859_16 => .ofRows 4 Table.iso8859_16
  | koi8R => .ofRows 4 Table.koi8R
  | koi8U => .ofRows 4 Table.koi8U
  | macintosh => .ofRows 4 Table.macintosh
  | windows874 => .ofRows 4 Table.windows874
  | windows1250 => .ofRows 4 Table.windows1250
  | windows1251 => .ofRows 4 Table.windows1251
  | windows1252 => .ofRows 4 Table.windows1252
  | windows1253 => .ofRows 4 Table.windows1253
  | windows1254 => .ofRows 4 Table.windows1254
  | windows1255 => .ofRows 4 Table.windows1255
  | windows1256 => .ofRows 4 Table.windows1256
  | windows1257 => .ofRows 4 Table.windows1257
  | windows1258 => .ofRows 4 Table.windows1258
  | macCyrillic => .ofRows 4 Table.macCyrillic
  | userDefined => ⟨((List.range 128).map fun i => some (Char.ofNat (0xF780 + i))).toArray⟩

/-- The character of a byte. -/
def charOf? (charset : SingleByte) (b : UInt8) : Option Char :=
  if b < 0x80 then some (charOfByte b) else charset.upper.get? (b.toNat - 0x80)

/-- The byte of a character. -/
def byteOf? (charset : SingleByte) (c : Char) : Option UInt8 :=
  if c.toNat < 0x80 then some (UInt8.ofNat c.toNat)
  else (charset.upper.pointer? (fun _ => true) c).map fun p => UInt8.ofNat (0x80 + p)

/-- Reads a character from each byte. -/
def read (charset : SingleByte) : Reader := fun b _ => (charset.charOf? b).map ([·], 0)

/-- Writes a byte for each character. -/
def write (charset : SingleByte) : Writer := fun c => (charset.byteOf? c).map ([·])

end SingleByte

end JavaFormat
