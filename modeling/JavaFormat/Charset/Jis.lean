import JavaFormat.Charset.Cells
import JavaFormat.Charset.Index
import JavaFormat.Charset.Stream
import JavaFormat.Charset.Table.Jis0208
import JavaFormat.Charset.Table.Jis0212

/-!
# The charsets of the Japanese standards

EUC-JP, Shift_JIS and ISO-2022-JP lay the characters of JIS X 0208 out in different bytes.
ISO-2022-JP uses only bytes below 0x80 and switches between its sets by escape sequences, so it
is read and written with a state, the current `Iso2022.Set`.
-/

set_option autoImplicit false

namespace JavaFormat.Charset

namespace Jis

/-- The characters of JIS X 0208 and its extensions. -/
def index0208 : Index := .ofRows 4 Table.jis0208

/-- The characters of JIS X 0212. -/
def index0212 : Index := .ofRows 4 Table.jis0212

/-- Half-width katakana, by their distance from the first of them. -/
def halfWidth (n : Nat) : Char := Char.ofNat (0xFF61 + n)

/-- The distance of a half-width katakana from the first of them. -/
def halfWidthPlace? (c : Char) : Option Nat :=
  if 0xFF61 ≤ c.toNat ∧ c.toNat ≤ 0xFF9F then some (c.toNat - 0xFF61) else none

/-- The characters that the half-width katakana are written as where there is no room for them. -/
def fullWidth : List Char :=
  ['。', '「', '」', '、', '・', 'ヲ', 'ァ', 'ィ', 'ゥ', 'ェ', 'ォ', 'ャ', 'ュ', 'ョ', 'ッ',
   'ー', 'ア', 'イ', 'ウ', 'エ', 'オ', 'カ', 'キ', 'ク', 'ケ', 'コ', 'サ', 'シ', 'ス', 'セ',
   'ソ', 'タ', 'チ', 'ツ', 'テ', 'ト', 'ナ', 'ニ', 'ヌ', 'ネ', 'ノ', 'ハ', 'ヒ', 'フ', 'ヘ',
   'ホ', 'マ', 'ミ', 'ム', 'メ', 'モ', 'ヤ', 'ユ', 'ヨ', 'ラ', 'リ', 'ル', 'レ', 'ロ', 'ワ',
   'ン', '゛', '゜']

/-- The yen sign and the overline, which take the places of the backslash and the tilde. -/
def romanByte? (c : Char) : Option UInt8 :=
  if c = '\u00A5' then some 0x5C else if c = '\u203E' then some 0x7E else none

/-- The minus sign is written as its full-width form. -/
def foldMinus (c : Char) : Char := if c = '\u2212' then '\uFF0D' else c

/-- Whether a pointer is within the 94 rows of the standard. -/
def inRows (pointer : Nat) : Bool := decide (pointer < 94 * 94)

end Jis

namespace EucJp

open Jis

/-- The pairs of bytes. -/
def cells : Cells := ⟨.plain 0xA1 94, .plain 0xA1 94⟩

/-- Reads one, two or three bytes. -/
def read : Reader := fun b rest =>
  if b < 0x80 then some ([charOfByte b], 0)
  else
    match rest with
    | [] => none
    | b₂ :: rest =>
      if b = 0x8E then
        if 0xA1 ≤ b₂ ∧ b₂ ≤ 0xDF then some ([halfWidth (b₂.toNat - 0xA1)], 1) else none
      else if b = 0x8F then
        match rest with
        | [] => none
        | b₃ :: _ => ((cells.pointer? b₂ b₃).bind index0212.get?).map ([·], 2)
      else ((cells.pointer? b b₂).bind index0208.get?).map ([·], 1)

/-- Writes one or two bytes. -/
def write : Writer := fun c =>
  if c.toNat < 0x80 then some [UInt8.ofNat c.toNat]
  else
    match romanByte? c with
    | some b => some [b]
    | none =>
      match halfWidthPlace? c with
      | some n => some [0x8E, UInt8.ofNat (0xA1 + n)]
      | none => (index0208.pointer? inRows (foldMinus c)).map cells.bytes

end EucJp

namespace ShiftJis

open Jis

/-- The pairs of bytes. -/
def cells : Cells := ⟨⟨0x81, 0x1F, 0x40, 60⟩, ⟨0x40, 0x3F, 1, 188⟩⟩

/-- The character of a pair: the rows from 94 to 113 are for private use. -/
def charAt? (pointer : Nat) : Option Char :=
  if 8836 ≤ pointer ∧ pointer ≤ 10715 then some (Char.ofNat (0xE000 + (pointer - 8836)))
  else index0208.get? pointer

/-- Reads one or two bytes. -/
def read : Reader := fun b rest =>
  if b ≤ 0x80 then some ([charOfByte b], 0)
  else if 0xA1 ≤ b ∧ b ≤ 0xDF then some ([halfWidth (b.toNat - 0xA1)], 0)
  else
    match rest with
    | [] => none
    | trail :: _ => ((cells.pointer? b trail).bind charAt?).map ([·], 1)

/-- Writes one or two bytes.  The extensions in the rows 88 to 93 are written by their other
pointers. -/
def write : Writer := fun c =>
  if c.toNat ≤ 0x80 then some [UInt8.ofNat c.toNat]
  else
    match romanByte? c with
    | some b => some [b]
    | none =>
      match halfWidthPlace? c with
      | some n => some [UInt8.ofNat (0xA1 + n)]
      | none =>
        (index0208.pointer? (fun p => decide (p < 8272 ∨ 8835 < p)) (foldMinus c)).map cells.bytes

end ShiftJis

namespace Iso2022Jp

open Jis

/-- The sets that an escape sequence switches to. -/
inductive Set where
  /-- ASCII. -/
  | ascii
  /-- ASCII with the yen sign for the backslash and the overline for the tilde. -/
  | roman
  /-- The half-width katakana. -/
  | katakana
  /-- The pairs of JIS X 0208. -/
  | jis0208
  deriving DecidableEq, Repr

/-- The pairs of bytes. -/
def cells : Cells := ⟨.plain 0x21 94, .plain 0x21 94⟩

/-- The set that two bytes after an escape switch to. -/
def setOf? (b₁ b₂ : UInt8) : Option Set :=
  if b₁ = 0x28 ∧ b₂ = 0x42 then some .ascii
  else if b₁ = 0x28 ∧ b₂ = 0x4A then some .roman
  else if b₁ = 0x28 ∧ b₂ = 0x49 then some .katakana
  else if b₁ = 0x24 ∧ (b₂ = 0x40 ∨ b₂ = 0x42) then some .jis0208
  else none

/-- Whether a byte of ASCII has no meaning of its own in a text: an escape or a shift. -/
def isControl (n : Nat) : Bool := n == 0x0E || n == 0x0F || n == 0x1B

/-- Reads a character in a set: the character, and how many bytes after the first belong to it. -/
def readIn (set : Set) (b : UInt8) (rest : List UInt8) : Option (Char × Nat) :=
  match set with
  | .ascii => if b < 0x80 ∧ ¬isControl b.toNat then some (charOfByte b, 0) else none
  | .roman =>
    if b = 0x5C then some ('\u00A5', 0)
    else if b = 0x7E then some ('\u203E', 0)
    else if b < 0x80 ∧ ¬isControl b.toNat then some (charOfByte b, 0) else none
  | .katakana => if 0x21 ≤ b ∧ b ≤ 0x5F then some (halfWidth (b.toNat - 0x21), 0) else none
  | .jis0208 =>
    match rest with
    | [] => none
    | trail :: _ => ((cells.pointer? b trail).bind index0208.get?).map (·, 1)

/-- The characters of some bytes read in a set, after those of `read`, which are in reverse.
`switched` says whether the set was just switched; a set must hold a character before the next
switch. -/
def decodeInto (set : Set) (switched : Bool) (read : List Char) :
    List UInt8 → Option (List Char)
  | [] => some read.reverse
  | b :: rest =>
    if b = 0x1B then
      match rest with
      | b₁ :: b₂ :: rest =>
        match setOf? b₁ b₂ with
        | some next => if switched then none else decodeInto next true read rest
        | none => none
      | _ => none
    else
      match readIn set b rest with
      | none => none
      | some (c, used) => decodeInto set false (c :: read) (rest.drop used)
termination_by bytes => bytes.length
decreasing_by
  · simp only [List.length_cons]; omega
  · simp only [List.length_drop, List.length_cons]; omega

/-- The characters of some bytes, from ASCII. -/
def decode (bytes : List UInt8) : Option (List Char) := decodeInto .ascii false [] bytes

/-- The escape sequence that switches to a set. -/
def escape : Set → List UInt8
  | .ascii => [0x1B, 0x28, 0x42]
  | .roman => [0x1B, 0x28, 0x4A]
  | .katakana => [0x1B, 0x28, 0x49]
  | .jis0208 => [0x1B, 0x24, 0x42]

/-- The escape sequence that is needed to get from one set to another. -/
def switch (current next : Set) : List UInt8 := if current = next then [] else escape next

/-- The full-width form of a half-width katakana, any other character as it is. -/
def widen (c : Char) : Char :=
  match halfWidthPlace? c with
  | some n => fullWidth.getD n c
  | none => c

/-- The set that a character is written in after another one, and its bytes there. -/
def place? (current : Set) (c : Char) : Option (Set × List UInt8) :=
  if c.toNat < 0x80 then
    if isControl c.toNat then none
    else if current = .roman ∧ c ≠ '\\' ∧ c ≠ '~' then some (.roman, [UInt8.ofNat c.toNat])
    else some (.ascii, [UInt8.ofNat c.toNat])
  else
    match romanByte? c with
    | some b => some (.roman, [b])
    | none =>
      (index0208.pointer? inRows (widen (foldMinus c))).map fun pointer =>
        (.jis0208, cells.bytes pointer)

/-- The bytes of some characters written from a set, after those of `written`, which are in
reverse; a text ends in ASCII. -/
def encodeInto (set : Set) (written : List (List UInt8)) : List Char → Option (List UInt8)
  | [] => some (written.reverse.flatten ++ switch set .ascii)
  | c :: cs =>
    match place? set c with
    | none => none
    | some (next, bytes) => encodeInto next ((switch set next ++ bytes) :: written) cs

/-- The bytes of some characters, from ASCII. -/
def encode (cs : List Char) : Option (List UInt8) := encodeInto .ascii [] cs

end Iso2022Jp

end JavaFormat.Charset
