import JavaFormat.Charset.Cells
import JavaFormat.Charset.Index
import JavaFormat.Charset.Stream
import JavaFormat.Charset.Table.Gb18030
import JavaFormat.Charset.Table.Gb18030Ranges

/-!
# GB 18030 and GBK

Both read the same: a byte below 0x80, the byte 0x80 for the euro sign, a pair of bytes through the
two-byte table, or four bytes through the ranges that reach the rest of Unicode.  They write
differently: GBK has no four-byte forms and writes the euro sign as one byte.
-/

set_option autoImplicit false

namespace JavaFormat.Charset.Gb18030

/-- The characters of the pairs. -/
def index : Index := .ofRows 4 Table.gb18030

/-- The pairs of bytes. -/
def cells : Cells := ⟨.plain 0x81 126, ⟨0x40, 0x3F, 1, 190⟩⟩

/-- The pointer of four bytes, the second and fourth of which are digits. -/
def quadPointer (b₁ b₂ b₃ b₄ : UInt8) : Nat :=
  (((b₁.toNat - 0x81) * 10 + (b₂.toNat - 0x30)) * 126 + (b₃.toNat - 0x81)) * 10 +
    (b₄.toNat - 0x30)

/-- The four bytes of a pointer. -/
def quadBytes (pointer : Nat) : List UInt8 :=
  [UInt8.ofNat (pointer / 12600 + 0x81), UInt8.ofNat (pointer % 12600 / 1260 + 0x30),
    UInt8.ofNat (pointer % 1260 / 10 + 0x81), UInt8.ofNat (pointer % 10 + 0x30)]

/-- The character at a pointer of four bytes.  Those up to 39419 are in the basic plane, in ranges;
those from 189000 on are in the others, in order. -/
def quadChar? (pointer : Nat) : Option Char :=
  if pointer = 7457 then some (Char.ofNat 0xE7C7)
  else if pointer ≤ 39419 then
    (Table.gb18030Ranges.reverse.find? fun range => range.1 ≤ pointer).map fun range =>
      Char.ofNat (range.2 + (pointer - range.1))
  else if 189000 ≤ pointer ∧ pointer ≤ 1237575 then
    some (Char.ofNat (0x10000 + (pointer - 189000)))
  else none

/-- The pointer of four bytes of a character that no pair stands for. -/
def quadPointer? (c : Char) : Option Nat :=
  if c.toNat = 0xE7C7 then some 7457
  else if 0x10000 ≤ c.toNat then some (189000 + (c.toNat - 0x10000))
  else
    (Table.gb18030Ranges.reverse.find? fun range => range.2 ≤ c.toNat).map fun range =>
      range.1 + (c.toNat - range.2)

/-- Private-use characters for which a pair stands that now reads as another character. -/
def legacyPairs : List (Nat × List UInt8) :=
  [(0xE78D, [0xA6, 0xD9]), (0xE78E, [0xA6, 0xDA]), (0xE78F, [0xA6, 0xDB]), (0xE790, [0xA6, 0xDC]),
   (0xE791, [0xA6, 0xDD]), (0xE792, [0xA6, 0xDE]), (0xE793, [0xA6, 0xDF]), (0xE794, [0xA6, 0xEC]),
   (0xE795, [0xA6, 0xED]), (0xE796, [0xA6, 0xF3]), (0xE81E, [0xFE, 0x59]), (0xE826, [0xFE, 0x61]),
   (0xE82B, [0xFE, 0x66]), (0xE82C, [0xFE, 0x67]), (0xE832, [0xFE, 0x6D]), (0xE843, [0xFE, 0x7E]),
   (0xE854, [0xFE, 0x90]), (0xE864, [0xFE, 0xA0])]

/-- Reads one, two or four bytes. -/
def read : Reader := fun b rest =>
  if b < 0x80 then some ([charOfByte b], 0)
  else if b = 0x80 then some (['€'], 0)
  else if b = 0xFF then none
  else
    match rest with
    | [] => none
    | b₂ :: rest =>
      if 0x30 ≤ b₂ ∧ b₂ ≤ 0x39 then
        match rest with
        | b₃ :: b₄ :: _ =>
          if 0x81 ≤ b₃ ∧ b₃ ≤ 0xFE ∧ 0x30 ≤ b₄ ∧ b₄ ≤ 0x39 then
            (quadChar? (quadPointer b b₂ b₃ b₄)).map ([·], 3)
          else none
        | _ => none
      else ((cells.pointer? b b₂).bind index.get?).map ([·], 1)

/-- Writes a character as GBK does, or, if `quads`, as GB 18030. -/
def writeAs (quads : Bool) : Writer := fun c =>
  if c.toNat < 0x80 then some [UInt8.ofNat c.toNat]
  else if c.toNat = 0xE5E5 then none
  else if c = '€' ∧ ¬quads then some [0x80]
  else
    match legacyPairs.lookup c.toNat with
    | some pair => some pair
    | none =>
      match index.pointer? (fun _ => true) c with
      | some pointer => some (cells.bytes pointer)
      | none => if quads then (quadPointer? c).map quadBytes else none

end JavaFormat.Charset.Gb18030
