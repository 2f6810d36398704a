import JavaFormat.Charset.Cells
import JavaFormat.Charset.Index
import JavaFormat.Charset.Stream
import JavaFormat.Charset.Table.Big5

/-!
# Big5

A byte below 0x80 is ASCII, any other character a pair of bytes.  Four pairs stand for a letter with
a combining mark.  The pairs with a lead byte below 0xA1 are read but never written.
-/

set_option autoImplicit false

namespace JavaFormat.Charset.Big5

/-- The characters of the pairs. -/
def index : Index := .ofRows 5 Table.big5

/-- The pairs of bytes. -/
def cells : Cells := ⟨.plain 0x81 126, ⟨0x40, 0x3F, 0x22, 157⟩⟩

/-- The characters at a pointer. -/
def charsAt? (pointer : Nat) : Option (List Char) :=
  match pointer with
  | 1133 => some ['\u00CA', '\u0304']
  | 1135 => some ['\u00CA', '\u030C']
  | 1164 => some ['\u00EA', '\u0304']
  | 1166 => some ['\u00EA', '\u030C']
  | _ => (index.get? pointer).map ([·])

/-- Characters that are written with the last of their pointers. -/
def writtenLast : List (Char × Nat) :=
  [('═', 18991), ('╞', 18975), ('╡', 18977), ('╪', 18976), ('十', 5512), ('卅', 5599)]

/-- The pointer that a character is written with. -/
def pointer? (c : Char) : Option Nat :=
  match writtenLast.lookup c with
  | some pointer => some pointer
  | none => index.pointer? (fun p => decide (0x20 * 157 ≤ p)) c

/-- Reads one or two bytes. -/
def read : Reader := fun b rest =>
  if b < 0x80 then some ([charOfByte b], 0)
  else
    match rest with
    | [] => none
    | trail :: _ => ((cells.pointer? b trail).bind charsAt?).map (·, 1)

/-- Writes one or two bytes. -/
def write : Writer := fun c =>
  if c.toNat < 0x80 then some [UInt8.ofNat c.toNat] else (pointer? c).map cells.bytes

end JavaFormat.Charset.Big5
