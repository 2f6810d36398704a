import JavaFormat.Charset.Cells
import JavaFormat.Charset.Index
import JavaFormat.Charset.Stream
import JavaFormat.Charset.Table.EucKr

/-!
# EUC-KR

A byte below 0x80 is ASCII, any other character a pair of bytes.
-/

set_option autoImplicit false

namespace JavaFormat.Charset.EucKr

/-- The characters of the pairs. -/
def index : Index := .ofRows 4 Table.eucKr

/-- The pairs of bytes. -/
def cells : Cells := ⟨.plain 0x81 126, .plain 0x41 190⟩

/-- Reads one or two bytes. -/
def read : Reader := fun b rest =>
  if b < 0x80 then some ([charOfByte b], 0)
  else
    match rest with
    | [] => none
    | trail :: _ => ((cells.pointer? b trail).bind index.get?).map ([·], 1)

/-- Writes one or two bytes. -/
def write : Writer := fun c =>
  if c.toNat < 0x80 then some [UInt8.ofNat c.toNat]
  else (index.pointer? (fun _ => true) c).map cells.bytes

end JavaFormat.Charset.EucKr
