/-!
# Pairs of bytes

A double-byte charset lays the pointers of an index out in a grid: the lead byte gives the row and
the trail byte the cell.  Both run through consecutive bytes with at most one gap, a `ByteRun`,
in which every place has a byte and every byte one place (`place?_byte`, `byte_of_place?`).
`Cells.bytes` and `Cells.pointer?` go from a pointer to its pair and back.
-/

set_option autoImplicit false

namespace JavaFormat.Charset

/-- Consecutive bytes with a gap: `count` bytes from `first` on, of which those at place `gap` and
later are moved up by `skip`. -/
structure ByteRun where
  /-- The first byte. -/
  first : Nat
  /-- The place from which on bytes are moved. -/
  gap : Nat
  /-- How far they are moved. -/
  skip : Nat
  /-- How many bytes there are. -/
  count : Nat

namespace ByteRun

/-- The run of `count` bytes from `first` on. -/
def plain (first count : Nat) : ByteRun := ⟨first, count, 0, count⟩

/-- The byte at a place. -/
def byte (run : ByteRun) (i : Nat) : Nat := run.first + i + if i < run.gap then 0 else run.skip

/-- The place of a byte. -/
def place? (run : ByteRun) (b : Nat) : Option Nat :=
  if b < run.first then none
  else
    let d := b - run.first
    if d < run.gap then (if d < run.count then some d else none)
    else if d < run.gap + run.skip then none
    else if d - run.skip < run.count then some (d - run.skip) else none

theorem place?_byte {run : ByteRun} {i : Nat} (h : i < run.count) :
    run.place? (run.byte i) = some i := by
  unfold place? byte
  by_cases hg : i < run.gap
  · have : run.first + i + 0 - run.first = i := by omega
    simp [hg, h]
  · have h1 : run.first + i + run.skip - run.first = i + run.skip := by omega
    rw [if_neg hg, if_neg (by omega)]
    simp only [h1]
    rw [if_neg (by omega), if_neg (by omega), Nat.add_sub_cancel, if_pos h]

theorem byte_of_place? {run : ByteRun} {b i : Nat} (h : run.place? b = some i) :
    run.byte i = b ∧ i < run.count := by
  unfold place? at h
  unfold byte
  by_cases h0 : b < run.first
  · simp [h0] at h
  · simp only [h0, if_false] at h
    by_cases h1 : b - run.first < run.gap
    · simp only [h1, if_true] at h
      split at h
      · obtain rfl := Option.some.inj h
        refine ⟨?_, by omega⟩
        rw [if_pos h1]; omega
      · simp at h
    · simp only [h1, if_false] at h
      split at h
      · simp at h
      · split at h
        · obtain rfl := Option.some.inj h
          refine ⟨?_, by omega⟩
          rw [if_neg (by omega)]; omega
        · simp at h

end ByteRun

/-- A grid of pairs of bytes. -/
structure Cells where
  /-- The lead bytes, one for each row. -/
  leads : ByteRun
  /-- The trail bytes, one for each cell of a row. -/
  trails : ByteRun

namespace Cells

/-- The pair of bytes of a pointer. -/
def bytes (cells : Cells) (pointer : Nat) : List UInt8 :=
  [UInt8.ofNat (cells.leads.byte (pointer / cells.trails.count)),
    UInt8.ofNat (cells.trails.byte (pointer % cells.trails.count))]

/-- The pointer of a pair of bytes. -/
def pointer? (cells : Cells) (lead trail : UInt8) : Option Nat :=
  match cells.leads.place? lead.toNat, cells.trails.place? trail.toNat with
  | some row, some cell => some (row * cells.trails.count + cell)
  | _, _ => none

end Cells

end JavaFormat.Charset
