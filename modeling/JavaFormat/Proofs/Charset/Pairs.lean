import JavaFormat.Charset.Basic
import JavaFormat.Proofs.Charset.Index
import JavaFormat.Proofs.Charset.RoundTrip

/-!
# Charsets of ASCII and pairs

EUC-KR and Big5 write ASCII in one byte and any other character in the pair of bytes of a pointer.
-/

set_option autoImplicit false

namespace JavaFormat.Charset

/-! ## One byte, two bytes -/

theorem toNat_charOfByte (b : UInt8) : (charOfByte b).toNat = b.toNat := by
  have hb := b.toNat_lt
  rw [charOfByte, Char.ofNat, dif_pos (Or.inl (by omega))]
  rfl

/-- Where one character is read, it is the character that is read. -/
theorem eq_some_of_read {found : Option Char} {n used : Nat} {cs : List Char} {c : Char}
    (h : found.map ([·], n) = some (cs, used)) (hc : c ∈ cs) : found = some c := by
  obtain ⟨d, rfl, hd⟩ := Option.map_eq_some_iff.1 h
  obtain ⟨rfl, -⟩ := Prod.mk.inj hd
  rw [List.mem_singleton.1 hc]

/-- The byte of the code of a character is read as the character where it is read by its code. -/
theorem readAs_byte {reader : Reader} {c : Char} (hc : c.toNat < 256)
    (h : ∀ b, b.toNat = c.toNat → ∀ rest, reader b rest = some ([charOfByte b], 0)) :
    ReadAs reader [UInt8.ofNat c.toNat] c := by
  have hb : (UInt8.ofNat c.toNat).toNat = c.toNat := by
    rw [UInt8.toNat_ofNat', Nat.mod_eq_of_lt hc]
  refine ⟨_, [], rfl, fun rest => ?_⟩
  rw [List.nil_append, h _ hb, charOfByte, hb, Char.ofNat_toNat]
  rfl

/-- Whether the bytes below 0x80 are read as the characters of ASCII. -/
def ReadsAscii (reader : Reader) : Prop :=
  ∀ b : UInt8, b < 0x80 → ∀ rest, reader b rest = some ([charOfByte b], 0)

theorem ReadsAscii.readAs {reader : Reader} (h : ReadsAscii reader) {c : Char}
    (hc : c.toNat < 0x80) : ReadAs reader [UInt8.ofNat c.toNat] c := by
  refine readAs_byte (by omega) fun b hb => h b ?_
  rw [UInt8.lt_iff_toNat_lt, hb]
  exact hc

/-- A pair of bytes is read as a character where the pointer of the pair is read as it. -/
theorem readAs_pair {reader : Reader} {cells : Cells} {c : Char} {p : Nat}
    (hp : p < cells.leads.count * cells.trails.count)
    (hleads : cells.leads.first + cells.leads.count + cells.leads.skip ≤ 256)
    (htrails : cells.trails.first + cells.trails.count + cells.trails.skip ≤ 256)
    (h : ∀ lead trail : UInt8, lead.toNat = cells.leads.byte (p / cells.trails.count) →
      trail.toNat = cells.trails.byte (p % cells.trails.count) →
      cells.pointer? lead trail = some p → ∀ rest, reader lead (trail :: rest) = some ([c], 1)) :
    ReadAs reader (cells.bytes p) c := by
  obtain ⟨lead, trail, hbytes, hlead, htrail, hpointer⟩ := Cells.pointer?_bytes hp hleads htrails
  exact ⟨lead, [trail], hbytes, h lead trail hlead htrail hpointer⟩

/-- The lead byte of a pair is no byte below the first one. -/
theorem not_lt_of_lead {cells : Cells} {lead : UInt8} {i : Nat}
    (h : lead.toNat = cells.leads.byte i) {b : UInt8} (hb : b.toNat ≤ cells.leads.first) :
    ¬lead < b := by
  rw [UInt8.lt_iff_toNat_lt, h]
  exact Nat.not_lt.2 (Nat.le_trans hb (ByteRun.first_le_byte _ _))

/-! ## EUC-KR -/

namespace EucKr

theorem lt_of_get? {p : Nat} {c : Char} (h : index.get? p = some c) :
    p < cells.leads.count * cells.trails.count :=
  Index.lt_of_get? (n := 23940) (by decide +kernel) (by decide +kernel) h

theorem readsAscii : ReadsAscii read := fun _ hb _ => if_pos hb

/-- EUC-KR reads back every character that it writes. -/
theorem readsBack (c : Char) : ReadsBack read write c := by
  intro bytes h
  unfold write at h
  split at h
  · rename_i hc
    obtain rfl := Option.some.inj h
    exact readsAscii.readAs hc
  · obtain ⟨p, hp, rfl⟩ := Option.map_eq_some_iff.1 h
    have hget := (Index.get?_of_pointer? hp).1
    refine readAs_pair (lt_of_get? hget) (by decide) (by decide)
      fun lead trail hlead _ hpointer rest => ?_
    have hread : read lead (trail :: rest) =
        ((cells.pointer? lead trail).bind index.get?).map ([·], 1) :=
      if_neg (not_lt_of_lead hlead (by decide))
    rw [hread, hpointer, Option.bind_some, hget]
    rfl

end EucKr

/-! ## Big5 -/

namespace Big5

theorem lt_of_get? {p : Nat} {c : Char} (h : index.get? p = some c) :
    p < cells.leads.count * cells.trails.count :=
  Index.lt_of_get? (n := 19782) (by decide +kernel) (by decide +kernel) h

/-- Above the pairs that are never written, a pointer stands for one character. -/
theorem charsAt?_of_le {p : Nat} (h : 0x20 * 157 ≤ p) :
    charsAt? p = (index.get? p).map ([·]) := by
  unfold charsAt?
  split <;> first | omega | rfl

/-- The characters that are written with the last of their pointers stand there. -/
theorem get?_of_mem_writtenLast {c : Char} {p : Nat} (h : (c, p) ∈ writtenLast) :
    index.get? p = some c ∧ 0x20 * 157 ≤ p := by
  have hall : ∀ x ∈ writtenLast, (Table.big5[x.2 / 16]?.bind fun row =>
      (Index.unpack 5 row)[x.2 % 16]?).join = some x.1 ∧ 0x20 * 157 ≤ x.2 := by
    decide +kernel
  rw [index, Index.get?_ofRows]
  exact hall (c, p) h

theorem get?_of_pointer? {c : Char} {p : Nat} (h : pointer? c = some p) :
    index.get? p = some c ∧ 0x20 * 157 ≤ p := by
  unfold pointer? at h
  split at h
  · rename_i last hlast
    obtain rfl := Option.some.inj h
    exact get?_of_mem_writtenLast (mem_of_lookup hlast)
  · obtain ⟨hget, hle⟩ := Index.get?_of_pointer? h
    exact ⟨hget, of_decide_eq_true hle⟩

theorem readsAscii : ReadsAscii read := fun _ hb _ => if_pos hb

/-- Big5 reads back every character that it writes. -/
theorem readsBack (c : Char) : ReadsBack read write c := by
  intro bytes h
  unfold write at h
  split at h
  · rename_i hc
    obtain rfl := Option.some.inj h
    exact readsAscii.readAs hc
  · obtain ⟨p, hp, rfl⟩ := Option.map_eq_some_iff.1 h
    obtain ⟨hget, hle⟩ := get?_of_pointer? hp
    refine readAs_pair (lt_of_get? hget) (by decide) (by decide)
      fun lead trail hlead _ hpointer rest => ?_
    have hread : read lead (trail :: rest) =
        ((cells.pointer? lead trail).bind charsAt?).map (·, 1) :=
      if_neg (not_lt_of_lead hlead (by decide))
    rw [hread, hpointer, Option.bind_some, charsAt?_of_le hle, hget]
    rfl

end Big5

end JavaFormat.Charset
