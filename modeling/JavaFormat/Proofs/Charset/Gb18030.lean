import JavaFormat.Proofs.Charset.Pairs
import Mathlib.Data.List.Chain

/-!
# GB 18030 and GBK

Both read back what they write, of the characters that they read at all (`readsBack`).  The others
are the private-use characters for which a pair stands that now reads as another character
(`Gb18030.legacyPairs`): no bytes are read as one of these, neither a pair (`not_legacy_of_get?`)
nor four bytes (`not_legacy_of_quadChar?`).

The four bytes of a character are those that are read as it, since a search of the ranges by code
point ends at the range where the search by pointer ended (`find?_range`).
-/

set_option autoImplicit false

namespace JavaFormat.Charset.Gb18030

/-! ## Pairs -/

theorem lt_of_get? {p : Nat} {c : Char} (h : index.get? p = some c) :
    p < cells.leads.count * cells.trails.count :=
  Index.lt_of_get? (n := 23940) (by decide +kernel) (by decide +kernel) h

theorem get?_euro : index.get? 6432 = some '€' := by
  rw [index, Index.get?_ofRows]
  decide +kernel

/-- No pair is read as a private-use character for which another pair stands. -/
theorem not_legacy_of_get? {p : Nat} {c : Char} (h : index.get? p = some c) :
    c.toNat ∉ legacyPairs.map Prod.fst := by
  have hall := Index.of_all_codes 65536 (fun code => Nat.blt code 0xE78D ||
    Nat.blt 0xE864 code || !(legacyPairs.map Prod.fst).any (Nat.beq code)) (by decide) (by decide)
    (by decide +kernel) h
  intro hmem
  have hbounds : ∀ code ∈ legacyPairs.map Prod.fst, 0xE78D ≤ code ∧ code ≤ 0xE864 := by decide
  have hany : (legacyPairs.map Prod.fst).any (Nat.beq c.toNat) = true :=
    List.any_eq_true.2 ⟨_, hmem, Nat.beq_refl _⟩
  obtain ⟨hlow, hhigh⟩ := hbounds _ hmem
  rw [hany] at hall
  simp [Nat.blt_eq] at hall
  omega

/-! ## Four bytes -/

/-- Whether a range ends before another one, both in pointers and in code points. -/
def Precedes (a b : Nat × Nat) : Prop := a.2 + (b.1 - a.1) ≤ b.2

instance : DecidableRel Precedes := fun _ _ => inferInstanceAs (Decidable (_ ≤ _))

instance : Trans Precedes Precedes Precedes := ⟨fun h h' => by unfold Precedes at *; omega⟩

theorem pairwise_ranges : Table.gb18030Ranges.Pairwise Precedes :=
  List.IsChain.pairwise (by decide +kernel)

/-- **A range is found by code point where it was found by pointer.** -/
theorem find?_range {ranges : List (Nat × Nat)} (hranges : ranges.Pairwise Precedes) {q : Nat}
    {range : Nat × Nat} (h : ranges.reverse.find? (fun x => x.1 ≤ q) = some range) :
    range.1 ≤ q ∧
      ranges.reverse.find? (fun x => x.2 ≤ range.2 + (q - range.1)) = some range := by
  obtain ⟨hle, later, earlier, hsplit, hlater⟩ := List.find?_eq_some_iff_append.1 h
  have hle : range.1 ≤ q := of_decide_eq_true hle
  refine ⟨hle, List.find?_eq_some_iff_append.2 ⟨by simp, later, earlier, hsplit, fun x hx => ?_⟩⟩
  have hq := hlater x hx
  have hpairs := List.pairwise_reverse.2 hranges
  rw [hsplit] at hpairs
  have hx := (List.pairwise_append.1 hpairs).2.2 x hx range List.mem_cons_self
  simp only [Precedes, Bool.not_eq_true', decide_eq_false_iff_not, Nat.not_le] at hx hq ⊢
  omega

/-- A character that is read from four bytes is written as four bytes that are read as it. -/
theorem quadChar?_of_quadPointer? {q : Nat} {c : Char} (h : quadChar? q = some c)
    (hc : c.toNat ≠ 0) :
    ∃ p, quadPointer? c = some p ∧ p ≤ 1237575 ∧ quadChar? p = some c := by
  by_cases hprivate : c.toNat = 0xE7C7
  · refine ⟨7457, by rw [quadPointer?, if_pos hprivate], by decide, ?_⟩
    rw [quadChar?, if_pos rfl, ← hprivate, Char.ofNat_toNat]
  suffices hq : quadPointer? c = some q ∧ q ≤ 1237575 from ⟨q, hq.1, hq.2, h⟩
  unfold quadChar? at h
  unfold quadPointer?
  rw [if_neg hprivate]
  split at h
  · obtain rfl := Option.some.inj h
    exact absurd (by decide) hprivate
  · split at h
    · rename_i hlow
      obtain ⟨range, hfind, rfl⟩ := Option.map_eq_some_iff.1 h
      obtain ⟨hle, hcode⟩ := find?_range pairwise_ranges hfind
      rw [toNat_ofNat_of_ne hc]
      have hbasic : ∀ x ∈ Table.gb18030Ranges, x.2 + (39420 - x.1) ≤ 0x10000 := by decide +kernel
      have hlt := hbasic range (List.mem_reverse.1 (List.mem_of_find?_eq_some hfind))
      rw [if_neg (by omega), hcode, Option.map_some]
      exact ⟨congrArg some (by omega), by omega⟩
    · split at h
      · rename_i hhigh
        obtain rfl := Option.some.inj h
        rw [toNat_ofNat_of_ne hc, if_pos (by omega)]
        exact ⟨congrArg some (by omega), hhigh.2⟩
      · cases h

/-- No four bytes are read as a private-use character for which a pair stands. -/
theorem not_legacy_of_quadChar? {q : Nat} {c : Char} (h : quadChar? q = some c) :
    c.toNat ∉ legacyPairs.map Prod.fst := by
  have hnone : ∀ code ∈ legacyPairs.map Prod.fst, code ≠ 0 ∧
      (quadPointer? (Char.ofNat code)).bind quadChar? ≠ some (Char.ofNat code) := by
    decide +kernel
  intro hmem
  obtain ⟨hne, hquad⟩ := hnone _ hmem
  obtain ⟨p, hp, -, hc⟩ := quadChar?_of_quadPointer? h hne
  rw [Char.ofNat_toNat, hp] at hquad
  exact hquad hc

/-- A byte that leads a pair or four bytes stands for nothing on its own. -/
theorem of_lead {b : UInt8} (h : 0x81 ≤ b.toNat ∧ b.toNat ≤ 0xFE) :
    ¬b < 0x80 ∧ b ≠ 0x80 ∧ b ≠ 0xFF := by
  refine ⟨?_, fun he => by simp [he] at h, fun he => by simp [he] at h⟩
  rw [UInt8.lt_iff_toNat_lt]
  exact Nat.not_lt.2 (Nat.le_trans (by decide) h.1)

theorem read_quad {b₁ b₂ b₃ b₄ : UInt8} (h₁ : 0x81 ≤ b₁.toNat ∧ b₁.toNat ≤ 0xFE)
    (h₂ : 0x30 ≤ b₂.toNat ∧ b₂.toNat ≤ 0x39) (h₃ : 0x81 ≤ b₃.toNat ∧ b₃.toNat ≤ 0xFE)
    (h₄ : 0x30 ≤ b₄.toNat ∧ b₄.toNat ≤ 0x39) (rest : List UInt8) :
    read b₁ (b₂ :: b₃ :: b₄ :: rest) = (quadChar? (quadPointer b₁ b₂ b₃ b₄)).map ([·], 3) := by
  obtain ⟨hascii, heuro, hlast⟩ := of_lead h₁
  have hsecond : 0x30 ≤ b₂ ∧ b₂ ≤ 0x39 := by simpa [UInt8.le_iff_toNat_le] using h₂
  have hothers : 0x81 ≤ b₃ ∧ b₃ ≤ 0xFE ∧ 0x30 ≤ b₄ ∧ b₄ ≤ 0x39 := by
    simpa [UInt8.le_iff_toNat_le, and_assoc] using And.intro h₃ h₄
  simp only [read]
  rw [if_neg hascii, if_neg heuro, if_neg hlast, if_pos hsecond, if_pos hothers]

theorem read_two {b₁ b₂ : UInt8} (h₁ : 0x81 ≤ b₁.toNat ∧ b₁.toNat ≤ 0xFE)
    (h₂ : 0x40 ≤ b₂.toNat) (rest : List UInt8) :
    read b₁ (b₂ :: rest) = ((cells.pointer? b₁ b₂).bind index.get?).map ([·], 1) := by
  obtain ⟨hascii, heuro, hlast⟩ := of_lead h₁
  have hsecond : ¬(0x30 ≤ b₂ ∧ b₂ ≤ 0x39) := by
    simp only [UInt8.le_iff_toNat_le, UInt8.toNat_ofNat]
    omega
  simp only [read]
  rw [if_neg hascii, if_neg heuro, if_neg hlast, if_neg hsecond]

/-- **The four bytes of a pointer** are read as the character there. -/
theorem readAs_quad {p : Nat} {c : Char} (hp : p ≤ 1237575) (hc : quadChar? p = some c) :
    ReadAs read (quadBytes p) c := by
  have hbyte : ∀ n : Nat, n < 256 → (UInt8.ofNat n).toNat = n := fun n hn => by
    rw [UInt8.toNat_ofNat', Nat.mod_eq_of_lt hn]
  have h₁ := hbyte (p / 12600 + 0x81) (by omega)
  have h₂ := hbyte (p % 12600 / 1260 + 0x30) (by omega)
  have h₃ := hbyte (p % 1260 / 10 + 0x81) (by omega)
  have h₄ := hbyte (p % 10 + 0x30) (by omega)
  refine ⟨_, _, rfl, fun rest => ?_⟩
  have hpointer : quadPointer (UInt8.ofNat (p / 12600 + 0x81))
      (UInt8.ofNat (p % 12600 / 1260 + 0x30)) (UInt8.ofNat (p % 1260 / 10 + 0x81))
      (UInt8.ofNat (p % 10 + 0x30)) = p := by
    rw [quadPointer, h₁, h₂, h₃, h₄]
    omega
  rw [List.cons_append, List.cons_append, List.singleton_append, read_quad (by omega) (by omega)
    (by omega) (by omega), hpointer, hc]
  rfl

/-! ## Characters -/

/-- What a character that is read is read from. -/
theorem cases_of_reads {c : Char} (h : Reads read c) :
    c.toNat < 0x80 ∨ c = '€' ∨ (∃ p, index.get? p = some c) ∨ ∃ q, quadChar? q = some c := by
  obtain ⟨b, rest, cs, used, h, hc⟩ := h
  simp only [read] at h
  split at h
  · rename_i hb
    cases h
    rw [List.mem_singleton.1 hc, toNat_charOfByte]
    exact Or.inl (UInt8.lt_iff_toNat_lt.1 hb)
  split at h
  · cases h
    exact Or.inr (Or.inl (List.mem_singleton.1 hc))
  split at h
  · cases h
  split at h
  · cases h
  split at h
  · split at h
    · split at h
      · exact Or.inr (Or.inr (Or.inr ⟨_, eq_some_of_read h hc⟩))
      · cases h
    · cases h
  · obtain ⟨p, -, hp⟩ := Option.bind_eq_some_iff.1 (eq_some_of_read h hc)
    exact Or.inr (Or.inr (Or.inl ⟨p, hp⟩))

theorem readsAscii : ReadsAscii read := fun _ hb _ => if_pos hb

/-- **GB 18030 and GBK read back** every character that they read at all. -/
theorem readsBack {c : Char} (hreads : Reads read c) (quads : Bool) :
    ReadsBack read (writeAs quads) c := by
  intro bytes h
  unfold writeAs at h
  split at h
  · rename_i hc
    obtain rfl := Option.some.inj h
    exact readsAscii.readAs hc
  rename_i hascii
  split at h
  · cases h
  split at h
  · rename_i heuro
    obtain rfl := Option.some.inj h
    exact ⟨0x80, [], rfl, fun rest => by rw [heuro.1]; rfl⟩
  split at h
  · rename_i pair hpair
    have hmem : c.toNat ∈ legacyPairs.map Prod.fst :=
      List.mem_map.2 ⟨_, mem_of_lookup hpair, rfl⟩
    rcases cases_of_reads hreads with hc | rfl | ⟨p, hp⟩ | ⟨q, hq⟩
    · exact absurd hc hascii
    · exact absurd hmem (by decide)
    · exact absurd hmem (not_legacy_of_get? hp)
    · exact absurd hmem (not_legacy_of_quadChar? hq)
  split at h
  · rename_i p hp
    obtain rfl := Option.some.inj h
    have hget := (Index.get?_of_pointer? hp).1
    refine readAs_pair (lt_of_get? hget) (by decide) (by decide)
      fun lead trail hlead htrail hpointer rest => ?_
    have hrow : p / cells.trails.count < cells.leads.count :=
      (Nat.div_lt_iff_lt_mul (by decide)).2 (lt_of_get? hget)
    have hbounds : 0x81 ≤ lead.toNat ∧ lead.toNat ≤ 0xFE := by
      rw [hlead]
      exact ⟨ByteRun.first_le_byte cells.leads _, Nat.le_of_lt_succ (ByteRun.byte_lt hrow)⟩
    have hsecond : 0x40 ≤ trail.toNat := by
      rw [htrail]
      exact ByteRun.first_le_byte cells.trails _
    rw [read_two hbounds hsecond, hpointer, Option.bind_some, hget]
    rfl
  · rename_i hnone
    split at h
    · obtain ⟨p, hp, rfl⟩ := Option.map_eq_some_iff.1 h
      have hmissing : ∀ i, index.get? i ≠ some c := fun i hi => by
        obtain ⟨j, hj⟩ := Index.exists_pointer? (fun _ => true) hi rfl
        rw [hnone] at hj
        cases hj
      rcases cases_of_reads hreads with hc | rfl | ⟨i, hi⟩ | ⟨q, hq⟩
      · exact absurd hc hascii
      · exact absurd get?_euro (hmissing _)
      · exact absurd hi (hmissing i)
      · obtain ⟨p', hp', hle, hquad⟩ := quadChar?_of_quadPointer? hq (by omega)
        rw [hp] at hp'
        obtain rfl := Option.some.inj hp'
        exact readAs_quad hle hquad
    · cases h

end JavaFormat.Charset.Gb18030
