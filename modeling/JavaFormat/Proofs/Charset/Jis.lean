import JavaFormat.Proofs.Charset.Pairs

/-!
# The charsets of the Japanese standards

EUC-JP and Shift_JIS read back what they write, of the characters that they read at all; the others
are the yen sign, the overline and the minus sign, which are written as other characters
(`Jis.IsOwn`).  ISO-2022-JP reads the yen sign and the overline, and it reads the half-width
katakana, but it writes these as their full-width forms (`Iso2022Jp.decode_encode`).
-/

set_option autoImplicit false

namespace JavaFormat.Charset

namespace Jis

/-! ## Tables -/

/-- No character of JIS X 0208 is written as another one or is for private use. -/
theorem of_get?_0208 {p : Nat} {c : Char} (h : index0208.get? p = some c) :
    c.toNat ∉ [0xA5, 0x203E, 0x2212] ∧ ¬(0xE000 ≤ c.toNat ∧ c.toNat ≤ 0xF8FF) := by
  have hall := Index.of_all_codes 65536 (fun code => !(Nat.beq code 0xA5 ||
    Nat.beq code 0x203E || Nat.beq code 0x2212 || (Nat.ble 0xE000 code && Nat.ble code 0xF8FF)))
    (by decide) (by decide) (by decide +kernel) h
  simp only [Bool.not_eq_true', Bool.eq_false_iff, ne_eq, Bool.or_eq_true, Bool.and_eq_true,
    Nat.beq_eq, Nat.ble_eq, not_or] at hall
  simpa [and_assoc] using hall

/-- No character of JIS X 0212 is written as another one. -/
theorem of_get?_0212 {p : Nat} {c : Char} (h : index0212.get? p = some c) :
    c.toNat ∉ [0xA5, 0x203E, 0x2212] := by
  have hall := Index.of_all_codes 65536 (fun code => !(Nat.beq code 0xA5 ||
    Nat.beq code 0x203E || Nat.beq code 0x2212))
    (by decide) (by decide) (by decide +kernel) h
  simp only [Bool.not_eq_true', Bool.eq_false_iff, ne_eq, Bool.or_eq_true, Nat.beq_eq,
    not_or] at hall
  simpa [and_assoc] using hall

/-- The rows for private use have no characters of their own. -/
theorem not_private_of_get? {p : Nat} {c : Char} (h : index0208.get? p = some c) :
    ¬(8836 ≤ p ∧ p ≤ 10715) := by
  have hempty : ((Table.jis0208.drop 552).take 117).all (Nat.beq 0) = true := by decide +kernel
  have hlast : Table.jis0208[669]? = some 0x2170217121722173 := by decide +kernel
  obtain ⟨row, code, hrow, hcode, hne, -⟩ := Index.exists_row h
  intro hp
  by_cases hlt : p / 16 < 669
  · have hmem : row ∈ (Table.jis0208.drop 552).take 117 := by
      refine List.mem_of_getElem? (i := p / 16 - 552) ?_
      rw [List.getElem?_take_of_lt (by omega), List.getElem?_drop,
        show 552 + (p / 16 - 552) = p / 16 by omega, hrow]
    obtain rfl : 0 = row := Nat.eq_of_beq_eq_true (List.all_eq_true.1 hempty row hmem)
    have hcodes : ∀ x ∈ Index.codes 4 0, x = 0 := by decide
    exact hne (hcodes code (List.mem_of_getElem? hcode))
  · rw [show p / 16 = 669 by omega, hlast] at hrow
    obtain rfl := Option.some.inj hrow
    have hcodes : ∀ x ∈ (Index.codes 4 0x2170217121722173).take 12, x = 0 := by decide
    refine hne (hcodes code (List.mem_of_getElem? (i := p % 16) ?_))
    rw [List.getElem?_take_of_lt (by omega), hcode]

/-! ## Characters -/

/-- Whether a character is written as itself. -/
structure IsOwn (c : Char) : Prop where
  /-- It does not take the place of a character of ASCII. -/
  roman : romanByte? c = none
  /-- It is not the minus sign. -/
  minus : foldMinus c = c

theorem isOwn_of_toNat {c : Char} (h : c.toNat ∉ [0xA5, 0x203E, 0x2212]) : IsOwn c := by
  have hne : c ≠ '\u00A5' ∧ c ≠ '\u203E' ∧ c ≠ '\u2212' := by
    refine ⟨?_, ?_, ?_⟩ <;> rintro rfl <;> exact h (by decide)
  exact ⟨by rw [romanByte?, if_neg hne.1, if_neg hne.2.1], by rw [foldMinus, if_neg hne.2.2]⟩

theorem isOwn_of_lt {c : Char} (h : c.toNat < 0xA5) : IsOwn c :=
  isOwn_of_toNat fun hmem => by
    simp only [List.mem_cons, List.not_mem_nil, or_false] at hmem
    omega

theorem isOwn_of_ge {c : Char} (h : 0x2212 < c.toNat) : IsOwn c :=
  isOwn_of_toNat fun hmem => by
    simp only [List.mem_cons, List.not_mem_nil, or_false] at hmem
    omega

theorem toNat_halfWidth {n : Nat} (h : n ≤ 0x3E) : (halfWidth n).toNat = 0xFF61 + n := by
  rw [halfWidth, Char.ofNat, dif_pos (Or.inr ⟨by omega, by omega⟩)]
  rfl

theorem halfWidthPlace?_eq_some {c : Char} {n : Nat} (h : halfWidthPlace? c = some n) :
    n ≤ 0x3E ∧ halfWidth n = c := by
  unfold halfWidthPlace? at h
  split at h
  · obtain rfl := Option.some.inj h
    refine ⟨by omega, ?_⟩
    rw [halfWidth, show 0xFF61 + (c.toNat - 0xFF61) = c.toNat by omega, Char.ofNat_toNat]
  · cases h

end Jis

/-! ## EUC-JP -/

namespace EucJp

open Jis

/-- A character that is read is written as itself. -/
theorem isOwn_of_reads {c : Char} (h : Reads read c) : IsOwn c := by
  obtain ⟨b, rest, cs, used, h, hc⟩ := h
  simp only [read] at h
  split at h
  · rename_i hb
    cases h
    rw [List.mem_singleton.1 hc]
    refine isOwn_of_lt ?_
    rw [toNat_charOfByte]
    exact Nat.lt_trans (UInt8.lt_iff_toNat_lt.1 hb) (by decide)
  split at h
  · cases h
  rename_i b₂ rest
  split at h
  · split at h
    · rename_i hb₂
      cases h
      rw [List.mem_singleton.1 hc]
      have hle : b₂.toNat ≤ 0xDF := UInt8.le_iff_toNat_le.1 hb₂.2
      exact isOwn_of_ge (by rw [toNat_halfWidth (by omega)]; omega)
    · cases h
  split at h
  · split at h
    · cases h
    · obtain ⟨p, -, hp⟩ := Option.bind_eq_some_iff.1 (eq_some_of_read h hc)
      exact isOwn_of_toNat (of_get?_0212 hp)
  · obtain ⟨p, -, hp⟩ := Option.bind_eq_some_iff.1 (eq_some_of_read h hc)
    exact isOwn_of_toNat (of_get?_0208 hp).1

theorem read_halfWidth {n : Nat} (h : n ≤ 0x3E) (rest : List UInt8) :
    read 0x8E (UInt8.ofNat (0xA1 + n) :: rest) = some ([halfWidth n], 1) := by
  have hn : (UInt8.ofNat (0xA1 + n)).toNat = 0xA1 + n := by
    rw [UInt8.toNat_ofNat', Nat.mod_eq_of_lt (by omega)]
  have hrange : 0xA1 ≤ UInt8.ofNat (0xA1 + n) ∧ UInt8.ofNat (0xA1 + n) ≤ 0xDF := by
    rw [UInt8.le_iff_toNat_le, UInt8.le_iff_toNat_le, hn]
    exact ⟨Nat.le_add_right _ n, Nat.add_le_add_left h 0xA1⟩
  simp only [read]
  rw [if_neg (by decide), if_pos trivial, if_pos hrange, hn, Nat.add_sub_cancel_left]

theorem readsAscii : ReadsAscii read := fun _ hb _ => if_pos hb

/-- **EUC-JP reads back** every character that it reads at all. -/
theorem readsBack {c : Char} (hreads : Reads read c) : ReadsBack read write c := by
  obtain ⟨hroman, hminus⟩ := isOwn_of_reads hreads
  intro bytes h
  unfold write at h
  split at h
  · rename_i hc
    obtain rfl := Option.some.inj h
    exact readsAscii.readAs hc
  rw [hroman] at h
  simp only at h
  split at h
  · rename_i n hn
    obtain rfl := Option.some.inj h
    obtain ⟨hle, rfl⟩ := halfWidthPlace?_eq_some hn
    exact ⟨0x8E, [UInt8.ofNat (0xA1 + n)], rfl, read_halfWidth hle⟩
  · rw [hminus] at h
    obtain ⟨p, hp, rfl⟩ := Option.map_eq_some_iff.1 h
    obtain ⟨hget, hrows⟩ := Index.get?_of_pointer? hp
    refine readAs_pair (of_decide_eq_true hrows) (by decide) (by decide)
      fun lead trail hlead _ hpointer rest => ?_
    have hge : ∀ b : UInt8, b.toNat < 0xA1 → lead ≠ b := by
      rintro b hb rfl
      rw [hlead] at hb
      exact absurd hb (Nat.not_lt.2 (ByteRun.first_le_byte cells.leads _))
    simp only [read]
    rw [if_neg (not_lt_of_lead hlead (by decide)), if_neg (hge 0x8E (by decide)),
      if_neg (hge 0x8F (by decide)), hpointer, Option.bind_some, hget]
    rfl

end EucJp

/-! ## Shift_JIS -/

namespace ShiftJis

open Jis

/-- A character that is read is written as itself. -/
theorem isOwn_of_reads {c : Char} (h : Reads read c) : IsOwn c := by
  obtain ⟨b, rest, cs, used, h, hc⟩ := h
  simp only [read] at h
  split at h
  · rename_i hb
    cases h
    rw [List.mem_singleton.1 hc]
    refine isOwn_of_lt ?_
    rw [toNat_charOfByte]
    exact Nat.lt_of_le_of_lt (UInt8.le_iff_toNat_le.1 hb) (by decide)
  split at h
  · rename_i hb
    cases h
    rw [List.mem_singleton.1 hc]
    have hle : b.toNat ≤ 0xDF := UInt8.le_iff_toNat_le.1 hb.2
    exact isOwn_of_ge (by rw [toNat_halfWidth (by omega)]; omega)
  split at h
  · cases h
  obtain ⟨p, -, hp⟩ := Option.bind_eq_some_iff.1 (eq_some_of_read h hc)
  unfold charAt? at hp
  split at hp
  · obtain rfl := Option.some.inj hp
    refine isOwn_of_ge ?_
    rw [Char.ofNat, dif_pos (Or.inr ⟨by omega, by omega⟩)]
    exact Nat.lt_of_lt_of_le (by decide) (Nat.le_add_right 0xE000 _)
  · exact isOwn_of_toNat (of_get?_0208 hp).1

theorem lt_of_get? {p : Nat} {c : Char} (h : index0208.get? p = some c) :
    p < cells.leads.count * cells.trails.count :=
  Index.lt_of_get? (n := 11280) (by decide +kernel) (by decide +kernel) h

/-- A lead byte stands for nothing on its own. -/
theorem of_lead {b : UInt8} {i : Nat} (h : b.toNat = cells.leads.byte i) :
    ¬b ≤ 0x80 ∧ ¬(0xA1 ≤ b ∧ b ≤ 0xDF) := by
  have hbyte : b.toNat = 0x81 + i + if i < 0x1F then 0 else 0x40 := h
  simp only [UInt8.le_iff_toNat_le, UInt8.reduceToNat]
  split at hbyte <;> omega

theorem read_halfWidth {n : Nat} (h : n ≤ 0x3E) (rest : List UInt8) :
    read (UInt8.ofNat (0xA1 + n)) rest = some ([halfWidth n], 0) := by
  have hn : (UInt8.ofNat (0xA1 + n)).toNat = 0xA1 + n := by
    rw [UInt8.toNat_ofNat', Nat.mod_eq_of_lt (by omega)]
  have hrange : ¬UInt8.ofNat (0xA1 + n) ≤ 0x80 ∧
      0xA1 ≤ UInt8.ofNat (0xA1 + n) ∧ UInt8.ofNat (0xA1 + n) ≤ 0xDF := by
    simp only [UInt8.le_iff_toNat_le, UInt8.reduceToNat, hn]
    omega
  simp only [read]
  rw [if_neg hrange.1, if_pos hrange.2, hn, Nat.add_sub_cancel_left]

theorem readsAscii : ReadsAscii read := fun _ hb _ => if_pos (UInt8.le_of_lt hb)

/-- **Shift_JIS reads back** every character that it reads at all. -/
theorem readsBack {c : Char} (hreads : Reads read c) : ReadsBack read write c := by
  obtain ⟨hroman, hminus⟩ := isOwn_of_reads hreads
  intro bytes h
  unfold write at h
  split at h
  · rename_i hc
    obtain rfl := Option.some.inj h
    refine readAs_byte (by omega) fun b hb rest => if_pos ?_
    rw [UInt8.le_iff_toNat_le, hb]
    exact hc
  rw [hroman] at h
  simp only at h
  split at h
  · rename_i n hn
    obtain rfl := Option.some.inj h
    obtain ⟨hle, rfl⟩ := halfWidthPlace?_eq_some hn
    exact ⟨UInt8.ofNat (0xA1 + n), [], rfl, read_halfWidth hle⟩
  · rw [hminus] at h
    obtain ⟨p, hp, rfl⟩ := Option.map_eq_some_iff.1 h
    have hget := (Index.get?_of_pointer? hp).1
    refine readAs_pair (lt_of_get? hget) (by decide) (by decide)
      fun lead trail hlead _ hpointer rest => ?_
    obtain ⟨hbyte, hhalf⟩ := of_lead hlead
    simp only [read]
    rw [if_neg hbyte, if_neg hhalf, hpointer, Option.bind_some, charAt?,
      if_neg (not_private_of_get? hget), hget]
    rfl

end ShiftJis

/-! ## ISO-2022-JP -/

namespace Iso2022Jp

open Jis

/-- A character that is read is not the minus sign. -/
theorem foldMinus_of_readIn {set : Set} {b : UInt8} {rest : List UInt8} {c : Char} {used : Nat}
    (h : readIn set b rest = some (c, used)) : foldMinus c = c := by
  have hascii : ∀ {b : UInt8}, b < 0x80 → foldMinus (charOfByte b) = charOfByte b := by
    intro b hb
    refine (isOwn_of_lt ?_).minus
    rw [toNat_charOfByte]
    exact Nat.lt_trans (UInt8.lt_iff_toNat_lt.1 hb) (by decide)
  cases set with
  | ascii =>
    simp only [readIn] at h
    split at h
    · rename_i hb
      cases h
      exact hascii hb.1
    · cases h
  | roman =>
    simp only [readIn] at h
    split at h
    · cases h
      decide
    split at h
    · cases h
      decide
    split at h
    · rename_i hb
      cases h
      exact hascii hb.1
    · cases h
  | katakana =>
    simp only [readIn] at h
    split at h
    · rename_i hb
      cases h
      have hle : b.toNat ≤ 0x5F := UInt8.le_iff_toNat_le.1 hb.2
      exact (isOwn_of_ge (by rw [toNat_halfWidth (by omega)]; omega)).minus
    · cases h
  | jis0208 =>
    simp only [readIn] at h
    split at h
    · cases h
    · obtain ⟨d, hd, hc⟩ := Option.map_eq_some_iff.1 h
      obtain ⟨rfl, -⟩ := Prod.mk.inj hc
      obtain ⟨p, -, hp⟩ := Option.bind_eq_some_iff.1 hd
      exact (isOwn_of_toNat (of_get?_0208 hp).1).minus

theorem foldMinus_of_mem_decodeInto {set : Set} {switched : Bool} {read cs : List Char}
    {bytes : List UInt8} (h : decodeInto set switched read bytes = some cs) {c : Char}
    (hc : c ∈ cs) : c ∈ read ∨ foldMinus c = c := by
  fun_induction decodeInto set switched read bytes with
  | case1 =>
    cases h
    exact Or.inl (List.mem_reverse.1 hc)
  | case2 => cases h
  | case3 set switched read b₁ b₂ rest next hnext hswitched ih => exact ih h
  | case4 => cases h
  | case5 => cases h
  | case6 => cases h
  | case7 set switched read b rest hb d used hread ih =>
    rcases ih h with hmem | hminus
    · rcases List.mem_cons.1 hmem with rfl | hmem
      · exact Or.inr (foldMinus_of_readIn hread)
      · exact Or.inl hmem
    · exact Or.inr hminus

theorem foldMinus_of_mem_decode {bytes : List UInt8} {cs : List Char}
    (h : decode bytes = some cs) {c : Char} (hc : c ∈ cs) : foldMinus c = c :=
  (foldMinus_of_mem_decodeInto h hc).resolve_left List.not_mem_nil

/-! ## Full-width forms -/

theorem halfWidthPlace?_widen (c : Char) : halfWidthPlace? (widen c) = none := by
  have hfull : (fullWidth.all fun d => (halfWidthPlace? d).isNone) = true := by decide
  unfold widen
  split
  · rename_i n hn
    have hlt : n < fullWidth.length :=
      Nat.lt_of_le_of_lt (halfWidthPlace?_eq_some hn).1 (by decide)
    rw [List.getD_eq_getElem?_getD, List.getElem?_eq_getElem hlt, Option.getD_some]
    exact Option.isNone_iff_eq_none.1 (List.all_eq_true.1 hfull _ (List.getElem_mem hlt))
  · assumption

/-- Only the half-width katakana have another full-width form. -/
theorem widen_eq_self_iff {c : Char} : widen c = c ↔ halfWidthPlace? c = none := by
  constructor
  · intro h
    rw [← h]
    exact halfWidthPlace?_widen c
  · intro h
    rw [widen, h]

theorem widen_of_lt {c : Char} (h : c.toNat < 0xFF61) : widen c = c :=
  widen_eq_self_iff.2 (if_neg fun hc => absurd hc.1 (Nat.not_le.2 h))

/-! ## Reading back -/

theorem setOf?_escape (set : Set) :
    ∃ b₁ b₂, escape set = [0x1B, b₁, b₂] ∧ setOf? b₁ b₂ = some set := by
  cases set <;> exact ⟨_, _, rfl, by decide⟩

theorem decodeInto_char {set : Set} {switched : Bool} {read : List Char} {c : Char} {b : UInt8}
    {bytes : List UInt8} {used : Nat} (hb : b ≠ 0x1B)
    (hread : readIn set b bytes = some (c, used)) :
    decodeInto set switched read (b :: bytes) =
      decodeInto set false (c :: read) (bytes.drop used) := by
  rw [decodeInto.eq_def]
  simp only [if_neg hb, hread]

/-- **A character is read in the set that was switched to.** -/
theorem decodeInto_switch {set next : Set} {read : List Char} {c : Char} {b : UInt8}
    {bs rest : List UInt8} (hb : b ≠ 0x1B)
    (hread : readIn next b (bs ++ rest) = some (c, bs.length)) :
    decodeInto set false read (switch set next ++ (b :: bs) ++ rest) =
      decodeInto next false (c :: read) rest := by
  have hchar : ∀ switched, decodeInto next switched read (b :: (bs ++ rest)) =
      decodeInto next false (c :: read) rest := fun switched => by
    rw [decodeInto_char hb hread, List.drop_left]
  unfold switch
  split
  · rename_i hset
    rw [hset]
    exact hchar false
  · obtain ⟨b₁, b₂, hescape, hset⟩ := setOf?_escape next
    rw [hescape]
    simp only [List.cons_append, List.nil_append]
    rw [decodeInto, if_pos rfl, hset]
    exact hchar true

theorem decodeInto_end (set : Set) (read : List Char) :
    decodeInto set false read (switch set .ascii) = some read.reverse := by
  unfold switch
  split
  · rw [decodeInto]
  · rw [escape, decodeInto, if_pos rfl]
    simp only [show setOf? 0x28 0x42 = some .ascii by decide]
    rw [decodeInto]
    rfl

theorem place?_of_lt {set : Set} {c : Char} {next : Set} {bytes : List UInt8} (hc : c.toNat < 0x80)
    (h : place? set c = some (next, bytes)) :
    bytes = [UInt8.ofNat c.toNat] ∧ isControl c.toNat = false ∧
      (next = .ascii ∨ next = .roman ∧ c ≠ '\\' ∧ c ≠ '~') := by
  rw [place?, if_pos hc] at h
  split at h
  · cases h
  · rename_i hcontrol
    split at h
    · rename_i hroman
      cases h
      exact ⟨rfl, Bool.eq_false_iff.2 hcontrol, Or.inr ⟨rfl, hroman.2⟩⟩
    · cases h
      exact ⟨rfl, Bool.eq_false_iff.2 hcontrol, Or.inl rfl⟩

/-- A character of ASCII is read as it is, in the set that it is written in. -/
theorem readIn_of_lt {set next : Set} {c : Char} {bytes : List UInt8} (hc : c.toNat < 0x80)
    (h : place? set c = some (next, bytes)) :
    ∃ b, bytes = [b] ∧ b ≠ 0x1B ∧ ∀ rest, readIn next b rest = some (c, 0) := by
  obtain ⟨rfl, hcontrol, hnext⟩ := place?_of_lt hc h
  have hb : (UInt8.ofNat c.toNat).toNat = c.toNat := by
    rw [UInt8.toNat_ofNat', Nat.mod_eq_of_lt (by omega)]
  have hascii : UInt8.ofNat c.toNat < 0x80 ∧ ¬isControl (UInt8.ofNat c.toNat).toNat := by
    rw [UInt8.lt_iff_toNat_lt, hb]
    exact ⟨hc, by simp [hcontrol]⟩
  have hchar : charOfByte (UInt8.ofNat c.toNat) = c := by
    rw [charOfByte, hb, Char.ofNat_toNat]
  have hne : ∀ n < 256, c.toNat ≠ n → UInt8.ofNat c.toNat ≠ UInt8.ofNat n := fun n hn hcn he => by
    have := congrArg UInt8.toNat he
    rw [hb, UInt8.toNat_ofNat', Nat.mod_eq_of_lt hn] at this
    exact hcn this
  refine ⟨_, rfl, fun he => ?_, fun rest => ?_⟩
  · rw [← hb, he] at hcontrol
    cases hcontrol
  · rcases hnext with rfl | ⟨rfl, hslash, htilde⟩
    · rw [readIn, if_pos hascii, hchar]
    · have h5C : UInt8.ofNat c.toNat ≠ 0x5C :=
        hne 0x5C (by decide) fun he => hslash (Char.toNat_inj.1 he)
      have h7E : UInt8.ofNat c.toNat ≠ 0x7E :=
        hne 0x7E (by decide) fun he => htilde (Char.toNat_inj.1 he)
      simp only [readIn]
      rw [if_neg h5C, if_neg h7E, if_pos hascii, hchar]

/-- A character is read, as its full-width form, in the set that it is written in. -/
theorem readIn_of_place? {set next : Set} {c : Char} {bytes : List UInt8}
    (hminus : foldMinus c = c) (h : place? set c = some (next, bytes)) :
    ∃ b bs, bytes = b :: bs ∧ b ≠ 0x1B ∧
      ∀ rest, readIn next b (bs ++ rest) = some (widen c, bs.length) := by
  by_cases hc : c.toNat < 0x80
  · obtain ⟨b, rfl, hb, hread⟩ := readIn_of_lt hc h
    exact ⟨b, [], rfl, hb, fun rest => by rw [widen_of_lt (by omega)]; exact hread rest⟩
  rw [place?, if_neg hc] at h
  split at h
  · rename_i b hroman
    cases h
    unfold romanByte? at hroman
    split at hroman
    · rename_i hyen
      cases hroman
      exact ⟨0x5C, [], rfl, by decide, fun rest => by rw [hyen]; rfl⟩
    · split at hroman
      · rename_i hline
        cases hroman
        exact ⟨0x7E, [], rfl, by decide, fun rest => by rw [hline]; rfl⟩
      · cases hroman
  · rw [hminus] at h
    obtain ⟨p, hp, hnext⟩ := Option.map_eq_some_iff.1 h
    obtain ⟨rfl, rfl⟩ := Prod.mk.inj hnext
    obtain ⟨hget, hrows⟩ := Index.get?_of_pointer? hp
    have hlt : p < cells.leads.count * cells.trails.count := of_decide_eq_true hrows
    obtain ⟨lead, trail, hbytes, hlead, -, hpointer⟩ :=
      Cells.pointer?_bytes hlt (by decide) (by decide)
    refine ⟨lead, [trail], hbytes, ?_, fun rest => ?_⟩
    · rintro rfl
      exact absurd hlead (Nat.ne_of_lt (Nat.lt_of_lt_of_le (by decide)
        (ByteRun.first_le_byte cells.leads _)))
    · rw [List.singleton_append, readIn, hpointer, Option.bind_some, hget]
      rfl

theorem decodeInto_encodeInto {cs : List Char} (hcs : ∀ c ∈ cs, foldMinus c = c) {set : Set}
    {written : List (List UInt8)} {bytes : List UInt8}
    (h : encodeInto set written cs = some bytes) :
    ∃ tail, bytes = written.reverse.flatten ++ tail ∧
      ∀ read, decodeInto set false read tail = some (read.reverse ++ cs.map widen) := by
  induction cs generalizing set written with
  | nil =>
    rw [encodeInto] at h
    refine ⟨_, (Option.some.inj h).symm, fun read => ?_⟩
    rw [decodeInto_end, List.map_nil, List.append_nil]
  | cons c cs ih =>
    rw [encodeInto] at h
    split at h
    · cases h
    · rename_i next piece hplace
      obtain ⟨tail, htail, hread⟩ := ih (fun d hd => hcs d (List.mem_cons_of_mem _ hd)) h
      obtain ⟨b, bs, rfl, hb, hpiece⟩ := readIn_of_place? (hcs c List.mem_cons_self) hplace
      refine ⟨switch set next ++ (b :: bs) ++ tail, ?_, fun read => ?_⟩
      · rw [htail, List.reverse_cons, List.flatten_append]
        simp
      · rw [decodeInto_switch hb (hpiece tail), hread]
        simp

/-- **What is written is read with the half-width katakana as full-width ones**, and all other
characters as they are. -/
theorem decode_encode {cs : List Char} (hcs : ∀ c ∈ cs, foldMinus c = c) {bytes : List UInt8}
    (h : encode cs = some bytes) : decode bytes = some (cs.map widen) := by
  obtain ⟨tail, rfl, hread⟩ := decodeInto_encodeInto hcs h
  exact hread []

theorem map_widen_eq_self_iff {cs : List Char} :
    cs.map widen = cs ↔ ∀ c ∈ cs, halfWidthPlace? c = none := by
  simp only [← widen_eq_self_iff]
  simpa using List.map_inj_left (l := cs) (f := widen) (g := id)

end Iso2022Jp

end JavaFormat.Charset
