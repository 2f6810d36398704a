import JavaFormat.Charset.Cells
import JavaFormat.Charset.Index
import Mathlib.Algebra.Group.Nat.Defs

/-!
# Looking characters up

What stands in an index that is packed into rows is found in one of the rows (`exists_row`), so that
what holds of all code points of a table holds of all characters of its index (`of_all_codes`), and
where no code point comes twice, no character does (`eq_of_get?`).  A character that stands at an
admissible pointer is found (`exists_pointer?`), and a pointer is read back from its pair of bytes
(`Cells.pointer?_bytes`).
-/

set_option autoImplicit false

namespace JavaFormat.Charset

theorem toNat_ofNat_of_ne {n : Nat} (h : (Char.ofNat n).toNat ≠ 0) :
    (Char.ofNat n).toNat = n := by
  by_cases hn : n.isValidChar
  · rw [Char.ofNat, dif_pos hn]
    rfl
  · rw [Char.ofNat, dif_neg hn] at h
    exact absurd rfl h

theorem mem_of_lookup {α β : Type} [BEq α] [LawfulBEq α] {l : List (α × β)} {k : α} {v : β}
    (h : l.lookup k = some v) : (k, v) ∈ l := by
  obtain ⟨front, back, rfl, -⟩ := List.lookup_eq_some_iff.1 h
  exact List.mem_append_right _ List.mem_cons_self

namespace Index

/-! ## Pointers -/

theorem exists_pointerFrom? {index : Index} {admissible : Nat → Bool} {c : Char} {start p : Nat}
    (hle : start ≤ p) (hc : index.get? p = some c) (ha : admissible p = true) :
    ∃ q, index.pointerFrom? admissible c start = some q := by
  fun_induction pointerFrom? index admissible c start with
  | case1 start hlt hfound => exact ⟨start, rfl⟩
  | case2 start hlt hnot ih =>
    refine ih (Nat.lt_of_le_of_ne hle ?_)
    rintro rfl
    exact hnot ⟨by simpa [get?, hlt] using hc, ha⟩
  | case3 start hge =>
    rw [get?, Array.getElem?_eq_none (by omega)] at hc
    cases hc

/-- A character that stands at an admissible pointer is found. -/
theorem exists_pointer? {index : Index} (admissible : Nat → Bool) {c : Char} {p : Nat}
    (hc : index.get? p = some c) (ha : admissible p = true) :
    ∃ q, index.pointer? admissible c = some q := exists_pointerFrom? (Nat.zero_le p) hc ha

/-! ## Rows -/

/-- The code points of a row, where there are any. -/
def codes (digits row : Nat) : List Nat :=
  (List.range 16).map fun i => (row >>> (4 * digits * (15 - i))) % 1 <<< (4 * digits)

theorem unpack_eq (digits row : Nat) :
    unpack digits row =
      (codes digits row).map fun code => if code = 0 then none else some (Char.ofNat code) := by
  rw [unpack, codes, List.map_map]
  rfl

theorem length_unpack (digits row : Nat) : (unpack digits row).length = 16 := by
  rw [unpack, List.length_map, List.length_range]

/-- An entry of some rows of sixteen is an entry of one of them. -/
theorem getElem?_flatMap_unpack (digits : Nat) (rows : List Nat) (p : Nat) :
    (rows.flatMap (unpack digits))[p]? =
      rows[p / 16]?.bind fun row => (unpack digits row)[p % 16]? := by
  induction rows generalizing p with
  | nil => rfl
  | cons row rows ih =>
    rw [List.flatMap_cons]
    by_cases hp : p < 16
    · rw [List.getElem?_append_left (by rw [length_unpack]; exact hp), Nat.div_eq_of_lt hp,
        Nat.mod_eq_of_lt hp]
      rfl
    · rw [List.getElem?_append_right (by rw [length_unpack]; omega), length_unpack, ih,
        show p / 16 = (p - 16) / 16 + 1 by omega, show p % 16 = (p - 16) % 16 by omega,
        List.getElem?_cons_succ]

/-- **What stands at a pointer** is a code point of a row. -/
theorem exists_row {digits : Nat} {rows : List Nat} {p : Nat} {c : Char}
    (h : (ofRows digits rows).get? p = some c) : ∃ row code, rows[p / 16]? = some row ∧
      (codes digits row)[p % 16]? = some code ∧ code ≠ 0 ∧ Char.ofNat code = c := by
  have hp : (rows.flatMap (unpack digits))[p]? = some (some c) := by
    simpa [get?, ofRows, Option.join_eq_some_iff] using h
  rw [getElem?_flatMap_unpack, Option.bind_eq_some_iff] at hp
  obtain ⟨row, hrow, hcode⟩ := hp
  rw [unpack_eq, List.getElem?_map, Option.map_eq_some_iff] at hcode
  obtain ⟨code, hcode, hc⟩ := hcode
  split at hc
  · cases hc
  · exact ⟨row, code, hrow, hcode, by assumption, Option.some.inj hc⟩

theorem get?_ofRows (digits : Nat) (rows : List Nat) (p : Nat) :
    (ofRows digits rows).get? p =
      (rows[p / 16]?.bind fun row => (unpack digits row)[p % 16]?).join := by
  rw [get?, ofRows, List.getElem?_toArray, getElem?_flatMap_unpack]

/-- Where the last row has no more entries, there are no further pointers. -/
theorem lt_of_get? {digits : Nat} {rows : List Nat} {n p : Nat} {c : Char}
    (hlength : rows.length ≤ n / 16 + 1)
    (hlast : (rows[n / 16]?.all fun row => ((codes digits row).drop (n % 16)).all (· == 0)) = true)
    (h : (ofRows digits rows).get? p = some c) : p < n := by
  obtain ⟨row, code, hrow, hcode, hne, -⟩ := exists_row h
  refine Nat.lt_of_not_le fun hle => hne ?_
  have hlt := (List.getElem?_eq_some_iff.1 hrow).1
  have hsame : p / 16 = n / 16 := by omega
  rw [hsame] at hrow
  rw [hrow, Option.all_some, List.all_eq_true] at hlast
  have hmem : code ∈ (codes digits row).drop (n % 16) := by
    refine List.mem_of_getElem? (i := p % 16 - n % 16) ?_
    rw [List.getElem?_drop, show n % 16 + (p % 16 - n % 16) = p % 16 by omega, hcode]
  exact eq_of_beq (hlast code hmem)

/-- Whether something holds of the lowest digits of a number, to a base.  It is written with the
functions that evaluate at once, since whole tables are searched with it. -/
def allDigits (base : Nat) (q : Nat → Bool) : Nat → Nat → Bool
  | 0, _ => true
  | n + 1, row => q (Nat.mod row base) && allDigits base q n (Nat.div row base)

theorem of_allDigits {base : Nat} {q : Nat → Bool} {n row : Nat}
    (h : allDigits base q n row = true) {j : Nat} (hj : j < n) :
    q (row / base ^ j % base) = true := by
  induction n generalizing row j with
  | zero => exact absurd hj (Nat.not_lt_zero j)
  | succ n ih =>
    rw [allDigits, Bool.and_eq_true] at h
    cases j with
    | zero => rw [Nat.pow_zero, Nat.div_one]; exact h.1
    | succ j =>
      rw [Nat.pow_succ', ← Nat.div_div_eq_div_mul]
      exact ih h.2 (Nat.lt_of_succ_lt_succ hj)

theorem exists_digit_of_mem_codes {digits row code : Nat} (h : code ∈ codes digits row) :
    ∃ j < 16, code = row / (2 ^ (4 * digits)) ^ j % 2 ^ (4 * digits) := by
  obtain ⟨i, hi, rfl⟩ := List.mem_map.1 h
  refine ⟨15 - i, by omega, ?_⟩
  rw [Nat.shiftRight_eq_div_pow, Nat.one_shiftLeft, ← Nat.pow_mul]

/-- What holds of the code points of a table holds of the one behind each of its characters. -/
theorem exists_code_of_all {digits : Nat} (base : Nat) {rows : List Nat} (q : Nat → Bool)
    (hbase : 2 ^ (4 * digits) = base) (hall : rows.all (allDigits base q 16) = true) {p : Nat}
    {c : Char} (h : (ofRows digits rows).get? p = some c) :
    ∃ code, code ≠ 0 ∧ Char.ofNat code = c ∧ q code = true := by
  obtain ⟨row, code, hrow, hcode, hne, hc⟩ := exists_row h
  obtain ⟨j, hj, hdigit⟩ := exists_digit_of_mem_codes (List.mem_of_getElem? hcode)
  rw [hbase] at hdigit
  refine ⟨code, hne, hc, ?_⟩
  rw [hdigit]
  exact of_allDigits (List.all_eq_true.1 hall row (List.mem_of_getElem? hrow)) hj

/-- **What holds of the code points of a table** holds of the characters of its index. -/
theorem of_all_codes {digits : Nat} (base : Nat) {rows : List Nat} (q : Nat → Bool)
    (hbase : 2 ^ (4 * digits) = base) (hzero : q 0 = true)
    (hall : rows.all (allDigits base q 16) = true) {p : Nat} {c : Char}
    (h : (ofRows digits rows).get? p = some c) : q c.toNat = true := by
  obtain ⟨code, -, rfl, hcode⟩ := exists_code_of_all base q hbase hall h
  by_cases hz : (Char.ofNat code).toNat = 0
  · rw [hz, hzero]
  · rwa [toNat_ofNat_of_ne hz]

/-! ## Rows without repetitions -/

/-- The lowest digits of a number, to a base, the highest of them first, before those of `acc`. -/
def digitsInto (base : Nat) : Nat → Nat → List Nat → List Nat
  | 0, _, acc => acc
  | n + 1, row, acc => digitsInto base n (Nat.div row base) (Nat.mod row base :: acc)

theorem digitsInto_eq (base n row : Nat) (acc : List Nat) :
    digitsInto base n row acc =
      ((List.range n).map fun i => row / base ^ (n - 1 - i) % base) ++ acc := by
  induction n generalizing row acc with
  | zero => rfl
  | succ n ih =>
    have hfront : ∀ i ∈ List.range n,
        Nat.div row base / base ^ (n - 1 - i) % base = row / base ^ (n - i) % base := by
      intro i hi
      have hlt := List.mem_range.1 hi
      rw [show n - i = n - 1 - i + 1 by omega, Nat.pow_succ', ← Nat.div_div_eq_div_mul]
      rfl
    rw [digitsInto, ih, List.map_congr_left hfront, List.range_succ, List.map_append,
      List.append_assoc]
    simp only [List.map_cons, List.map_nil, Nat.add_sub_cancel, Nat.sub_self, Nat.pow_zero,
      Nat.div_one]
    rfl

theorem codes_eq_digitsInto {digits base : Nat} (hbase : 2 ^ (4 * digits) = base) (row : Nat) :
    codes digits row = digitsInto base 16 row [] := by
  rw [digitsInto_eq, List.append_nil, codes, ← hbase]
  refine List.map_congr_left fun i _ => ?_
  rw [Nat.shiftRight_eq_div_pow, Nat.one_shiftLeft, ← Nat.pow_mul]

/-- Whether no number other than zero comes twice or is among those that are `seen`, which are the
bits of a number. -/
def areFresh (seen : Nat) : List Nat → Bool
  | [] => true
  | n :: ns =>
    (Nat.beq n 0 || !Nat.testBit seen n) && areFresh (Nat.lor seen (Nat.shiftLeft 1 n)) ns

theorem testBit_of_areFresh {seen : Nat} {ns : List Nat} (h : areFresh seen ns = true) {n : Nat}
    (hn : n ∈ ns) (hne : n ≠ 0) : seen.testBit n = false := by
  induction ns generalizing seen with
  | nil => cases hn
  | cons m ns ih =>
    rw [areFresh, Bool.and_eq_true, Bool.or_eq_true] at h
    rcases List.mem_cons.1 hn with rfl | hn
    · simpa [hne] using h.1
    · have hlater : (seen ||| 1 <<< m).testBit n = false := ih h.2 hn
      exact (Bool.or_eq_false_iff.1 (Nat.testBit_or .. ▸ hlater)).1

/-- Where nothing comes twice, what comes at two places comes at one. -/
theorem eq_of_areFresh {seen : Nat} {ns : List Nat} (h : areFresh seen ns = true) {n i j : Nat}
    (hi : ns[i]? = some n) (hj : ns[j]? = some n) (hne : n ≠ 0) : i = j := by
  induction ns generalizing seen i j with
  | nil => cases hi
  | cons m ns ih =>
    rw [areFresh, Bool.and_eq_true] at h
    have hrest : n ∈ ns → m ≠ n := by
      rintro hn rfl
      have hbit : (seen ||| 1 <<< m).testBit m = false := testBit_of_areFresh h.2 hn hne
      simp [Nat.testBit_or, Nat.testBit_shiftLeft] at hbit
    cases i with
    | zero =>
      cases j with
      | zero => rfl
      | succ j => exact absurd (Option.some.inj hi) (hrest (List.mem_of_getElem? hj))
    | succ i =>
      cases j with
      | zero => exact absurd (Option.some.inj hj) (hrest (List.mem_of_getElem? hi))
      | succ j => exact congrArg Nat.succ (ih h.2 hi hj)

/-- **A table without repetitions has each of its characters at one pointer.** -/
theorem eq_of_get? {digits : Nat} (base : Nat) {rows : List Nat} (hbase : 2 ^ (4 * digits) = base)
    (hfresh : areFresh 0 (rows.flatMap fun row => digitsInto base 16 row []) = true)
    {p q : Nat} {c : Char} (hne : c.toNat ≠ 0) (hp : (ofRows digits rows).get? p = some c)
    (hq : (ofRows digits rows).get? q = some c) : p = q := by
  have hrows : rows.flatMap (unpack digits) =
      (rows.flatMap fun row => digitsInto base 16 row []).map
        fun code => if code = 0 then none else some (Char.ofNat code) := by
    rw [List.map_flatMap]
    congr 1
    funext row
    rw [unpack_eq, codes_eq_digitsInto hbase]
  have hcode : ∀ r, (ofRows digits rows).get? r = some c →
      (rows.flatMap fun row => digitsInto base 16 row [])[r]? = some c.toNat := by
    intro r hr
    rw [get?, ofRows, List.getElem?_toArray, hrows, List.getElem?_map, Option.join_eq_some_iff,
      Option.map_eq_some_iff] at hr
    obtain ⟨code, hcode, hc⟩ := hr
    split at hc
    · cases hc
    · obtain rfl := Option.some.inj hc
      rw [hcode, toNat_ofNat_of_ne hne]
  exact eq_of_areFresh hfresh (hcode p hp) (hcode q hq) hne

end Index

/-! ## Pairs of bytes -/

namespace ByteRun

theorem first_le_byte (run : ByteRun) (i : Nat) : run.first ≤ run.byte i := by
  unfold byte
  omega

theorem byte_lt {run : ByteRun} {i : Nat} (h : i < run.count) :
    run.byte i < run.first + run.count + run.skip := by
  unfold byte
  split <;> omega

end ByteRun

namespace Cells

/-- **A pointer is read back from its pair of bytes.** -/
theorem pointer?_bytes {cells : Cells} {pointer : Nat}
    (h : pointer < cells.leads.count * cells.trails.count)
    (hleads : cells.leads.first + cells.leads.count + cells.leads.skip ≤ 256)
    (htrails : cells.trails.first + cells.trails.count + cells.trails.skip ≤ 256) :
    ∃ lead trail, cells.bytes pointer = [lead, trail] ∧
      lead.toNat = cells.leads.byte (pointer / cells.trails.count) ∧
      trail.toNat = cells.trails.byte (pointer % cells.trails.count) ∧
      cells.pointer? lead trail = some pointer := by
  have hpos : 0 < cells.trails.count := Nat.pos_of_ne_zero fun h0 => by simp [h0] at h
  have hrow : pointer / cells.trails.count < cells.leads.count :=
    (Nat.div_lt_iff_lt_mul hpos).2 h
  have hcell := Nat.mod_lt pointer hpos
  have hlead : (UInt8.ofNat (cells.leads.byte (pointer / cells.trails.count))).toNat =
      cells.leads.byte (pointer / cells.trails.count) := by
    rw [UInt8.toNat_ofNat', Nat.mod_eq_of_lt (Nat.lt_of_lt_of_le (ByteRun.byte_lt hrow) hleads)]
  have htrail : (UInt8.ofNat (cells.trails.byte (pointer % cells.trails.count))).toNat =
      cells.trails.byte (pointer % cells.trails.count) := by
    rw [UInt8.toNat_ofNat', Nat.mod_eq_of_lt (Nat.lt_of_lt_of_le (ByteRun.byte_lt hcell) htrails)]
  refine ⟨_, _, rfl, hlead, htrail, ?_⟩
  rw [pointer?, hlead, htrail, ByteRun.place?_byte hrow, ByteRun.place?_byte hcell]
  simp only [Option.some.injEq]
  rw [Nat.mul_comm, Nat.div_add_mod]

end Cells

end JavaFormat.Charset
