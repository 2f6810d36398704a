import JavaFormat.Proofs.Source.Layout

/-!
# The texts that a layout leaves alone

A text is `IsNormal` if its lines all end with the terminator of the first one, are indented as the
style says, have no blanks behind them, and if no two empty lines follow each other and none comes
first or last; the lines of text blocks may be as they like.  These are the texts that a layout
leaves alone, besides the empty one (`formatText_eq_self_iff`).

The half that is not plain is that a text that stays is normal.  Squeezing never adds rows, so that
the rows of such a text are `Tight` and its lines are theirs, but for carriage returns that are read
as a part of the terminator; and since a layout keeps what is not blank, there are none.
-/

set_option autoImplicit false

namespace JavaFormat

namespace Source

open Text

/-! ## Normal texts -/

/-- Rows from which squeezing takes nothing away; `gap` says whether an empty row was just read. -/
def Tight : Bool → List Row → Prop
  | gap, [] => gap = false
  | gap, r :: rest => if r.isEmpty = true then gap = false ∧ Tight true rest else Tight false rest

theorem squeeze_of_tight {gap : Bool} {rs : List Row} (h : Tight gap rs) :
    squeeze gap rs = (if gap then [[]] else []) ++ rs.map Row.line := by
  induction rs generalizing gap with
  | nil => rw [show gap = false from h]; rfl
  | cons r rest ih =>
    rw [Tight] at h
    by_cases hr : r.isEmpty = true
    · rw [if_pos hr] at h
      obtain ⟨rfl, h⟩ := h
      rw [squeeze_cons_of_isEmpty hr, ih h, List.map_cons, line_of_isEmpty hr]
      rfl
    · rw [if_neg hr] at h
      rw [squeeze_cons hr, ih h]
      rfl

theorem length_squeeze_le (gap : Bool) (rs : List Row) :
    (squeeze gap rs).length ≤ rs.length + gap.toNat := by
  induction rs generalizing gap with
  | nil => exact Nat.zero_le _
  | cons r rest ih =>
    by_cases hr : r.isEmpty = true
    · have h := ih true
      rw [Bool.toNat_true] at h
      rw [squeeze_cons_of_isEmpty hr, List.length_cons]
      omega
    · have h := ih false
      rw [Bool.toNat_false] at h
      rw [squeeze_cons hr, List.length_append, List.length_cons, List.length_cons]
      cases gap <;> simp <;> omega

theorem length_squeeze_lt {gap : Bool} {rs : List Row} (h : ¬Tight gap rs) :
    (squeeze gap rs).length < rs.length + gap.toNat := by
  induction rs generalizing gap with
  | nil =>
    cases gap with
    | false => exact absurd rfl h
    | true => exact Nat.zero_lt_one
  | cons r rest ih =>
    rw [Tight] at h
    by_cases hr : r.isEmpty = true
    · rw [if_pos hr] at h
      rw [squeeze_cons_of_isEmpty hr, List.length_cons]
      cases gap with
      | false =>
        have hlt := ih fun ht => h ⟨rfl, ht⟩
        simpa using hlt
      | true =>
        have hle := length_squeeze_le true rest
        rw [Bool.toNat_true] at hle ⊢
        omega
    · rw [if_neg hr] at h
      have hlt := ih h
      rw [Bool.toNat_false] at hlt
      rw [squeeze_cons hr, List.length_append, List.length_cons, List.length_cons]
      cases gap <;> simp <;> omega

/-- Whether row `i` is empty. -/
def EmptyAt (rs : List Row) (i : Nat) : Prop := rs[i]?.any Row.isEmpty = true

/-- **A layout changes no character other than blanks.** -/
theorem filter_reindent (indentation : Indentation) (tab : UInt64) (l : Line) :
    (reindent indentation tab l).filter (fun c => !isBlank c) = l.filter fun c => !isBlank c := by
  have hblank : ∀ k : Line, (∀ c ∈ k, isBlank c = true) → k.filter (fun c => !isBlank c) = [] :=
    fun k hk => List.filter_eq_nil_iff.2 fun c hc => by simp [hk c hc]
  rcases blank_or_body_reindent indentation tab l with
    ⟨hl, hr⟩ | ⟨lead, body, trail, rfl, hl, -, ht, hr⟩
  · rw [hr, hblank l hl]; rfl
  · rw [hr, List.filter_append, List.filter_append, List.filter_append, hblank lead hl,
      hblank trail ht, hblank _ fun c hc => isBlank_of_mem_indentTo hc, List.append_nil]

/-- A carriage return that is lost would be one that the layout had put there. -/
theorem line_row_of_dropReturn {style : Style} {r : Region} {l : Line}
    (h : dropReturn (row style r l).line = l) : (row style r l).line = l := by
  by_cases hr : r = .textBlock
  · rw [hr]; rfl
  · rw [row_of_ne hr, Row.line] at h ⊢
    rcases eq_dropReturn_or (reindent style.indentation (max style.tabWidth 1) l) with he | he
    · rw [he, h]
    · rw [h] at he
      have hf := filter_reindent style.indentation (max style.tabWidth 1) l
      rw [he, List.filter_append] at hf
      exact absurd (congrArg List.length hf) (by simp [isBlank])

theorem map_line_rows_of_dropReturn {style : Style} {r : Region} {ls : List Line}
    (h : (rows style r ls).map (fun x => dropReturn x.line) = ls) :
    (rows style r ls).map Row.line = ls := by
  induction ls generalizing r with
  | nil => rfl
  | cons l ls ih =>
    rw [rows, List.map_cons] at h ⊢
    obtain ⟨hl, hls⟩ := List.cons.inj h
    rw [line_row_of_dropReturn hl, ih hls]

/-- **A layout with as many lines as the source** has the lines of its rows, which are tight. -/
theorem layoutLines_of_length {style : Style} {ls : List Line}
    (h : (layoutLines style ls).length = ls.length) :
    layoutLines style ls = (rows style .code ls).map Row.line ∧
      Tight false (rows style .code ls) ∧ ¬EmptyAt (rows style .code ls) 0 := by
  have hlen := length_rows style .code ls
  have hsub := List.dropWhile_sublist Row.isEmpty (l := rows style .code ls)
  have hle := length_squeeze_le false ((rows style .code ls).dropWhile Row.isEmpty)
  rw [← layoutLines, h, Bool.toNat_false] at hle
  have hdrop : (rows style .code ls).dropWhile Row.isEmpty = rows style .code ls :=
    hsub.eq_of_length_le (by omega)
  have htight : Tight false (rows style .code ls) := by
    by_contra hn
    have hlt := length_squeeze_lt hn
    rw [← hdrop, ← layoutLines, h, hdrop, Bool.toNat_false] at hlt
    omega
  refine ⟨?_, htight, ?_⟩
  · rw [layoutLines, hdrop, squeeze_of_tight htight]
    rfl
  · cases hrs : rows style .code ls with
    | nil => simp [EmptyAt]
    | cons r rest =>
      rw [hrs] at hdrop
      intro he
      have hr : r.isEmpty = true := by simpa [EmptyAt] using he
      rw [List.dropWhile_cons_of_pos hr] at hdrop
      have := congrArg List.length hdrop
      have := (List.dropWhile_sublist Row.isEmpty (l := rest)).length_le
      rw [List.length_cons] at *
      omega

/-- A text that a layout leaves alone has its own lines, each with the terminator behind it. -/
theorem formatText_eq_self_iff_layoutLines (style : Style) (s : List Char) :
    formatText style s = s ↔ s = [] ∨
      s = (Terminator.ofText s).unlines (lines s) ∧ layoutLines style (lines s) = lines s := by
  have hlf : ∀ l ∈ layoutLines style (lines s), '\n' ∉ l := fun l hl =>
    not_mem_of_mem_layoutLines hl
  constructor
  · intro h
    refine Or.inr ?_
    suffices hls : layoutLines style (lines s) = lines s by
      refine ⟨?_, hls⟩
      rw [formatText, hls] at h
      exact h.symm
    have hread : lines s = lines (formatText style s) := by rw [h]
    cases ht : Terminator.ofText s with
    | crlf =>
      rw [formatText, ht, Terminator.lines_unlines_crlf hlf] at hread
      exact hread.symm
    | lf =>
      rw [formatText, ht, Terminator.lines_unlines_lf hlf] at hread
      have hlen := congrArg List.length hread
      rw [List.length_map] at hlen
      have hmap := (layoutLines_of_length hlen.symm).1
      rw [hmap, List.map_map] at hread
      rw [hmap]
      exact map_line_rows_of_dropReturn hread.symm
  · rintro (rfl | ⟨hterm, hls⟩)
    · rfl
    · rw [formatText, hls]
      exact hterm.symm

end Source

end JavaFormat
