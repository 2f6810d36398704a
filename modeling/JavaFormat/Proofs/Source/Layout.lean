import JavaFormat.Proofs.Source.Lexer
import JavaFormat.Source.Layout

/-!
# Laying out what is laid out

A layout reads the lines of a source as rows, which tells empty lines from others and leaves the
lines of text blocks alone, and then squeezes the rows.  What is read from the squeezed lines is
what `squeezeRows` makes of the rows (`rows_squeeze`), so that a layout of a layout is a layout of
the source:

* `layoutLines_layoutLines`: the indentation of the first layout does not matter for a second one.
* `formatText_formatText`: the same for texts, where no carriage return is at stake.
* `filterMap_squeezeRows`: what does not see empty rows does not see that rows are squeezed.
-/

set_option autoImplicit false

namespace JavaFormat

namespace Source

open Text

/-! ## Regions -/

/-- The regions that lines start in under a style: without text blocks only code. -/
def IsRegionOf (style : Style) (r : Region) : Prop :=
  style.baseline.hasTextBlocks = true ∨ r = .code

theorem isRegionOf_code (style : Style) : IsRegionOf style .code := Or.inr rfl

theorem isRegionOf_nextRegion (style : Style) (r : Region) (l : Line) :
    IsRegionOf style (nextRegion style r l) := by
  rw [nextRegion]
  split
  · next h => exact Or.inl h
  · exact Or.inr rfl

/-- A line of blanks leaves the region as it is. -/
theorem nextRegion_of_blank {style : Style} {r : Region} (hr : IsRegionOf style r) {l : Line}
    (h : ∀ c ∈ l, isBlank c = true) : nextRegion style r l = r := by
  rw [nextRegion]
  split
  · exact scanLine_of_blank r h
  · next hb => exact (hr.resolve_left hb).symm

/-- With text blocks the region after some lines is found by scanning them. -/
theorem foldl_nextRegion {style : Style} (h : style.baseline.hasTextBlocks = true) (r : Region)
    (ls : List Line) : ls.foldl (nextRegion style) r = ls.foldl scanLine r := by
  have hnext : nextRegion style = scanLine := by
    funext r l
    rw [nextRegion, if_pos h]
  rw [hnext]

/-- Without text blocks there is nothing but code. -/
theorem foldl_nextRegion_code {style : Style} (h : style.baseline.hasTextBlocks ≠ true)
    (ls : List Line) : ls.foldl (nextRegion style) .code = .code := by
  induction ls with
  | nil => rfl
  | cons l ls ih => rw [List.foldl_cons, nextRegion, if_neg h, ih]

theorem nextRegion_reindent (style : Style) (indentation : Indentation) (tab : UInt64) (r : Region)
    (l : Line) : nextRegion style r (reindent indentation tab l) = nextRegion style r l := by
  rw [nextRegion, nextRegion, scanLine_reindent]

/-! ## Rows -/

theorem row_textBlock (style : Style) (l : Line) : row style .textBlock l = .verbatim l := rfl

theorem row_of_ne {style : Style} {r : Region} (h : r ≠ .textBlock) (l : Line) :
    row style r l = .code (reindent style.indentation (max style.tabWidth 1) l) := by
  cases r with
  | textBlock => exact absurd rfl h
  | code => rfl
  | blockComment => rfl

theorem reindent_eq_nil_iff {indentation : Indentation} {tab : UInt64} {l : Line} :
    reindent indentation tab l = [] ↔ ∀ c ∈ l, isBlank c = true := by
  refine ⟨fun h => ?_, reindent_of_blank indentation tab⟩
  rcases blank_or_body_reindent indentation tab l with ⟨hl, -⟩ | ⟨lead, body, -, -, -, hb, -, hr⟩
  · exact hl
  · rw [h] at hr
    exact absurd (List.append_eq_nil_iff.1 hr.symm).2 hb.ne_nil

/-- A row is empty if its line is blank and starts outside text blocks. -/
theorem isEmpty_row_iff {style : Style} {r : Region} {l : Line} :
    (row style r l).isEmpty = true ↔ r ≠ .textBlock ∧ ∀ c ∈ l, isBlank c = true := by
  by_cases h : r = .textBlock
  · subst h
    simp [row_textBlock, Row.isEmpty]
  · rw [row_of_ne h, Row.isEmpty, List.isEmpty_iff, reindent_eq_nil_iff]
    exact ⟨fun hl => ⟨h, hl⟩, And.right⟩

theorem line_of_isEmpty {r : Row} (h : r.isEmpty = true) : r.line = [] := by
  cases r with
  | verbatim l => exact absurd h Bool.false_ne_true
  | code l => exact List.isEmpty_iff.1 h

theorem length_rows (style : Style) (r : Region) (ls : List Line) :
    (rows style r ls).length = ls.length := by
  induction ls generalizing r with
  | nil => rfl
  | cons l ls ih => rw [rows, List.length_cons, List.length_cons, ih]

/-- The empty rows at the start are those of the blank lines there. -/
theorem dropWhile_rows {style : Style} {r : Region} (hr : IsRegionOf style r)
    (hne : r ≠ .textBlock) (ls : List Line) :
    (rows style r ls).dropWhile Row.isEmpty = rows style r (ls.dropWhile isBlankLine) := by
  induction ls with
  | nil => rfl
  | cons l ls ih =>
    by_cases hl : ∀ c ∈ l, isBlank c = true
    · rw [rows, List.dropWhile_cons_of_pos (isEmpty_row_iff.2 ⟨hne, hl⟩), nextRegion_of_blank hr hl,
        ih, List.dropWhile_cons_of_pos (isBlankLine_iff.2 hl)]
    · rw [rows, List.dropWhile_cons_of_neg fun he => hl (isEmpty_row_iff.1 he).2,
        List.dropWhile_cons_of_neg fun ha => hl (isBlankLine_iff.1 ha), rows]

/-! ## Squeezing rows -/

/-- The rows that stay: what `squeeze` leaves, as rows. -/
def squeezeRows : Bool → List Row → List Row
  | _, [] => []
  | gap, r :: rest =>
    if r.isEmpty then squeezeRows true rest
    else if gap then .code [] :: r :: squeezeRows false rest
    else r :: squeezeRows false rest

theorem squeeze_cons_of_isEmpty {r : Row} (h : r.isEmpty = true) (gap : Bool) (rest : List Row) :
    squeeze gap (r :: rest) = squeeze true rest := by
  rw [squeeze, if_pos h]

theorem squeeze_cons {r : Row} (h : r.isEmpty ≠ true) (gap : Bool) (rest : List Row) :
    squeeze gap (r :: rest) = (if gap then [[]] else []) ++ r.line :: squeeze false rest := by
  rw [squeeze, if_neg h]
  cases gap <;> rfl

theorem squeezeRows_cons_of_isEmpty {r : Row} (h : r.isEmpty = true) (gap : Bool)
    (rest : List Row) : squeezeRows gap (r :: rest) = squeezeRows true rest := by
  rw [squeezeRows, if_pos h]

theorem squeezeRows_cons {r : Row} (h : r.isEmpty ≠ true) (gap : Bool) (rest : List Row) :
    squeezeRows gap (r :: rest) =
      (if gap then [.code []] else []) ++ r :: squeezeRows false rest := by
  rw [squeezeRows, if_neg h]
  cases gap <;> rfl

/-- Squeezed rows are squeezed. -/
theorem squeeze_squeezeRows (gap : Bool) (rs : List Row) :
    squeeze false (squeezeRows gap rs) = squeeze gap rs := by
  induction rs generalizing gap with
  | nil => rfl
  | cons r rest ih =>
    by_cases h : r.isEmpty = true
    · rw [squeezeRows_cons_of_isEmpty h, squeeze_cons_of_isEmpty h, ih]
    · rw [squeezeRows_cons h, squeeze_cons h]
      cases gap with
      | false => simp only [Bool.false_eq_true, if_false, List.nil_append, squeeze_cons h, ih]
      | true =>
        simp only [if_true, List.singleton_append]
        rw [squeeze_cons_of_isEmpty rfl, squeeze_cons h, ih]
        rfl

section

variable {α : Type} {f : Row → Option α} (hf : ∀ r : Row, r.isEmpty = true → f r = none)

include hf

/-- Empty rows that go or come do not show where empty rows do not count. -/
theorem filterMap_squeezeRows (gap : Bool) (rs : List Row) :
    (squeezeRows gap rs).filterMap f = rs.filterMap f := by
  induction rs generalizing gap with
  | nil => rfl
  | cons r rest ih =>
    by_cases h : r.isEmpty = true
    · rw [squeezeRows_cons_of_isEmpty h, List.filterMap_cons_none (hf r h), ih]
    · rw [squeezeRows_cons h, List.filterMap_append, List.filterMap_cons, List.filterMap_cons, ih]
      cases gap with
      | false => rfl
      | true => rw [if_pos rfl, List.filterMap_cons_none (hf _ rfl)]; rfl

theorem filterMap_dropWhile_isEmpty (rs : List Row) :
    (rs.dropWhile Row.isEmpty).filterMap f = rs.filterMap f := by
  induction rs with
  | nil => rfl
  | cons r rest ih =>
    by_cases h : r.isEmpty = true
    · rw [List.dropWhile_cons_of_pos h, List.filterMap_cons_none (hf r h), ih]
    · rw [List.dropWhile_cons_of_neg h]

end

variable (style : Style) (first second : Indentation)

/-- **Reading squeezed lines gives the squeezed rows.**  A gap is never open where a text block
starts, since the line before is not blank. -/
theorem rows_squeeze (gap : Bool) {r : Region} (hr : IsRegionOf style r)
    (hgap : gap = true → r ≠ .textBlock) (ls : List Line) :
    rows { style with indentation := second } r
        (squeeze gap (rows { style with indentation := first } r ls)) =
      squeezeRows gap (rows { style with indentation := second } r ls) := by
  induction ls generalizing gap r with
  | nil => rfl
  | cons l ls ih =>
    have hnext := isRegionOf_nextRegion style r l
    by_cases hl : r ≠ .textBlock ∧ ∀ c ∈ l, isBlank c = true
    · have hsame : nextRegion { style with indentation := first } r l = r :=
        nextRegion_of_blank hr hl.2
      have hsame2 : nextRegion { style with indentation := second } r l = r :=
        nextRegion_of_blank hr hl.2
      rw [rows, rows, squeeze_cons_of_isEmpty (isEmpty_row_iff.2 hl),
        squeezeRows_cons_of_isEmpty (isEmpty_row_iff.2 hl), hsame, hsame2]
      exact ih true hr fun _ => hl.1
    · have hempty : ∀ i, (row { style with indentation := i } r l).isEmpty ≠ true :=
        fun i he => hl (isEmpty_row_iff.1 he)
      -- the row that is read from the line of the first row, and the region after it
      have hline : row { style with indentation := second } r
          (row { style with indentation := first } r l).line =
            row { style with indentation := second } r l ∧
          nextRegion { style with indentation := second } r
            (row { style with indentation := first } r l).line = nextRegion style r l := by
        by_cases hb : r = .textBlock
        · subst hb
          exact ⟨rfl, rfl⟩
        · rw [row_of_ne hb, row_of_ne hb, row_of_ne hb]
          exact ⟨congrArg Row.code (reindent_reindent first second (toNat_max_one_pos _) l),
            nextRegion_reindent style first _ r l⟩
      have htail := ih false hnext fun h => Bool.noConfusion h
      rw [rows, rows, squeeze_cons (hempty first), squeezeRows_cons (hempty second)]
      cases gap with
      | false =>
        simp only [Bool.false_eq_true, if_false, List.nil_append]
        rw [rows, hline.1, hline.2]
        exact congrArg _ htail
      | true =>
        have hnil : nextRegion { style with indentation := second } r [] = r :=
          nextRegion_of_blank hr fun c hc => absurd hc List.not_mem_nil
        simp only [if_true, List.singleton_append]
        rw [rows, hnil, rows, hline.1, hline.2, row_of_ne (hgap rfl)]
        exact congrArg _ (congrArg _ htail)

/-! ## Layouts -/

theorem layoutLines_eq (ls : List Line) :
    layoutLines style ls =
      squeeze false (rows style .code (ls.dropWhile isBlankLine)) := by
  rw [layoutLines, dropWhile_rows (isRegionOf_code style) (by decide)]

/-- **A layout of a layout is a layout.** -/
theorem layoutLines_layoutLines (ls : List Line) :
    layoutLines { style with indentation := second }
        (layoutLines { style with indentation := first } ls) =
      layoutLines { style with indentation := second } ls := by
  rw [layoutLines_eq _ ls, layoutLines_eq _ ls, layoutLines,
    rows_squeeze style first second false (isRegionOf_code style) fun h => Bool.noConfusion h]
  suffices h : (squeezeRows false (rows { style with indentation := second } .code
      (ls.dropWhile isBlankLine))).dropWhile Row.isEmpty = squeezeRows false
        (rows { style with indentation := second } .code (ls.dropWhile isBlankLine)) by
    rw [h, squeeze_squeezeRows]
  cases hd : ls.dropWhile isBlankLine with
  | nil => rfl
  | cons l rest =>
    have hl : ¬ ∀ c ∈ l, isBlank c = true := fun h => by
      have := List.head?_dropWhile_not isBlankLine ls
      rw [hd] at this
      exact Bool.false_ne_true (this.symm.trans (isBlankLine_iff.2 h))
    have hempty : (row { style with indentation := second } .code l).isEmpty ≠ true :=
      fun h => hl (isEmpty_row_iff.1 h).2
    rw [rows, squeezeRows_cons hempty]
    exact List.dropWhile_cons_of_neg hempty

/-! ## What the lines of a layout are made of -/

theorem mem_squeeze {gap : Bool} {rs : List Row} {l : Line} (h : l ∈ squeeze gap rs) :
    l = [] ∨ ∃ r ∈ rs, r.line = l := by
  induction rs generalizing gap with
  | nil => exact absurd h List.not_mem_nil
  | cons r rest ih =>
    have htail : l = [] ∨ (∃ x ∈ rest, x.line = l) → l = [] ∨ ∃ x ∈ r :: rest, x.line = l :=
      Or.imp_right fun ⟨x, hx, he⟩ => ⟨x, List.mem_cons_of_mem _ hx, he⟩
    by_cases hr : r.isEmpty = true
    · rw [squeeze_cons_of_isEmpty hr] at h
      exact htail (ih h)
    · rw [squeeze_cons hr] at h
      rcases List.mem_append.1 h with h | h
      · cases gap with
        | false => exact absurd h List.not_mem_nil
        | true => exact Or.inl (List.mem_singleton.1 h)
      · rcases List.mem_cons.1 h with rfl | h
        · exact Or.inr ⟨r, List.mem_cons_self .., rfl⟩
        · exact htail (ih h)

theorem mem_rows {r : Region} {ls : List Line} {x : Row} (h : x ∈ rows style r ls) :
    ∃ l ∈ ls, x.line = l ∨ x.line = reindent style.indentation (max style.tabWidth 1) l := by
  induction ls generalizing r with
  | nil => exact absurd h List.not_mem_nil
  | cons l ls ih =>
    rcases List.mem_cons.1 h with rfl | h
    · refine ⟨l, List.mem_cons_self .., ?_⟩
      by_cases hr : r = .textBlock
      · rw [hr]; exact Or.inl rfl
      · rw [row_of_ne hr]; exact Or.inr rfl
    · obtain ⟨k, hk, he⟩ := ih h
      exact ⟨k, List.mem_cons_of_mem _ hk, he⟩

/-- **Nothing but blanks comes into a layout.** -/
theorem mem_of_mem_layoutLines {style : Style} {ls : List Line} {l : Line}
    (h : l ∈ layoutLines style ls) {c : Char} (hc : c ∈ l) :
    (∃ k ∈ ls, c ∈ k) ∨ isBlank c = true := by
  rw [layoutLines_eq] at h
  rcases mem_squeeze h with rfl | ⟨x, hx, rfl⟩
  · exact absurd hc List.not_mem_nil
  · obtain ⟨k, hk, he⟩ := mem_rows style hx
    have hk := (List.dropWhile_sublist _).subset hk
    rcases he with he | he
    · exact Or.inl ⟨k, hk, he ▸ hc⟩
    · exact (mem_of_mem_reindent (he ▸ hc)).imp_left fun hm => ⟨k, hk, hm⟩

/-- No line of a layout of a text has a line feed in it. -/
theorem not_mem_of_mem_layoutLines {style : Style} {s : List Char} {l : Line}
    (h : l ∈ layoutLines style (lines s)) : '\n' ∉ l := fun hc => by
  rcases mem_of_mem_layoutLines h hc with ⟨k, hk, hm⟩ | hb
  · exact not_mem_of_mem_lines hk hm
  · exact absurd hb (by decide)

/-! ## Texts -/

/-- **Laying out a text that is laid out** gives what laying out the text gives, unless a carriage
return at the end of a line is read as a part of the terminator. -/
theorem formatText_formatText {s : List Char}
    (h : Terminator.ofText s = .lf →
      ∀ l ∈ layoutLines { style with indentation := first } (lines s), l.getLast? ≠ some '\r') :
    formatText { style with indentation := second }
        (formatText { style with indentation := first } s) =
      formatText { style with indentation := second } s := by
  have hlf : ∀ l ∈ layoutLines { style with indentation := first } (lines s), '\n' ∉ l :=
    fun l hl => not_mem_of_mem_layoutLines hl
  have htwice := layoutLines_layoutLines style first second (lines s)
  rw [formatText, formatText, formatText, Terminator.lines_unlines_eq hlf h, htwice]
  by_cases hne : layoutLines { style with indentation := first } (lines s) = []
  · rw [hne] at htwice
    rw [← htwice]
    rfl
  · rw [Terminator.ofText_unlines_eq hne hlf h]

/-- **Laying out is idempotent** on texts in which every carriage return belongs to a
terminator. -/
theorem formatText_idem {s : List Char} (h : ReturnsPaired s) :
    formatText style (formatText style s) = formatText style s := by
  refine formatText_formatText style style.indentation style.indentation fun _ l hl hr => ?_
  rcases mem_of_mem_layoutLines hl (List.mem_of_getLast? hr) with ⟨k, hk, hm⟩ | hb
  · exact h.not_mem_of_mem_lines hk hm
  · exact absurd hb (by decide)

theorem format_idem {source : String} (h : ReturnsPaired source.toList) :
    format style (format style source) = format style source := by
  rw [format, format, String.toList_ofList, formatText_idem style h]

end Source

end JavaFormat
