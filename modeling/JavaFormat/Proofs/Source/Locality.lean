import JavaFormat.Proofs.Source.Layout

/-!
# Layouts are local

A source that is cut behind a line feed is laid out in two parts (`formatText_append`).  Three
things go from one line to the next and might cross the cut: whether an empty line was just read,
whether anything was emitted, and the region.  If the first part ends in code and both parts leave
something, all that comes of them is one empty line, which stands between the parts if there is a
blank line on either side of the cut.
-/

set_option autoImplicit false

namespace JavaFormat

namespace Text

/-! ## Texts that are cut behind a line feed -/

theorem lines_append {s : List Char} (hs : s.getLast? = some '\n') (t : List Char) :
    lines (s ++ t) = lines s ++ lines t := by
  induction s using lineInduction with
  | last l hl => exact absurd (List.mem_of_getLast? hs) hl
  | line l rest hl ih =>
    rw [List.append_assoc, List.cons_append, lines_append_cons hl, lines_append_cons hl]
    by_cases hrest : rest = []
    · rw [hrest]
      rfl
    · rw [List.getLast?_append, List.getLast?_cons_of_ne_nil hrest] at hs
      obtain ⟨c, hc⟩ := Option.ne_none_iff_exists'.1 fun h => hrest (List.getLast?_eq_none_iff.1 h)
      rw [hc, Option.some_or] at hs
      rw [ih (hc.trans hs), List.cons_append]

theorem Terminator.ofText_append {s : List Char} (hs : s.getLast? = some '\n') (t : List Char) :
    ofText (s ++ t) = ofText s := by
  rcases exists_first_line s with hl | ⟨l, rest, hl, rfl⟩
  · exact absurd (List.mem_of_getLast? hs) hl
  · rw [List.append_assoc, List.cons_append, ofText_append_cons hl, ofText_append_cons hl]

theorem Terminator.unlines_append (t : Terminator) (ls ks : List Line) :
    t.unlines (ls ++ ks) = t.unlines ls ++ t.unlines ks := List.flatMap_append

end Text

namespace Source

open Text

variable {style : Style}

/-! ## Rows that are cut -/

theorem rows_append (style : Style) (r : Region) (ls ks : List Line) :
    rows style r (ls ++ ks) =
      rows style r ls ++ rows style (ls.foldl (nextRegion style) r) ks := by
  induction ls generalizing r with
  | nil => rfl
  | cons l ls ih => exact congrArg _ (ih _)

theorem isRegionOf_foldl {r : Region} (hr : IsRegionOf style r) (ls : List Line) :
    IsRegionOf style (ls.foldl (nextRegion style) r) := by
  induction ls generalizing r with
  | nil => exact hr
  | cons l ls ih => exact ih (isRegionOf_nextRegion style r l)

/-- Whether an empty row was just read after some rows, if `gap` says so before them. -/
def gapAfter (gap : Bool) (rs : List Row) : Bool := (rs.getLast?.map Row.isEmpty).getD gap

theorem gapAfter_cons (gap : Bool) (r : Row) (rs : List Row) :
    gapAfter gap (r :: rs) = gapAfter r.isEmpty rs := by
  rw [gapAfter, gapAfter, List.getLast?_cons]
  cases rs.getLast? <;> rfl

/-- **Squeezing goes on behind the cut** with nothing but what was read last. -/
theorem squeeze_append (gap : Bool) (rs qs : List Row) :
    squeeze gap (rs ++ qs) = squeeze gap rs ++ squeeze (gapAfter gap rs) qs := by
  induction rs generalizing gap with
  | nil => rfl
  | cons r rs ih =>
    rw [List.cons_append, gapAfter_cons]
    by_cases h : r.isEmpty = true
    · rw [squeeze_cons_of_isEmpty h, squeeze_cons_of_isEmpty h, ih, h]
    · rw [squeeze_cons h, squeeze_cons h, ih, Bool.eq_false_iff.2 h, List.append_assoc]
      rfl

/-- Where a row stays, an empty row in front or one that was just read leaves one empty line. -/
theorem squeeze_eq (gap : Bool) {rs : List Row} (h : rs.dropWhile Row.isEmpty ≠ []) :
    squeeze gap rs = (if gap || rs.head?.any Row.isEmpty then [[]] else []) ++
      squeeze false (rs.dropWhile Row.isEmpty) := by
  induction rs generalizing gap with
  | nil => exact absurd rfl h
  | cons r rs ih =>
    by_cases hr : r.isEmpty = true
    · rw [List.dropWhile_cons_of_pos hr] at h
      rw [squeeze_cons_of_isEmpty hr, ih true h, List.dropWhile_cons_of_pos hr]
      simp [hr]
    · rw [List.dropWhile_cons_of_neg hr, squeeze_cons hr, squeeze_cons hr]
      simp [hr]

/-! ## Lines at the cut -/

/-- Where the lines end in code, the last row is empty if the last line is blank. -/
theorem gapAfter_rows {ls : List Line} (hcode : ls.foldl (nextRegion style) .code = .code) :
    gapAfter false (rows style .code ls) = ls.getLast?.any isBlankLine := by
  rcases List.eq_nil_or_concat ls with rfl | ⟨front, l, rfl⟩
  · rfl
  · rw [List.concat_eq_append] at hcode ⊢
    rw [rows_append, gapAfter, rows, rows, List.getLast?_concat, List.getLast?_concat]
    rw [List.foldl_append, List.foldl_cons, List.foldl_nil] at hcode
    rw [Option.map_some, Option.getD_some, Option.any_some, Bool.eq_iff_iff, isEmpty_row_iff,
      isBlankLine_iff]
    refine ⟨And.right, fun hl => ⟨?_, hl⟩⟩
    rw [nextRegion_of_blank (isRegionOf_foldl (isRegionOf_code style) front) hl] at hcode
    rw [hcode]
    decide

/-- In code the first row is empty if the first line is blank. -/
theorem head?_rows (ls : List Line) :
    (rows style .code ls).head?.any Row.isEmpty = ls.head?.any isBlankLine := by
  cases ls with
  | nil => rfl
  | cons l ls =>
    rw [rows, List.head?_cons, List.head?_cons, Option.any_some, Option.any_some, Bool.eq_iff_iff,
      isEmpty_row_iff, isBlankLine_iff]
    exact ⟨And.right, fun hl => ⟨by decide, hl⟩⟩

theorem gapAfter_dropWhile {rs : List Row} (h : rs.dropWhile Row.isEmpty ≠ []) :
    gapAfter false (rs.dropWhile Row.isEmpty) = gapAfter false rs := by
  obtain ⟨front, hfront⟩ := List.dropWhile_suffix (l := rs) Row.isEmpty
  obtain ⟨r, hr⟩ := Option.ne_none_iff_exists'.1 fun he => h (List.getLast?_eq_none_iff.1 he)
  rw [gapAfter, gapAfter, hr]
  rw [← hfront, List.getLast?_append, hr]
  rfl

/-! ## Layouts of two parts -/

/-- **The lines of a layout in two parts** are those of the parts, with an empty one between them
if one of the lines there is blank. -/
theorem layoutLines_append {ls ks : List Line}
    (hcode : ls.foldl (nextRegion style) .code = .code) (hls : layoutLines style ls ≠ [])
    (hks : layoutLines style ks ≠ []) :
    layoutLines style (ls ++ ks) = layoutLines style ls ++
      (if ls.getLast?.any isBlankLine || ks.head?.any isBlankLine then [[]] else []) ++
        layoutLines style ks := by
  have hstays : ∀ {js : List Line}, layoutLines style js ≠ [] →
      (rows style .code js).dropWhile Row.isEmpty ≠ [] := fun h he => by
    rw [layoutLines, he] at h
    exact h rfl
  have hgap := gapAfter_dropWhile (hstays hls)
  rw [gapAfter_rows hcode] at hgap
  have hempty : ((rows style .code ls).dropWhile Row.isEmpty).isEmpty = false := by
    simpa using hstays hls
  rw [layoutLines, rows_append, hcode, List.dropWhile_append, hempty,
    if_neg Bool.false_ne_true, squeeze_append, hgap, squeeze_eq _ (hstays hks), head?_rows,
    ← List.append_assoc]
  rfl

/-- **A layout is local.**  A source that is cut behind a line feed, into parts that use one
terminator and leave something, is laid out in two parts if the first one does not end in a comment
or a text block, for a language version with text blocks.  Between the parts stands an empty line
just if the last line of the first or the first line of the second is blank. -/
theorem formatText_append (style : Style) {s t : List Char} (hend : s.getLast? = some '\n')
    (hterm : Terminator.ofText s = Terminator.ofText t) (hs : formatText style s ≠ [])
    (ht : formatText style t ≠ [])
    (hcode : style.baseline.hasTextBlocks = true → (lines s).foldl scanLine .code = .code) :
    formatText style (s ++ t) = formatText style s ++
      (if (lines s).getLast?.any isBlankLine || (lines t).head?.any isBlankLine then
        (Terminator.ofText s).chars else []) ++ formatText style t := by
  have hleft : ∀ {u : List Char}, formatText style u ≠ [] → layoutLines style (lines u) ≠ [] :=
    fun h he => by
      rw [formatText, he] at h
      exact h rfl
  have hregion : (lines s).foldl (nextRegion style) .code = .code := by
    by_cases hb : style.baseline.hasTextBlocks = true
    · rw [foldl_nextRegion hb, hcode hb]
    · exact foldl_nextRegion_code hb _
  rw [formatText, Terminator.ofText_append hend, lines_append hend,
    layoutLines_append hregion (hleft hs) (hleft ht), Terminator.unlines_append,
    Terminator.unlines_append, formatText, formatText, ← hterm]
  congr 2
  split
  · rw [Terminator.unlines_cons, Terminator.unlines_nil, List.nil_append, List.append_nil]
  · rfl

/-- The first part ends with a text block, which stays as it is, and with blank lines. -/
theorem formatText_append_block :
    formatText ⟨.j17, .tabs, 4⟩
        ("var s = \"\"\"\n  \n\"\"\"; \n \n\n".toList ++ "    f();\n\n".toList) =
      "var s = \"\"\"\n  \n\"\"\"; \n".toList ++ "\n".toList ++ "\tf();\n".toList := by
  have hcut := formatText_append ⟨.j17, .tabs, 4⟩
    (s := "var s = \"\"\"\n  \n\"\"\"; \n \n\n".toList) (t := "    f();\n\n".toList)
    (by decide) (by decide) (by decide) (by decide) (by decide)
  exact hcut.trans (by decide)

end Source

end JavaFormat
