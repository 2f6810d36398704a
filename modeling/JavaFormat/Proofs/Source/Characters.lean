import JavaFormat.Proofs.Source.NormalForm

/-!
# The characters of a formatted text

A layout takes away and puts in nothing but spacing: blanks, carriage returns and line feeds.  All
other characters stay, in order (`withoutSpacing_formatText`), so that a character that is not
spacing is in a formatted text if and only if it is in the text (`mem_formatText_iff`).
-/

set_option autoImplicit false

namespace JavaFormat

namespace Source

open Text

/-- Whether a character only says where others stand. -/
def isSpacing (c : Char) : Bool := isBlank c || c == '\r' || c == '\n'

/-- A text without its spacing. -/
def withoutSpacing (s : List Char) : List Char := s.filter fun c => !isSpacing c

theorem withoutSpacing_append (s t : List Char) :
    withoutSpacing (s ++ t) = withoutSpacing s ++ withoutSpacing t := List.filter_append ..

/-! ## Lines -/

theorem withoutSpacing_reindent (indentation : Indentation) (tab : UInt64) (l : Line) :
    withoutSpacing (reindent indentation tab l) = withoutSpacing l := by
  have hfilter : ∀ k : Line,
      withoutSpacing k = (k.filter fun c => !isBlank c).filter fun c => !isSpacing c := fun k => by
    rw [withoutSpacing, List.filter_filter]
    refine List.filter_congr fun c _ => ?_
    cases hb : isBlank c <;> simp [isSpacing, hb]
  rw [hfilter, filter_reindent, ← hfilter]

theorem withoutSpacing_row (style : Style) (r : Region) (l : Line) :
    withoutSpacing (row style r l).line = withoutSpacing l := by
  by_cases hr : r = .textBlock
  · rw [hr]; rfl
  · rw [row_of_ne hr]
    exact withoutSpacing_reindent _ _ l

theorem withoutSpacing_dropReturn (l : Line) :
    withoutSpacing (dropReturn l) = withoutSpacing l :=
  apply_dropReturn (fun k => by rw [withoutSpacing_append]; exact List.append_nil _) l

/-- The lines of a text have all of its characters but spacing. -/
theorem flatMap_lines (s : List Char) : (lines s).flatMap withoutSpacing = withoutSpacing s := by
  induction s using lineInduction with
  | last l hl =>
    rw [lines_of_not_mem hl]
    split
    · rename_i hnil
      rw [hnil]
      rfl
    · exact List.flatMap_singleton ..
  | line l rest hl ih =>
    rw [lines_append_cons hl, List.flatMap_cons, withoutSpacing_dropReturn, ih,
      withoutSpacing_append]
    rfl

theorem withoutSpacing_unlines (t : Terminator) (ls : List Line) :
    withoutSpacing (t.unlines ls) = ls.flatMap withoutSpacing := by
  induction ls with
  | nil => rfl
  | cons l ls ih =>
    have hchars : withoutSpacing t.chars = [] := by cases t <;> rfl
    rw [Terminator.unlines_cons, withoutSpacing_append, withoutSpacing_append, hchars, ih,
      List.append_nil, List.flatMap_cons]

/-! ## Layouts -/

theorem flatMap_rows (style : Style) (r : Region) (ls : List Line) :
    (rows style r ls).flatMap (fun x => withoutSpacing x.line) = ls.flatMap withoutSpacing := by
  induction ls generalizing r with
  | nil => rfl
  | cons l ls ih => rw [rows, List.flatMap_cons, List.flatMap_cons, withoutSpacing_row, ih]

/-- Squeezing takes away nothing but empty lines. -/
theorem flatMap_squeeze (gap : Bool) (rs : List Row) :
    (squeeze gap rs).flatMap withoutSpacing = rs.flatMap fun x => withoutSpacing x.line := by
  induction rs generalizing gap with
  | nil => rfl
  | cons r rest ih =>
    by_cases h : r.isEmpty = true
    · rw [squeeze_cons_of_isEmpty h, ih, List.flatMap_cons, line_of_isEmpty h]
      rfl
    · rw [squeeze_cons h, List.flatMap_append, List.flatMap_cons, List.flatMap_cons, ih]
      cases gap <;> rfl

theorem flatMap_dropWhile_isBlankLine (ls : List Line) :
    (ls.dropWhile isBlankLine).flatMap withoutSpacing = ls.flatMap withoutSpacing := by
  induction ls with
  | nil => rfl
  | cons l ls ih =>
    by_cases h : isBlankLine l = true
    · have hnone : withoutSpacing l = [] := List.filter_eq_nil_iff.2 fun c hc => by
        simp [isSpacing, isBlankLine_iff.1 h c hc]
      rw [List.dropWhile_cons_of_pos h, ih, List.flatMap_cons, hnone, List.nil_append]
    · rw [List.dropWhile_cons_of_neg h]

/-- **A layout keeps every character that is not spacing**, in order. -/
theorem withoutSpacing_formatText (style : Style) (s : List Char) :
    withoutSpacing (formatText style s) = withoutSpacing s := by
  rw [formatText, withoutSpacing_unlines, layoutLines_eq, flatMap_squeeze, flatMap_rows,
    flatMap_dropWhile_isBlankLine, flatMap_lines]

/-- **A character that is not spacing** is in a formatted text if it is in the text. -/
theorem mem_formatText_iff {style : Style} {s : List Char} {c : Char} (hc : isSpacing c = false) :
    c ∈ formatText style s ↔ c ∈ s := by
  have hmem : ∀ t : List Char, c ∈ withoutSpacing t ↔ c ∈ t := fun t => by
    simp [withoutSpacing, hc]
  rw [← hmem, withoutSpacing_formatText, hmem]

end Source

end JavaFormat
