import JavaFormat.Proofs.Source.Stability
import Mathlib.Logic.Function.Iterate

/-!
# Formatting again and again settles

A round of formatting may leave carriage returns at the ends of lines with a line feed alone behind
them.  The next round reads these as parts of terminators, so that lines get shorter, blanks come to
trail them, or every terminator of the text changes.  What never happens is that a carriage return
comes back into a line.

* `lineReturns_layoutLines`: a layout keeps the carriage returns that are in the lines.
* `lineReturns_formatText_lt`: a round after which the text is not settled takes one of them away.
* `format_iterate_settles`: so there are no more such rounds than carriage returns in the text.
-/

set_option autoImplicit false

namespace JavaFormat

namespace Source

open Text

/-! ## Carriage returns in lines -/

/-- How many carriage returns there are in some lines. -/
def lineReturns (ls : List Line) : Nat := (ls.map (List.count '\r')).sum

@[simp] theorem lineReturns_nil : lineReturns [] = 0 := rfl

@[simp] theorem lineReturns_cons (l : Line) (ls : List Line) :
    lineReturns (l :: ls) = l.count '\r' + lineReturns ls := List.sum_cons

@[simp] theorem lineReturns_append (ls ks : List Line) :
    lineReturns (ls ++ ks) = lineReturns ls + lineReturns ks := by
  rw [lineReturns, List.map_append, List.sum_append]
  rfl

theorem count_return_of_blank {l : Line} (h : ∀ c ∈ l, isBlank c = true) : l.count '\r' = 0 :=
  List.count_eq_zero.2 fun hr => absurd (h _ hr) (by decide)

theorem count_return_reindent (indentation : Indentation) (tab : UInt64) (l : Line) :
    (reindent indentation tab l).count '\r' = l.count '\r' := by
  have hfilter : ∀ k : Line, (k.filter fun c => !isBlank c).count '\r' = k.count '\r' :=
    fun k => List.count_filter (by decide)
  rw [← hfilter, filter_reindent, hfilter]

theorem count_return_row (style : Style) (r : Region) (l : Line) :
    (row style r l).line.count '\r' = l.count '\r' := by
  by_cases hr : r = .textBlock
  · rw [hr]; rfl
  · rw [row_of_ne hr]
    exact count_return_reindent _ _ l

theorem lineReturns_rows (style : Style) (r : Region) (ls : List Line) :
    lineReturns ((rows style r ls).map Row.line) = lineReturns ls := by
  induction ls generalizing r with
  | nil => rfl
  | cons l ls ih =>
    rw [rows, List.map_cons, lineReturns_cons, lineReturns_cons, count_return_row, ih]

/-- Squeezing takes away nothing but empty lines. -/
theorem lineReturns_squeeze (gap : Bool) (rs : List Row) :
    lineReturns (squeeze gap rs) = lineReturns (rs.map Row.line) := by
  induction rs generalizing gap with
  | nil => rfl
  | cons r rest ih =>
    by_cases h : r.isEmpty = true
    · rw [squeeze_cons_of_isEmpty h, ih, List.map_cons, line_of_isEmpty h, lineReturns_cons,
        List.count_nil, Nat.zero_add]
    · rw [squeeze_cons h, lineReturns_append, lineReturns_cons, ih, List.map_cons,
        lineReturns_cons]
      cases gap <;> simp

theorem lineReturns_dropWhile_isBlankLine (ls : List Line) :
    lineReturns (ls.dropWhile isBlankLine) = lineReturns ls := by
  induction ls with
  | nil => rfl
  | cons l ls ih =>
    by_cases h : isBlankLine l = true
    · rw [List.dropWhile_cons_of_pos h, ih, lineReturns_cons,
        count_return_of_blank (isBlankLine_iff.1 h), Nat.zero_add]
    · rw [List.dropWhile_cons_of_neg h]

/-- **A layout keeps the carriage returns in lines**, since none is a blank. -/
theorem lineReturns_layoutLines (style : Style) (ls : List Line) :
    lineReturns (layoutLines style ls) = lineReturns ls := by
  rw [layoutLines_eq, lineReturns_squeeze, lineReturns_rows, lineReturns_dropWhile_isBlankLine]

theorem count_return_dropReturn_le (l : Line) : (dropReturn l).count '\r' ≤ l.count '\r' := by
  rcases eq_dropReturn_or l with h | h
  · exact Nat.le_of_eq (by rw [← h])
  · conv => rhs; rw [h]
    rw [List.count_append]
    exact Nat.le_add_right ..

theorem count_return_dropReturn_lt {l : Line} (h : l.getLast? = some '\r') :
    (dropReturn l).count '\r' < l.count '\r' := by
  obtain ⟨k, rfl⟩ := List.getLast?_eq_some_iff.1 h
  rw [dropReturn_append_return, List.count_append]
  exact Nat.lt_succ_self _

/-- The carriage returns in the lines of a text are some of those in the text. -/
theorem lineReturns_lines_le (s : List Char) : lineReturns (lines s) ≤ s.count '\r' := by
  induction s using lineInduction with
  | last l hl =>
    rw [lines_of_not_mem hl]
    split <;> simp
  | line l rest hl ih =>
    have hle := count_return_dropReturn_le l
    rw [lines_append_cons hl, lineReturns_cons, List.count_append,
      List.count_cons_of_ne (by decide)]
    omega

/-- Lines of which one ends with a carriage return are read back with fewer of them. -/
theorem lineReturns_map_dropReturn_lt {ls : List Line} (h : ∃ l ∈ ls, l.getLast? = some '\r') :
    lineReturns (ls.map dropReturn) < lineReturns ls := by
  obtain ⟨l, hl, hr⟩ := h
  rw [lineReturns, lineReturns, List.map_map]
  exact List.sum_lt_sum _ _ (fun k _ => count_return_dropReturn_le k)
    ⟨l, hl, count_return_dropReturn_lt hr⟩

/-! ## Rounds -/

/-- **A round that does not settle a text** takes a carriage return out of its lines: it has left
one at the end of a line where it is read as a part of the terminator. -/
theorem lineReturns_formatText_lt {style : Style} {s : List Char}
    (h : formatText style (formatText style s) ≠ formatText style s) :
    lineReturns (lines (formatText style s)) < lineReturns (lines s) := by
  have hends : Terminator.ofText s = .lf ∧
      ∃ l ∈ layoutLines style (lines s), l.getLast? = some '\r' := by
    by_contra hnone
    refine h (formatText_formatText style style.indentation style.indentation ?_)
    exact fun hlf l hl hr => hnone ⟨hlf, l, hl, hr⟩
  have hread : lines (formatText style s) = (layoutLines style (lines s)).map dropReturn := by
    rw [formatText, hends.1, Terminator.lines_unlines_lf fun l hl => not_mem_of_mem_layoutLines hl]
  rw [hread, ← lineReturns_layoutLines style (lines s)]
  exact lineReturns_map_dropReturn_lt hends.2

/-- What gets smaller with every application that does not settle bounds how many there are. -/
theorem iterate_settles {α : Type} (f : α → α) (size : α → Nat)
    (h : ∀ x, f (f x) ≠ f x → size (f x) < size x) {n : Nat} {x : α} (hn : size x ≤ n) :
    f (f^[n + 1] x) = f^[n + 1] x := by
  induction n generalizing x with
  | zero =>
    by_contra hne
    exact absurd (h x hne) (Nat.not_lt.2 (Nat.le_trans hn (Nat.zero_le _)))
  | succ n ih =>
    rw [Function.iterate_succ_apply]
    by_cases hx : f (f x) = f x
    · rw [Function.iterate_fixed hx, hx]
    · exact ih (Nat.le_of_lt_succ (Nat.lt_of_lt_of_le (h x hx) hn))

/-- **Formatting again and again settles.**  After one more round than there are carriage returns in
the source, wherever these stand, formatting changes nothing. -/
theorem format_iterate_settles (style : Style) (source : String) :
    format style ((format style)^[source.toList.count '\r' + 1] source) =
      (format style)^[source.toList.count '\r' + 1] source := by
  refine iterate_settles (format style) (fun text => lineReturns (lines text.toList))
    (fun text hne => ?_) (lineReturns_lines_le source.toList)
  rw [format, format, String.toList_ofList] at hne
  rw [format, String.toList_ofList]
  exact lineReturns_formatText_lt fun he => hne (congrArg String.ofList he)

end Source

end JavaFormat
