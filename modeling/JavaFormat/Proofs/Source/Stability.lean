import JavaFormat.Proofs.Source.NormalForm
import Mathlib.Algebra.GroupWithZero.Nat
import Mathlib.Algebra.Order.BigOperators.Group.List
import Mathlib.Algebra.Order.Group.Nat

/-!
# Where formatting twice is formatting once

A layout can only be disturbed by carriage returns that are left at the ends of its lines: where a
line feed alone is written behind them, a second layout reads them as a part of the terminator.

* `map_getLast?_layoutLines`: which lines end with a carriage return does not depend on what the
  lines are indented with.
* `formatText_formatText_ne`: where some lines end so and others do not, a second layout changes
  the text.
* `format_format`: the exact scope of both.
-/

set_option autoImplicit false

namespace JavaFormat

namespace Source

open Text

/-! ## The last characters of the lines -/

theorem getLast?_reindent (first second : Indentation) (tab : UInt64) (l : Line) :
    (reindent first tab l).getLast? = (reindent second tab l).getLast? := by
  rcases blank_or_body l with hl | ⟨lead, body, trail, rfl, hlead, hbody, htrail⟩
  · rw [reindent_of_blank first tab hl, reindent_of_blank second tab hl]
  · rw [reindent_append first tab hlead hbody htrail, reindent_append second tab hlead hbody htrail,
      List.getLast?_append_of_ne_nil _ hbody.ne_nil, List.getLast?_append_of_ne_nil _ hbody.ne_nil]

variable (style : Style) (first second : Indentation)

theorem getLast?_row (r : Region) (l : Line) :
    (row { style with indentation := first } r l).line.getLast? =
      (row { style with indentation := second } r l).line.getLast? := by
  by_cases hr : r = .textBlock
  · rw [hr]; rfl
  · rw [row_of_ne hr, row_of_ne hr]
    exact getLast?_reindent first second _ l

theorem map_getLast?_squeeze (gap : Bool) (r : Region) (ls : List Line) :
    (squeeze gap (rows { style with indentation := first } r ls)).map List.getLast? =
      (squeeze gap (rows { style with indentation := second } r ls)).map List.getLast? := by
  induction ls generalizing gap r with
  | nil => rfl
  | cons l ls ih =>
    rw [rows, rows]
    by_cases h : r ≠ .textBlock ∧ ∀ c ∈ l, isBlank c = true
    · rw [squeeze_cons_of_isEmpty (isEmpty_row_iff.2 h), squeeze_cons_of_isEmpty
        (isEmpty_row_iff.2 h)]
      exact ih true _
    · rw [squeeze_cons fun he => h (isEmpty_row_iff.1 he), squeeze_cons fun he =>
        h (isEmpty_row_iff.1 he), List.map_append, List.map_append, List.map_cons, List.map_cons,
        getLast?_row style first second]
      exact congrArg _ (congrArg _ (ih false _))

/-- **The lines of two layouts end alike** if these differ in the indentation only. -/
theorem map_getLast?_layoutLines (ls : List Line) :
    (layoutLines { style with indentation := first } ls).map List.getLast? =
      (layoutLines { style with indentation := second } ls).map List.getLast? := by
  rw [layoutLines_eq, layoutLines_eq]
  exact map_getLast?_squeeze style first second false .code _

theorem exists_getLast?_layoutLines {ls : List Line} (p : Option Char → Prop)
    (h : ∃ l ∈ layoutLines { style with indentation := first } ls, p l.getLast?) :
    ∃ l ∈ layoutLines { style with indentation := second } ls, p l.getLast? := by
  obtain ⟨l, hl, hp⟩ := h
  have hmem := List.mem_map_of_mem (f := List.getLast?) hl
  rw [map_getLast?_layoutLines style first second, List.mem_map] at hmem
  obtain ⟨k, hk, he⟩ := hmem
  exact ⟨k, hk, he ▸ hp⟩

variable {style first second}

/-! ## Lines that are read back shorter -/

theorem length_unlines (t : Terminator) (ls : List Line) :
    (t.unlines ls).length = (ls.map fun l => l.length + t.chars.length).sum := by
  simp only [Terminator.unlines, List.length_flatMap, List.length_append]

theorem length_dropReturn_of_getLast? {l : Line} (h : l.getLast? = some '\r') :
    (dropReturn l).length + 1 = l.length := by
  obtain ⟨k, rfl⟩ := List.getLast?_eq_some_iff.1 h
  rw [dropReturn_append_return, List.length_append, List.length_singleton]

/-- Where some lines end with a carriage return and others do not, the lines that are read back
give another text with either terminator: a shorter one with a line feed, since some have lost a
character, and a longer one with both characters, since the others have lost none. -/
theorem unlines_map_dropReturn_ne {ls : List Line} (hsome : ∃ l ∈ ls, l.getLast? = some '\r')
    (hother : ∃ l ∈ ls, l.getLast? ≠ some '\r') (t : Terminator) :
    t.unlines (ls.map dropReturn) ≠ Terminator.lf.unlines ls := by
  have hle : ∀ l : Line, l.length ≤ (dropReturn l).length + 1 ∧
      (dropReturn l).length ≤ l.length := fun l => by
    rcases eq_dropReturn_or l with h | h
    · rw [← h]; omega
    · have := congrArg List.length h
      rw [List.length_append, List.length_singleton] at this
      omega
  intro he
  have hlen := congrArg List.length he
  rw [length_unlines, length_unlines, List.map_map] at hlen
  obtain ⟨l, hl, hr⟩ := hsome
  obtain ⟨k, hk, hn⟩ := hother
  cases t with
  | lf =>
    refine absurd hlen (Nat.ne_of_lt (List.sum_lt_sum _ _ (fun m _ => ?_) ⟨l, hl, ?_⟩))
    · exact Nat.add_le_add_right (hle m).2 _
    · exact Nat.add_lt_add_right (by have := length_dropReturn_of_getLast? hr; omega) _
  | crlf =>
    refine absurd hlen.symm (Nat.ne_of_lt (List.sum_lt_sum _ _ (fun m _ => ?_) ⟨k, hk, ?_⟩))
    · exact Nat.add_le_add_right (hle m).1 _
    · rw [Function.comp_apply, dropReturn_of_getLast? hn]
      exact Nat.lt_succ_self _

/-! ## Texts -/

/-- **A second layout changes a text** of which, with line feeds alone behind them, some lines end
with a carriage return and others do not. -/
theorem formatText_formatText_ne {s : List Char} (hlf : Terminator.ofText s = .lf)
    (hsome : ∃ l ∈ layoutLines style (lines s), l.getLast? = some '\r')
    (hother : ∃ l ∈ layoutLines style (lines s), l.getLast? ≠ some '\r') :
    formatText style (formatText style s) ≠ formatText style s := by
  have hread : lines (formatText style s) = (layoutLines style (lines s)).map dropReturn := by
    rw [formatText, hlf, Terminator.lines_unlines_lf fun l hl => not_mem_of_mem_layoutLines hl]
  intro he
  rcases (formatText_eq_self_iff_layoutLines style _).1 he with hnil | ⟨hterm, -⟩
  · obtain ⟨l, hl, -⟩ := hsome
    rw [hnil] at hread
    rw [List.map_eq_nil_iff.1 hread.symm] at hl
    exact absurd hl List.not_mem_nil
  · rw [hread] at hterm
    refine unlines_map_dropReturn_ne hsome hother _ (hterm.symm.trans ?_)
    rw [formatText, hlf]

/-- **How far formatting a formatted source is formatting the source.**  It is, with any two
indentations, where the terminator of the source takes carriage returns along or where no emitted
line ends with one; where the terminator is a line feed and some emitted lines end with a carriage
return and others do not, formatting twice is never formatting once.  Which indentation the lines
are emitted with does not matter. -/
theorem format_format (baseline : Baseline) (tabWidth : UInt64) (source : String)
    (emitted : Indentation) :
    ((Terminator.ofText source.toList = .crlf ∨
        ∀ l ∈ layoutLines ⟨baseline, emitted, tabWidth⟩ (lines source.toList),
          l.getLast? ≠ some '\r') →
      ∀ first second : Indentation,
        format ⟨baseline, second, tabWidth⟩ (format ⟨baseline, first, tabWidth⟩ source) =
          format ⟨baseline, second, tabWidth⟩ source) ∧
    (Terminator.ofText source.toList = .lf →
      (∃ l ∈ layoutLines ⟨baseline, emitted, tabWidth⟩ (lines source.toList),
        l.getLast? = some '\r') →
      (∃ l ∈ layoutLines ⟨baseline, emitted, tabWidth⟩ (lines source.toList),
        l.getLast? ≠ some '\r') →
      ∀ indentation : Indentation,
        format ⟨baseline, indentation, tabWidth⟩
            (format ⟨baseline, indentation, tabWidth⟩ source) ≠
          format ⟨baseline, indentation, tabWidth⟩ source) := by
  let style : Style := ⟨baseline, emitted, tabWidth⟩
  constructor
  · intro h first second
    rw [format, format, format, String.toList_ofList]
    refine congrArg String.ofList (formatText_formatText style first second fun hlf l hl hr => ?_)
    rcases h with hcrlf | hnone
    · rw [hlf] at hcrlf
      exact Terminator.noConfusion hcrlf
    · obtain ⟨k, hk, hend⟩ :=
        exists_getLast?_layoutLines style first emitted (· = some '\r') ⟨l, hl, hr⟩
      exact hnone k hk hend
  · intro hlf hsome hother indentation he
    rw [format, format, String.toList_ofList] at he
    exact formatText_formatText_ne hlf
      (exists_getLast?_layoutLines style emitted indentation (· = some '\r') hsome)
      (exists_getLast?_layoutLines style emitted indentation (· ≠ some '\r') hother)
      (String.ofList_injective he)

/-- A source with a carriage return in its terminator, and one with carriage returns in front of it
in one line of two. -/
theorem format_format_returns :
    (∀ first second : Indentation,
      format ⟨.j17, second, 4⟩ (format ⟨.j17, first, 4⟩ "\tint a;\r\n\n") =
        format ⟨.j17, second, 4⟩ "\tint a;\r\n\n") ∧
    ∀ indentation : Indentation,
      format ⟨.j17, indentation, 4⟩ (format ⟨.j17, indentation, 4⟩ "a\nb\r\r\n") ≠
        format ⟨.j17, indentation, 4⟩ "a\nb\r\r\n" :=
  ⟨(format_format .j17 4 "\tint a;\r\n\n" .spaces).1 (Or.inl (by decide)),
    (format_format .j17 4 "a\nb\r\r\n" .spaces).2 (by decide)
      ⟨['b', '\r'], by decide, by decide⟩ ⟨['a'], by decide, by decide⟩⟩

end Source

end JavaFormat
