import JavaFormat.Proofs.Source.Automaton
import JavaFormat.Proofs.Source.ByteScan
import JavaFormat.Proofs.Source.Layout

/-!
# Where the lines of a text start

Three ways to find out what the line of index `i` of a text starts in agree: going from line to line
with `scanLine` (`regionBefore`), going over the bytes of the lines with two flags (`flagsBefore`),
and reading the text in front of the line character by character with the automaton
(`scan_lexes`).  It matters to a layout only whether that is a text block, so where no line starts
in one the language version decides nothing.
-/

set_option autoImplicit false

namespace JavaFormat

namespace Source

open Text

/-- The region to which the lines before the one of index `i` lead. -/
def regionBefore (s : List Char) (i : Nat) : Region := ((lines s).take i).foldl scanLine .code

/-- The flags to which the bytes of these lines lead, none being set at first. -/
def flagsBefore (s : List Char) (i : Nat) : Flags :=
  ((lines s).take i).foldl (fun flags l => scanBytes flags (utf8 l)) ⟨false, false⟩

theorem flagsBefore_eq (s : List Char) (i : Nat) :
    flagsBefore s i = .ofRegion (regionBefore s i) := foldl_scanBytes .code _

/-! ## Language versions -/

theorem rows_j8 (indentation : Indentation) (tabWidth : UInt64) (ls : List Line) :
    rows ⟨.j8, indentation, tabWidth⟩ .code ls =
      ls.map fun l => .code (reindent indentation (max tabWidth 1) l) := by
  induction ls with
  | nil => rfl
  | cons l ls ih => exact congrArg _ ih

/-- Lines of which none starts in a text block are indented anew. -/
theorem rows_j17 (indentation : Indentation) (tabWidth : UInt64) {r : Region} {ls : List Line}
    (h : ∀ i < ls.length, (ls.take i).foldl scanLine r ≠ .textBlock) :
    rows ⟨.j17, indentation, tabWidth⟩ r ls =
      ls.map fun l => .code (reindent indentation (max tabWidth 1) l) := by
  induction ls generalizing r with
  | nil => rfl
  | cons l ls ih =>
    have hr : r ≠ .textBlock := h 0 (Nat.succ_pos _)
    have hnext : nextRegion ⟨.j17, indentation, tabWidth⟩ r l = scanLine r l := rfl
    rw [rows, row_of_ne hr, hnext, List.map_cons,
      ih fun i hi => h (i + 1) (Nat.succ_lt_succ hi)]

theorem mode_ofRegion_ne {r : Region}
    (h : (Automaton.State.ofRegion r).mode ≠ .textBlock) : r ≠ .textBlock := by
  rintro rfl
  exact h rfl

/-- **Going from line to line is reading the text.**  Where a line starts, the region, the flags
and the automaton say the same, nothing is pending and the flags are not both set; and where no line
starts in a text block, a layout is the same for both language versions. -/
theorem scan_lexes (source : String) :
    (∀ i < (lines source.toList).length,
      Automaton.read (Automaton.beforeLine source.toList i) =
          .ofRegion (regionBefore source.toList i) ∧
        flagsBefore source.toList i = .ofRegion (regionBefore source.toList i) ∧
        ¬((flagsBefore source.toList i).inTextBlock = true ∧
          (flagsBefore source.toList i).inBlockComment = true)) ∧
    ((∀ i < (lines source.toList).length,
        (Automaton.read (Automaton.beforeLine source.toList i)).mode ≠ .textBlock) →
      ∀ (indentation : Indentation) (tabWidth : UInt64),
        format ⟨.j8, indentation, tabWidth⟩ source =
          format ⟨.j17, indentation, tabWidth⟩ source) := by
  refine ⟨fun i hi => ⟨Automaton.read_beforeLine hi, flagsBefore_eq _ i, ?_⟩,
    fun hnone indentation tabWidth => ?_⟩
  · rw [flagsBefore_eq]
    exact Flags.not_both _
  · have hregions : ∀ i < (lines source.toList).length,
        ((lines source.toList).take i).foldl scanLine .code ≠ .textBlock := fun i hi =>
      mode_ofRegion_ne (by rw [← Automaton.read_beforeLine hi]; exact hnone i hi)
    rw [format, format, formatText, formatText, layoutLines, layoutLines, rows_j8,
      rows_j17 indentation tabWidth hregions]

/-- A comment that opens with `/*/` and holds three quotes, and a line that opens a text block and
closes it. -/
theorem scan_lexes_comment :
    Automaton.read (Automaton.beforeLine "/*/ \"\"\"\n*/ \"\"\"\"\"\" x\n".toList 1) =
        ⟨.blockComment, .nothing⟩ ∧
      flagsBefore "/*/ \"\"\"\n*/ \"\"\"\"\"\" x\n".toList 1 = ⟨false, true⟩ ∧
      format ⟨.j8, .spaces, 4⟩ "/*/ \"\"\"\n*/ \"\"\"\"\"\" x\n" =
        format ⟨.j17, .spaces, 4⟩ "/*/ \"\"\"\n*/ \"\"\"\"\"\" x\n" := by
  obtain ⟨hstates, hversions⟩ := scan_lexes "/*/ \"\"\"\n*/ \"\"\"\"\"\" x\n"
  obtain ⟨hread, hflags, -⟩ := hstates 1 (by decide)
  exact ⟨hread, hflags, hversions (by decide) .spaces 4⟩

end Source

end JavaFormat
