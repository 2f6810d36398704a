import JavaFormat.Proofs.Source.Layout

/-!
# Text blocks survive a layout

The lines that start inside a text block are found by reading a text line by line.  A layout for a
language version with text blocks finds them in the source; whoever reads the output finds the same
ones in it (`blockLines_formatText`), although other lines are indented anew, lose what trails them
or are gone.
-/

set_option autoImplicit false

namespace JavaFormat

namespace Source

open Text

/-- A line without the carriage returns at its end. -/
def trimReturns (l : Line) : Line := trimEnd (· == '\r') l

/-- The lines that start inside a text block, without the carriage returns at their ends, where the
first line starts in a region. -/
def blockLinesFrom : Region → List Line → List Line
  | _, [] => []
  | r, l :: ls =>
    (if r = .textBlock then [trimReturns l] else []) ++ blockLinesFrom (scanLine r l) ls

/-- The lines of a text that start inside a text block. -/
def blockLines (s : List Char) : List Line := blockLinesFrom .code (lines s)

theorem trimReturns_dropReturn (l : Line) : trimReturns (dropReturn l) = trimReturns l :=
  apply_dropReturn (fun k => trimEnd_append k fun c hc => by rw [List.mem_singleton.1 hc]; rfl) l

/-- Carriage returns that are read as parts of terminators leave the lines of text blocks alone. -/
theorem blockLinesFrom_map_dropReturn (r : Region) (ls : List Line) :
    blockLinesFrom r (ls.map dropReturn) = blockLinesFrom r ls := by
  induction ls generalizing r with
  | nil => rfl
  | cons l ls ih =>
    rw [List.map_cons, blockLinesFrom, blockLinesFrom, trimReturns_dropReturn, scanLine_dropReturn,
      ih]

theorem blockLines_unlines (t : Terminator) {ls : List Line} (h : ∀ l ∈ ls, '\n' ∉ l) :
    blockLines (t.unlines ls) = blockLinesFrom .code ls := by
  cases t with
  | lf => rw [blockLines, Terminator.lines_unlines_lf h, blockLinesFrom_map_dropReturn]
  | crlf => rw [blockLines, Terminator.lines_unlines_crlf h]

/-! ## Rows of text blocks -/

/-- The line of a row, if it starts inside a text block, without carriage returns at its end. -/
def Row.blockLine? : Row → Option Line
  | .verbatim l => some (trimReturns l)
  | .code _ => none

theorem filterMap_blockLine?_rows {style : Style} (h : style.baseline.hasTextBlocks = true)
    (r : Region) (ls : List Line) :
    (rows style r ls).filterMap Row.blockLine? = blockLinesFrom r ls := by
  induction ls generalizing r with
  | nil => rfl
  | cons l ls ih =>
    rw [rows, blockLinesFrom, List.filterMap_cons, ih, nextRegion, if_pos h]
    by_cases hr : r = .textBlock
    · subst hr
      rfl
    · rw [row_of_ne hr, if_neg hr]
      rfl

theorem blockLine?_of_isEmpty {r : Row} (h : r.isEmpty = true) : r.blockLine? = none := by
  cases r with
  | verbatim l => exact absurd h Bool.false_ne_true
  | code l => rfl

/-- **The lines of text blocks are the same after a layout**, under every style for a language
version that has text blocks.  They are found afresh in the output, up to its end if the last block
is not closed. -/
theorem blockLines_formatText (indentation : Indentation) (tabWidth : UInt64) (s : List Char) :
    blockLines (formatText ⟨.j17, indentation, tabWidth⟩ s) = blockLines s := by
  let style : Style := ⟨.j17, indentation, tabWidth⟩
  have hrows := rows_squeeze style indentation indentation false (isRegionOf_code style)
    (fun h => Bool.noConfusion h) ((lines s).dropWhile isBlankLine)
  calc blockLines (formatText style s)
      = blockLinesFrom .code (layoutLines style (lines s)) :=
        blockLines_unlines _ fun l hl => not_mem_of_mem_layoutLines hl
    _ = (rows style .code (layoutLines style (lines s))).filterMap Row.blockLine? :=
        (filterMap_blockLine?_rows rfl .code _).symm
    _ = (squeezeRows false (rows style .code ((lines s).dropWhile isBlankLine))).filterMap
          Row.blockLine? := by rw [layoutLines_eq]; exact congrArg _ hrows
    _ = ((rows style .code (lines s)).dropWhile Row.isEmpty).filterMap Row.blockLine? := by
        rw [filterMap_squeezeRows fun r hr => blockLine?_of_isEmpty hr,
          dropWhile_rows (isRegionOf_code style) (by decide)]
    _ = (rows style .code (lines s)).filterMap Row.blockLine? :=
        filterMap_dropWhile_isEmpty (fun r hr => blockLine?_of_isEmpty hr) _
    _ = blockLines s := filterMap_blockLine?_rows rfl .code _

end Source

end JavaFormat
