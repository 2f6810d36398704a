import JavaFormat.Text.Blank
import JavaFormat.Text.Lines

/-!
# Indentation

The blanks in front of a line put its first other character in a column.  `column` measures that
column with tab stops, `indentTo` writes the blanks that reach a column, and `reindent` replaces the
leading blanks of a line by them and drops the trailing ones.

Columns and the distance of the tab stops are words of 64 bits, as they are on the machines that the
program is built for, in a build that does not check for overflow: a column that does not fit wraps
around.  Memory has no limit here.  The program asks for as many bytes as the column and the rest of
the line come to before it writes a line anew, and it stops where it does not get them.
-/

set_option autoImplicit false

namespace JavaFormat

/-- What a line is indented with. -/
inductive Indentation where
  /-- Tabs as far as they reach, then spaces. -/
  | tabs
  /-- Spaces only. -/
  | spaces
  deriving DecidableEq, Repr

namespace Source

open Text

/-- The column after a blank at column `w`: a tab goes on to the next stop, a space by one. -/
def columnAfter (tab w : UInt64) (c : Char) : UInt64 :=
  if c = '\t' then w + tab - w % tab else w + 1

/-- The column that some leading blanks reach, with tab stops every `tab` columns. -/
def column (tab : UInt64) (blanks : List Char) : UInt64 := blanks.foldl (columnAfter tab) 0

/-- The blanks that reach a column. -/
def indentTo (indentation : Indentation) (tab width : UInt64) : List Char :=
  match indentation with
  | .spaces => List.replicate width.toNat ' '
  | .tabs => List.replicate (width / tab).toNat '\t' ++ List.replicate (width % tab).toNat ' '

/-- A line whose leading blanks are written anew and whose trailing blanks are gone; a line of
blanks becomes empty. -/
def reindent (indentation : Indentation) (tab : UInt64) (line : Line) : Line :=
  let trimmed := trimEnd isBlank line
  match trimmed.dropWhile isBlank with
  | [] => []
  | body => indentTo indentation tab (column tab (trimmed.takeWhile isBlank)) ++ body

end Source

end JavaFormat
