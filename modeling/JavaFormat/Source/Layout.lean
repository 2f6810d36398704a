import JavaFormat.Source.Indent
import JavaFormat.Source.Lexer

/-!
# The layout of a source file

`format` lays out the white space of a source text.  A line that starts inside a text block is
kept as it is; every other line is indented anew and loses its trailing blanks.  Of several empty
lines in a row one stays, none at the start or the end of the text; each line then ends with the
terminator of the first one.
-/

set_option autoImplicit false

namespace JavaFormat

/-- The version of the language whose rules a source follows. -/
inductive Baseline where
  /-- Java 8, which has no text blocks. -/
  | j8
  /-- Java 17, which has text blocks. -/
  | j17
  deriving DecidableEq, Repr

/-- Whether three quotes open a text block. -/
def Baseline.hasTextBlocks : Baseline → Bool
  | j8 => false
  | j17 => true

/-- What a layout depends on besides the source. -/
structure Style where
  /-- The language version of the source. -/
  baseline : Baseline
  /-- What lines are indented with. -/
  indentation : Indentation
  /-- The distance of the tab stops; 0 acts as 1. -/
  tabWidth : UInt64
  deriving DecidableEq, Repr

namespace Source

open Text

/-- A line of the source on its way to the output. -/
inductive Row where
  /-- A line that starts inside a text block. -/
  | verbatim (line : Line)
  /-- Any other line, indented anew. -/
  | code (line : Line)
  deriving DecidableEq, Repr

namespace Row

/-- The characters of the line. -/
def line : Row → Line
  | verbatim l => l
  | code l => l

/-- Whether the row is an empty line outside text blocks. -/
def isEmpty : Row → Bool
  | verbatim _ => false
  | code l => l.isEmpty

end Row

/-- The region after a line, which without text blocks is always code. -/
def nextRegion (style : Style) (r : Region) (line : Line) : Region :=
  if style.baseline.hasTextBlocks then scanLine r line else .code

/-- The row of a line that starts in a region. -/
def row (style : Style) (r : Region) (line : Line) : Row :=
  match r with
  | .textBlock => .verbatim line
  | _ => .code (reindent style.indentation (max style.tabWidth 1) line)

/-- The rows of some lines, the first of which starts in a region. -/
def rows (style : Style) : Region → List Line → List Row
  | _, [] => []
  | r, l :: ls => row style r l :: rows style (nextRegion style r l) ls

/-- The lines that stay: of empty rows in a row one, and none at the end.  `gap` says whether an
empty row was just read. -/
def squeeze : Bool → List Row → List Line
  | _, [] => []
  | gap, r :: rest =>
    if r.isEmpty then squeeze true rest
    else if gap then [] :: r.line :: squeeze false rest
    else r.line :: squeeze false rest

/-- The lines of the output. -/
def layoutLines (style : Style) (ls : List Line) : List Line :=
  squeeze false ((rows style .code ls).dropWhile Row.isEmpty)

/-- The text of a source with its white space laid out. -/
def formatText (style : Style) (s : List Char) : List Char :=
  (Terminator.ofText s).unlines (layoutLines style (lines s))

/-- The source with its white space laid out. -/
def format (style : Style) (source : String) : String :=
  String.ofList (formatText style source.toList)

end Source

end JavaFormat
