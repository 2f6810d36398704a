import JavaFormat.Text.Lines

/-!
# Which lines start inside a text block

Only comments, literals and text blocks decide where three quotes open a text block.  `scan` reads
the rest of a line in a `Context`; `scanLine` goes from the `Region` at the start of a line to that
at its end, where a line comment and an unfinished literal are over.
-/

set_option autoImplicit false

namespace JavaFormat

namespace Source

/-- What surrounds the start of a line. -/
inductive Region where
  /-- Code. -/
  | code
  /-- A comment that ends at the first `*/`. -/
  | blockComment
  /-- A text block. -/
  | textBlock
  deriving DecidableEq, Repr

/-- What surrounds a character of a line. -/
inductive Context where
  /-- What may also surround the start of a line. -/
  | region (r : Region)
  /-- A string or character literal, with its quote. -/
  | literal (quote : Char)
  deriving DecidableEq, Repr

/-- The region in which the next line starts, from the context in which `rest` is read.  In a
literal and in a text block a backslash takes the next character along. -/
def scan : Context → List Char → Region
  | .literal _, [] => .code
  | .region r, [] => r
  | .literal q, '\\' :: _ :: rest => scan (.literal q) rest
  | .literal q, c :: rest => scan (if c = q then .region .code else .literal q) rest
  | .region .blockComment, '*' :: '/' :: rest => scan (.region .code) rest
  | .region .blockComment, _ :: rest => scan (.region .blockComment) rest
  | .region .textBlock, '\\' :: _ :: rest => scan (.region .textBlock) rest
  | .region .textBlock, '"' :: '"' :: '"' :: rest => scan (.region .code) rest
  | .region .textBlock, _ :: rest => scan (.region .textBlock) rest
  | .region .code, '/' :: '/' :: _ => .code
  | .region .code, '/' :: '*' :: rest => scan (.region .blockComment) rest
  | .region .code, '"' :: '"' :: '"' :: rest => scan (.region .textBlock) rest
  | .region .code, '"' :: rest => scan (.literal '"') rest
  | .region .code, '\'' :: rest => scan (.literal '\'') rest
  | .region .code, _ :: rest => scan (.region .code) rest

/-- The region after a line, from the one at its start. -/
def scanLine (r : Region) (line : Line) : Region := scan (.region r) line

end Source

end JavaFormat
