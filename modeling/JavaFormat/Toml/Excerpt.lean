import JavaFormat.Text.Lines
import JavaFormat.Toml.Text

/-!
# Excerpts

A message about a document shows the line in which a stretch of it starts and marks the stretch.
-/

set_option autoImplicit false

namespace JavaFormat.Toml

/-- The length of a text in bytes of UTF-8. -/
def byteLength : List Char → Nat
  | [] => 0
  | c :: cs => c.utf8Size + byteLength cs

/-- A message about a stretch of a document, below the line that it starts in.  Lines and columns
count from one.  The mark is as long as the stretch in bytes, but ends with the line. -/
def excerpt (text : List Char) (span : Span) (message : String) : String :=
  let before := text.take (text.length - span.start)
  let segs := Text.segments before
  let line := segs.length
  let column := (segs.getLastD []).length
  let content := (Text.segments text).getD (line - 1) []
  let stretch := byteLength ((text.drop before.length).take (span.start - span.stop))
  let mark := max 1 (min stretch (byteLength content - column))
  let gutter := String.ofList (List.replicate ((toString line).length + 1) ' ')
  "TOML parse error at line " ++ toString line ++ ", column " ++ toString (column + 1) ++ "\n" ++
    gutter ++ "|\n" ++
    toString line ++ " | " ++ String.ofList content ++ "\n" ++
    gutter ++ "|" ++ String.ofList (List.replicate (column + 1) ' ') ++
    String.ofList (List.replicate mark '^') ++ "\n" ++
    message ++ "\n"

end JavaFormat.Toml
