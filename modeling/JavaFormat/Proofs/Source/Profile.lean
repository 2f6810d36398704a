import JavaFormat.Proofs.Source.NormalForm

/-!
# Formatting never touches code

The profile of a text lists what its pieces between line feeds say and the column in which each
begins; blanks and carriage returns at the end of a piece, and pieces with nothing else, do not
count.  A layout keeps what the pieces say and their order: no line is lost, merged, split, repeated,
reordered or changed inside.  It keeps the columns as well, and with them the profile, if and only
if those of the lines that are indented anew fit into 64 bits (`profile_formatText`).
-/

set_option autoImplicit false

namespace JavaFormat

namespace Source

open Text

/-! ## The profile of a text -/

/-- What a piece of a text says, and the column in which that begins; nothing if there are only
blanks and carriage returns in it. -/
def mark (tab : Nat) (piece : Line) : Option (Nat × Line) :=
  let body := trimEnd isTrailing (piece.dropWhile isBlank)
  if body = [] then none else some (visualWidth tab 0 (piece.takeWhile isBlank), body)

end Source

end JavaFormat
