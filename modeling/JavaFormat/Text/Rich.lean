import JavaFormat.Text.Escapes

/-!
# Rich text

A rich text is a text in pieces, some of which are marked by what they are.  `RichText.marked` shows
the marks by terminal escapes, an escape for each attribute.  Without colour a text is what is left
when these are taken away again, and with them all commands to a terminal that the text itself
holds: `RichText.visible` is that as a text, and `RichText.printed` what is printed.
-/

set_option autoImplicit false

namespace JavaFormat

/-- What a piece of a text is. -/
inductive Mark where
  /-- A heading. -/
  | heading
  /-- What is written as it stands. -/
  | literal
  /-- What would be right. -/
  | valid
  /-- What is wrong. -/
  | invalid
  /-- The announcement of a failure. -/
  | failure
  deriving DecidableEq, Repr

/-- The terminal escapes that show a mark. -/
def Mark.escapes : Mark → String
  | heading => "\x1b[1m\x1b[4m"
  | literal => "\x1b[1m"
  | valid => "\x1b[32m"
  | invalid => "\x1b[33m"
  | failure => "\x1b[1m\x1b[31m"

/-- A piece of a text. -/
structure Piece where
  /-- What it is, if it is marked. -/
  mark : Option Mark
  /-- The text. -/
  text : String
  deriving DecidableEq, Repr

/-- The text of a piece, with escapes around it if it is marked. -/
def Piece.marked (piece : Piece) : String :=
  match piece.mark with
  | some mark => mark.escapes ++ piece.text ++ "\x1b[0m"
  | none => piece.text

/-- A text in pieces. -/
abbrev RichText := List Piece

namespace RichText

/-- A text without a mark. -/
def plain (text : String) : RichText := [⟨none, text⟩]

/-- A heading. -/
def heading (text : String) : RichText := [⟨some .heading, text⟩]

/-- A text that is written as it stands. -/
def literal (text : String) : RichText := [⟨some .literal, text⟩]

/-- A text that would be right. -/
def valid (text : String) : RichText := [⟨some .valid, text⟩]

/-- A text that is wrong. -/
def invalid (text : String) : RichText := [⟨some .invalid, text⟩]

/-- The announcement of a failure. -/
def failure (text : String) : RichText := [⟨some .failure, text⟩]

/-- The text without its marks. -/
def text (rich : RichText) : String := String.join (rich.map Piece.text)

/-- The text with its marks. -/
def marked (rich : RichText) : String := String.join (rich.map Piece.marked)

/-- The text as a reader sees it. -/
def visible (rich : RichText) : String := Text.stripEscapes false rich.marked

/-- The text as it is printed. -/
def printed (colour : Bool) (rich : RichText) : String :=
  if colour then rich.marked else Text.stripEscapes true rich.marked

/-- A text in quotes, which are not marked. -/
def inQuotes (rich : RichText) : RichText := plain "'" ++ rich ++ plain "'"

/-- Texts with a separator between them. -/
def separated (separator : String) (riches : List RichText) : RichText :=
  List.intercalate (plain separator) riches

/-- Lines, with a line break after each. -/
def ofLines (ls : List RichText) : RichText := ls.flatMap (· ++ plain "\n")

/-- Some spaces. -/
def blanks (n : Nat) : RichText := plain (String.ofList (List.replicate n ' '))

/-- A text filled up with spaces. -/
def padded (width : Nat) (rich : RichText) : RichText := rich ++ blanks (width - rich.text.length)

end RichText

end JavaFormat
