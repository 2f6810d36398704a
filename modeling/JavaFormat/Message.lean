import JavaFormat.Text.Grid
import JavaFormat.Text.Notice

/-!
# Messages

While it runs a task tells the user what it does: under a title it gives notices and tables.
`Message.render` is the text of a message, with its line breaks.
-/

set_option autoImplicit false

namespace JavaFormat

/-- What a task tells the user. -/
inductive Message where
  /-- The title of all that follows. -/
  | title (text : String)
  /-- A notice. -/
  | notice (level : Notice.Level) (text : String)
  /-- Rows of cells. -/
  | table (rows : List (List String))
  deriving DecidableEq, Repr

namespace Message

/-- The line above and below a title. -/
def rule : String := String.ofList (List.replicate 60 '─')

/-- The text of a message: a title is bold between two dim lines, with an empty line around. -/
def render (colour : Bool) : Message → String
  | title text =>
    "\n" ++ styled colour "2" rule ++ "\n  " ++ styled colour "1" text ++ "\n" ++
      styled colour "2" rule ++ "\n\n"
  | notice level text => Notice.render colour level text ++ "\n"
  | table rows => Text.Grid.render rows ++ "\n"

/-- The text of some messages. -/
def renderAll (colour : Bool) (messages : List Message) : String :=
  String.join (messages.map (render colour))

end Message

end JavaFormat
