import JavaFormat.Text.Blank
import JavaFormat.Text.Lines

/-!
# Notices

What is told to the user stands behind a tag that says how it is meant.  The lines of a longer
message are aligned behind the tag.  On request the tag is coloured by terminal escapes.
-/

set_option autoImplicit false

namespace JavaFormat

/-- A text with the terminal escapes of some attributes around it, if asked for. -/
def styled (colour : Bool) (attributes text : String) : String :=
  if colour then "\x1b[" ++ attributes ++ "m" ++ text ++ "\x1b[0m" else text

namespace Notice

/-- How a notice is meant. -/
inductive Level where
  /-- The task is done. -/
  | success
  /-- The task failed. -/
  | error
  /-- Something needs attention. -/
  | warning
  /-- Something may be of interest. -/
  | info
  deriving DecidableEq, Repr

namespace Level

/-- The tag of a level. -/
def tag : Level → String
  | success => "[OK]"
  | error => "[ERR]"
  | warning => "[WARN]"
  | info => "[*]"

/-- The terminal attributes of a tag: bold, in a colour of its own. -/
def attributes : Level → String
  | success => "1;32"
  | error => "1;31"
  | warning => "1;33"
  | info => "1;34"

end Level

/-- The text of a notice. -/
def render (colour : Bool) (level : Level) (message : String) : String :=
  let indent := String.ofList (List.replicate (level.tag.length + 1) ' ')
  let line (l : Line) : String :=
    "\n" ++ indent ++ String.ofList (Text.trimStart Text.isWhiteSpace l)
  let ls := Text.lines message.toList
  styled colour level.attributes level.tag ++ " " ++ String.ofList (ls.headD []) ++
    String.join (ls.tail.map line)

end Notice

end JavaFormat
