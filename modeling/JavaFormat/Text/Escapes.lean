/-!
# Terminal escapes

A terminal takes some characters as commands: the control characters, and what follows an escape
character up to the end of a sequence.  `stripEscapes` leaves out what is a command, so that only
what a reader sees is left.  Tabs, line breaks and form feeds are seen, also inside most sequences,
which they interrupt.

* `stripEscapes_eq_self`: a text without commands stays as it is.
-/

set_option autoImplicit false

namespace JavaFormat.Text

/-- What sequence a terminal is reading. -/
inductive Sequence where
  /-- None. -/
  | nothing
  /-- An escape character was read. -/
  | escape
  /-- An escape character and some punctuation were read. -/
  | punctuated
  /-- A control sequence, which a letter ends. -/
  | control
  /-- A command to the system, which a bell ends. -/
  | system
  /-- The start of a string for a device. -/
  | device
  /-- The parameters of a string for a device. -/
  | deviceParameters
  /-- Punctuation in front of a string for a device. -/
  | devicePunctuated
  /-- A string, which a terminating byte ends. -/
  | string
  deriving DecidableEq, Repr

/-- Whether the byte that terminates a string is in the encoding of a character.  Strings are read
byte by byte, and so the byte counts wherever it comes. -/
def endsString (c : Char) : Bool := (String.utf8EncodeChar c).contains 0x9C

namespace Sequence

/-- The sequence after a character that is not shown. -/
def next (sequence : Sequence) (c : Char) : Sequence :=
  let n := c.toNat
  if n = 0x18 ∨ n = 0x1A then nothing
  else if n = 0x1B then escape
  else
    match sequence with
    | nothing => nothing
    | escape =>
      if 0x20 ≤ n ∧ n ≤ 0x2F then punctuated
      else if c = '[' then control
      else if c = ']' then system
      else if c = 'P' then device
      else if c = 'X' ∨ c = '^' ∨ c = '_' then string
      else if 0x30 ≤ n ∧ n ≤ 0x7E then nothing
      else escape
    | punctuated => if 0x30 ≤ n ∧ n ≤ 0x7E then nothing else punctuated
    | control => if 0x40 ≤ n ∧ n ≤ 0x7E then nothing else control
    | system => if n = 0x07 then nothing else system
    | device =>
      if 0x20 ≤ n ∧ n ≤ 0x2F then devicePunctuated
      else if c = ':' then string
      else if 0x30 ≤ n ∧ n ≤ 0x3F then deviceParameters
      else if 0x40 ≤ n ∧ n ≤ 0x7E then string
      else device
    | deviceParameters =>
      if 0x20 ≤ n ∧ n ≤ 0x2F then devicePunctuated
      else if c.isDigit ∨ c = ';' then deviceParameters
      else if 0x30 ≤ n ∧ n ≤ 0x7E then string
      else deviceParameters
    | devicePunctuated => if 0x30 ≤ n ∧ n ≤ 0x7E then string else devicePunctuated
    | string => if endsString c then nothing else string

/-- Whether a character is shown though it comes in a sequence. -/
def shows (sequence : Sequence) (c : Char) : Bool :=
  let isSpace := c == '\t' || c == '\n' || c == '\x0C' || c == '\r'
  match sequence with
  | nothing => isSpace || decide (0x20 ≤ c.toNat ∧ c.toNat ≠ 0x7F)
  | escape | punctuated | control => isSpace
  | system | device | deviceParameters | devicePunctuated | string => false

end Sequence

/-- Leaves out the commands in a text that starts in a sequence.  A character that is shown
interrupts the sequence; if `resumes`, it goes on where characters are no longer shown, unless one
beyond ASCII comes before.  `shown` says whether the character before was shown. -/
def stripFrom (resumes : Bool) (sequence : Sequence) (shown : Bool) : List Char → List Char
  | [] => []
  | c :: cs =>
    if (if shown then Sequence.nothing else sequence).shows c then
      let isOver := if shown then decide (0x80 ≤ c.toNat) else !resumes
      c :: stripFrom resumes (if isOver then .nothing else sequence) true cs
    else stripFrom resumes (sequence.next c) false cs

/-- A text without terminal commands.  `resumes` says whether a sequence that is interrupted goes
on afterwards. -/
def stripEscapes (resumes : Bool) (text : String) : String :=
  String.ofList (stripFrom resumes .nothing false text.toList)

theorem stripFrom_eq_self (resumes shown : Bool) (cs : List Char)
    (h : ∀ c ∈ cs, Sequence.nothing.shows c = true) :
    stripFrom resumes .nothing shown cs = cs := by
  induction cs generalizing shown with
  | nil => rfl
  | cons c cs ih =>
    have hc : (if shown then Sequence.nothing else .nothing).shows c = true := by
      simpa using h c List.mem_cons_self
    rw [stripFrom, if_pos hc]
    simp only [ite_self]
    rw [ih true fun d hd => h d (List.mem_cons_of_mem _ hd)]

/-- A text without commands stays as it is. -/
theorem stripEscapes_eq_self (resumes : Bool) {text : String}
    (h : ∀ c ∈ text.toList, Sequence.nothing.shows c = true) :
    stripEscapes resumes text = text := by
  rw [stripEscapes, stripFrom_eq_self resumes false _ h, String.ofList_toList]

end JavaFormat.Text
