/-!
# Lines of a text

A text is a list of characters.  `segments` cuts it at every line feed; `lines` is what a reader
calls its lines: a line feed, or a carriage return and a line feed, ends a line, and a text that
ends so has no further empty line.  `Terminator.ofText` is the terminator a text uses, which the
first one decides, and `Terminator.unlines` writes lines with a terminator after each.

* `segments_cons`, `segments_nil`: the recursion equations of `segments`.
* `intercalate_segments`: cutting loses nothing but the line feeds.
-/

set_option autoImplicit false

namespace JavaFormat

/-- The characters of a line, without its terminator. -/
abbrev Line := List Char

namespace Text

/-- Cuts a text at every line feed, `acc` being the current piece read backwards. -/
def segmentsFrom : List Char → List Char → List Line
  | acc, [] => [acc.reverse]
  | acc, c :: cs =>
    if c = '\n' then acc.reverse :: segmentsFrom [] cs else segmentsFrom (c :: acc) cs

/-- The pieces of a text between its line feeds; one more than there are line feeds. -/
def segments (s : List Char) : List Line := segmentsFrom [] s

/-- Puts a text in front of the first of some pieces. -/
def prepend (p : List Char) : List Line → List Line
  | [] => [p]
  | l :: ls => (p ++ l) :: ls

theorem segmentsFrom_ne_nil (s : List Char) : ∀ acc : List Char, segmentsFrom acc s ≠ [] := by
  induction s with
  | nil => intro acc; simp [segmentsFrom]
  | cons c cs ih => intro acc; rw [segmentsFrom]; split <;> simp [ih]

theorem segments_ne_nil (s : List Char) : segments s ≠ [] := segmentsFrom_ne_nil s []

theorem segmentsFrom_eq (s : List Char) :
    ∀ acc : List Char, segmentsFrom acc s = prepend acc.reverse (segments s) := by
  induction s with
  | nil => intro acc; simp [segments, segmentsFrom, prepend]
  | cons c cs ih =>
    intro acc
    by_cases h : c = '\n'
    · simp [segments, segmentsFrom, prepend, h]
    · rw [segments, segmentsFrom, segmentsFrom, if_neg h, if_neg h, ih (c :: acc), ih [c]]
      cases segments cs <;> simp [prepend]

@[simp] theorem segments_nil : segments [] = [[]] := rfl

theorem segments_cons (c : Char) (cs : List Char) :
    segments (c :: cs) = if c = '\n' then [] :: segments cs else prepend [c] (segments cs) := by
  rw [segments, segmentsFrom]
  split
  · simp [segments]
  · rw [segmentsFrom_eq]; simp

/-- Cutting a text and joining the pieces with line feeds gives the text back. -/
theorem intercalate_segments (s : List Char) : ['\n'].intercalate (segments s) = s := by
  induction s with
  | nil => rfl
  | cons c cs ih =>
    rw [segments_cons]
    cases hs : segments cs with
    | nil => exact absurd hs (segments_ne_nil cs)
    | cons l ls =>
      rw [hs] at ih
      split
      · subst c
        rw [← ih]
        simp [List.intercalate, List.intersperse]
      · cases ls <;> simp_all [prepend, List.intercalate, List.intersperse]

/-- A line without the carriage return that may end it. -/
def dropReturn (l : Line) : Line := if l.getLast? = some '\r' then l.dropLast else l

/-- The lines of a text.  A line feed ends a line and takes one carriage return before it along;
the characters after the last line feed, if any, are a line of their own. -/
def lines (s : List Char) : List Line :=
  let segs := segments s
  let rest := segs.getLastD []
  segs.dropLast.map dropReturn ++ (if rest = [] then [] else [rest])

/-- How a line ends. -/
inductive Terminator where
  /-- A line feed. -/
  | lf
  /-- A carriage return and a line feed. -/
  | crlf
  deriving DecidableEq, Repr

namespace Terminator

/-- The characters of a terminator. -/
def chars : Terminator → List Char
  | lf => ['\n']
  | crlf => ['\r', '\n']

/-- The terminator of a text: that of its first line, or a line feed where no line is ended. -/
def ofText (s : List Char) : Terminator :=
  match segments s with
  | first :: _ :: _ => if first.getLast? = some '\r' then crlf else lf
  | _ => lf

/-- The text whose lines are the given ones, each followed by the terminator. -/
def unlines (t : Terminator) (ls : List Line) : List Char := ls.flatMap (· ++ t.chars)

@[simp] theorem unlines_nil (t : Terminator) : t.unlines [] = [] := rfl

@[simp] theorem unlines_cons (t : Terminator) (l : Line) (ls : List Line) :
    t.unlines (l :: ls) = l ++ t.chars ++ t.unlines ls := by simp [unlines]

end Terminator

end Text

end JavaFormat
