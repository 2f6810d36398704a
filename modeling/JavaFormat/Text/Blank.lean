/-!
# Blanks and white space

Two classes of characters matter.  *Blanks* are the space and the tab, the characters that indent
and trail a line of code.  *White space* is the Unicode property `White_Space`, which settings and
labels are trimmed by.
-/

set_option autoImplicit false

namespace JavaFormat

namespace Text

/-- Whether a character is a space or a tab. -/
def isBlank (c : Char) : Bool := c == ' ' || c == '\t'

/-- Whether a character has the Unicode property `White_Space`. -/
def isWhiteSpace (c : Char) : Bool :=
  let n := c.toNat
  (9 ≤ n && n ≤ 13) || n == 0x20 || n == 0x85 || n == 0xA0 || n == 0x1680 ||
    (0x2000 ≤ n && n ≤ 0x200A) || n == 0x2028 || n == 0x2029 || n == 0x202F || n == 0x205F ||
    n == 0x3000

/-- A text without the leading characters of a class. -/
def trimStart (p : Char → Bool) (s : List Char) : List Char := s.dropWhile p

/-- A text without the trailing characters of a class. -/
def trimEnd (p : Char → Bool) (s : List Char) : List Char := (s.reverse.dropWhile p).reverse

/-- A text without the leading and trailing characters of a class. -/
def trim (p : Char → Bool) (s : List Char) : List Char := trimEnd p (trimStart p s)

/-- A letter of ASCII in lower case; any other character as it is. -/
def lowerAscii (s : List Char) : List Char := s.map Char.toLower

end Text

end JavaFormat
