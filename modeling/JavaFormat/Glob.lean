/-!
# Patterns for paths

A pattern is matched against a whole text.  `?` stands for one character, `*` for any characters,
`[…]` and `[!…]` for one character in or outside a set, and `**` as a whole component for any
components.  Slashes are nothing special to `?`, `*` and the sets.
-/

set_option autoImplicit false

namespace JavaFormat.Glob

/-- Some characters of a set. -/
inductive Member where
  /-- One character. -/
  | char (c : Char)
  /-- The characters from one to another. -/
  | range (first last : Char)
  deriving DecidableEq, Repr

/-- Whether a character is among some. -/
def Member.has (c : Char) : Member → Bool
  | char d => c == d
  | range first last => decide (first ≤ c) && decide (c ≤ last)

/-- A piece of a pattern. -/
inductive Token where
  /-- A character that stands for itself. -/
  | char (c : Char)
  /-- One character. -/
  | anyChar
  /-- Any characters; if `components`, none or up to a slash. -/
  | anyText (components : Bool)
  /-- One character in a set, or, if `negated`, outside of it. -/
  | oneOf (negated : Bool) (members : List Member)
  deriving DecidableEq, Repr

/-- What is wrong with a pattern. -/
inductive Fault where
  /-- More than two stars in a row. -/
  | stars
  /-- Two stars that are no component of their own. -/
  | component
  /-- A set that is not closed or empty. -/
  | set
  deriving DecidableEq, Repr

/-- Why a text is no pattern. -/
structure Problem where
  /-- The index of the character at which it fails. -/
  position : Nat
  /-- What is wrong there. -/
  fault : Fault
  deriving DecidableEq, Repr

/-- The problem, in words. -/
def Problem.message (problem : Problem) : String :=
  "Pattern syntax error near position " ++ toString problem.position ++ ": " ++
    match problem.fault with
    | .stars => "wildcards are either regular `*` or recursive `**`"
    | .component => "recursive wildcards must form a single path component"
    | .set => "invalid range pattern"

/-! ## Reading a pattern -/

/-- The members of a set. -/
def members : List Char → List Member
  | first :: '-' :: last :: rest => .range first last :: members rest
  | c :: rest => .char c :: members rest
  | [] => []

/-- The text of a set up to the bracket that closes it, which is not its first character, and the
text after that bracket. -/
def closeSet? : List Char → Option (List Char × List Char)
  | [] => none
  | first :: rest =>
    match rest.dropWhile (· != ']') with
    | [] => none
    | _ :: after => some (first :: rest.takeWhile (· != ']'), after)

/-- The set that a text after an opening bracket starts with, and what follows it. -/
def setToken? : List Char → Option (Token × List Char)
  | '!' :: rest => (closeSet? rest).map fun (text, after) => (.oneOf true (members text), after)
  | rest => (closeSet? rest).map fun (text, after) => (.oneOf false (members text), after)

/-- A token that is read, in front of those before it; of several `**` in a row one is kept, but
for those at the start. -/
def push (token : Token) (read : List Token) : List Token :=
  match token, read with
  | .anyText true, .anyText true :: _ :: _ => read
  | _, _ => token :: read

/-- Reads the rest of a pattern of `size` characters after the tokens `read`, which are in reverse.
`previous` is the character before it. -/
def parseFrom (size : Nat) (read : List Token) (previous : Option Char) :
    Nat → List Char → Except Problem (List Token)
  | 0, _ => .ok read.reverse
  | _, [] => .ok read.reverse
  | fuel + 1, c :: rest =>
    let position := size - (rest.length + 1)
    match c with
    | '?' => parseFrom size (push .anyChar read) (some c) fuel rest
    | '*' =>
      let stars := (rest.takeWhile (· == '*')).length + 1
      let after := rest.dropWhile (· == '*')
      if stars = 1 then parseFrom size (push (.anyText false) read) (some c) fuel rest
      else if 2 < stars then .error ⟨position + 2, .stars⟩
      else if previous = none ∨ previous = some '/' then
        match after with
        | [] => .ok (push (.anyText true) read).reverse
        | '/' :: after => parseFrom size (push (.anyText true) read) (some '/') fuel after
        | _ => .error ⟨position + 2, .component⟩
      else .error ⟨position - 1, .component⟩
    | '[' =>
      match setToken? rest with
      | some (token, after) => parseFrom size (push token read) (some ']') fuel after
      | none => .error ⟨position, .set⟩
    | c => parseFrom size (push (.char c) read) (some c) fuel rest

/-- A pattern. -/
structure Pattern where
  /-- What it consists of. -/
  tokens : List Token
  deriving DecidableEq, Repr

/-- The pattern that a text spells. -/
def Pattern.ofText (text : String) : Except Problem Pattern :=
  let chars := text.toList
  (parseFrom chars.length [] none chars.length chars).map Pattern.mk

/-! ## Matching -/

/-- How matching ends. -/
inductive Outcome where
  /-- The text matches. -/
  | matched
  /-- The text does not match, but a shorter rest of it might. -/
  | mismatch
  /-- The text is too short, as is every rest of it. -/
  | exhausted
  deriving DecidableEq, Repr

/-- Matches the rests of a text after any of its characters, or, if `components`, after any slash
and at its end, until one does more than mismatch. -/
def sweep (next : List Char → Outcome) (components : Bool) : List Char → Outcome
  | [] => next []
  | c :: cs =>
    if components ∧ c ≠ '/' then sweep next components cs
    else
      match next cs with
      | .mismatch => sweep next components cs
      | outcome => outcome

/-- Whether a token other than `*` and `**` stands for a character. -/
def Token.accepts (c : Char) : Token → Bool
  | char d => c == d
  | anyChar => true
  | anyText _ => false
  | oneOf negated members => members.any (Member.has c) != negated

/-- Matches a text against some tokens. -/
def run : List Token → List Char → Outcome
  | [], [] => .matched
  | [], _ :: _ => .mismatch
  | .anyText components :: tokens, text =>
    match run tokens text with
    | .mismatch => sweep (run tokens) components text
    | outcome => outcome
  | _ :: _, [] => .exhausted
  | token :: tokens, c :: cs => if token.accepts c then run tokens cs else .mismatch

/-- Whether a pattern matches a text. -/
def Pattern.matches (pattern : Pattern) (text : String) : Bool :=
  run pattern.tokens text.toList == .matched

end JavaFormat.Glob
