/-!
# Strings, keys and blanks of TOML

Each reader takes the characters that are left and gives what it has read with the characters left
after it, or nothing where the text is malformed.
-/

set_option autoImplicit false

namespace JavaFormat.Toml

/-- Whether a character may stand in a comment. -/
def isCommentChar (c : Char) : Bool :=
  c == '\t' || (decide (' ' ≤ c) && c != '\x7f')

/-- The text after spaces and tabs. -/
def skipBlanks (cs : List Char) : List Char := cs.dropWhile fun c => c == ' ' || c == '\t'

/-- The text after a line break that it starts with. -/
def lineBreak? : List Char → Option (List Char)
  | '\n' :: rest => some rest
  | '\r' :: '\n' :: rest => some rest
  | _ => none

/-- The text after a comment that it may start with. -/
def skipComment : List Char → List Char
  | '#' :: rest => rest.dropWhile isCommentChar
  | cs => cs

/-- The text after the end of a line, where blanks and a comment may stand before it. -/
def endLine? (cs : List Char) : Option (List Char) :=
  match skipComment (skipBlanks cs) with
  | [] => some []
  | rest => lineBreak? rest

/-! ## Strings -/

/-- The value of some hexadecimal digits. -/
def hexValue? (cs : List Char) : Option Nat :=
  cs.foldlM (fun n c =>
    let code := c.toNat
    if '0' ≤ c ∧ c ≤ '9' then some (n * 16 + (code - 48))
    else if 'a' ≤ c ∧ c ≤ 'f' then some (n * 16 + (code - 87))
    else if 'A' ≤ c ∧ c ≤ 'F' then some (n * 16 + (code - 55))
    else none) 0

/-- The character with a code of `digits` hexadecimal digits, with their number. -/
def charOfHex? (digits : Nat) (cs : List Char) : Option (Char × Nat) :=
  if cs.length < digits then none
  else
    match hexValue? (cs.take digits) with
    | none => none
    | some n => if n.isValidChar then some (Char.ofNat n, digits) else none

/-- The character that a text after a backslash stands for, with the length of that text. -/
def escaped? : List Char → Option (Char × Nat)
  | 'b' :: _ => some ('\x08', 1)
  | 'f' :: _ => some ('\x0c', 1)
  | 'n' :: _ => some ('\n', 1)
  | 'r' :: _ => some ('\r', 1)
  | 't' :: _ => some ('\t', 1)
  | '\\' :: _ => some ('\\', 1)
  | '"' :: _ => some ('"', 1)
  | 'u' :: rest => (charOfHex? 4 rest).map fun (c, n) => (c, n + 1)
  | 'U' :: rest => (charOfHex? 8 rest).map fun (c, n) => (c, n + 1)
  | _ => none

/-- Whether a character may stand for itself in a string with these quotes. -/
def isPlain (quote c : Char) : Bool :=
  isCommentChar c && c != quote && (quote == '\'' || c != '\\')

/-- The text after a backslash that ends a line, and after all blanks and line breaks that follow
it. -/
def skipFolded? (cs : List Char) : Option (List Char) :=
  match lineBreak? (skipBlanks cs) with
  | none => none
  | some rest => some (skipBreaks rest)
where
  /-- The text after blanks and line breaks. -/
  skipBreaks : List Char → List Char
    | ' ' :: rest => skipBreaks rest
    | '\t' :: rest => skipBreaks rest
    | '\n' :: rest => skipBreaks rest
    | '\r' :: '\n' :: rest => skipBreaks rest
    | cs => cs

/-- The rest of a string of one line, whose characters so far are `read` in reverse. -/
def lineString? (quote : Char) (read : List Char) : Nat → List Char → Option (List Char × List Char)
  | 0, _ => none
  | _, [] => none
  | fuel + 1, c :: rest =>
    if c = quote then some (read.reverse, rest)
    else if isPlain quote c then lineString? quote (c :: read) fuel rest
    else if c = '\\' ∧ quote = '"' then
      match escaped? rest with
      | some (d, n) => lineString? quote (d :: read) fuel (rest.drop n)
      | none => none
    else none

/-- The rest of a string of several lines, whose characters so far are `read` in reverse.  Up to two
quotes in a row stand for themselves, also in front of the three that end the string. -/
def blockString? (quote : Char) (read : List Char) :
    Nat → List Char → Option (List Char × List Char)
  | 0, _ => none
  | _, [] => none
  | fuel + 1, c :: rest =>
    if c = quote then
      let quotes := (rest.takeWhile (· == quote)).length + 1
      let after := rest.dropWhile (· == quote)
      if quotes < 3 then blockString? quote (List.replicate quotes quote ++ read) fuel after
      else
        let extra := min (quotes - 3) 2
        some ((List.replicate extra quote ++ read).reverse,
          List.replicate (quotes - 3 - extra) quote ++ after)
    else if isPlain quote c then blockString? quote (c :: read) fuel rest
    else if c = '\\' ∧ quote = '"' then
      match skipFolded? rest with
      | some after => blockString? quote read fuel after
      | none =>
        match escaped? rest with
        | some (d, n) => blockString? quote (d :: read) fuel (rest.drop n)
        | none => none
    else
      match lineBreak? (c :: rest) with
      | some after => blockString? quote ('\n' :: read) fuel after
      | none => none

/-- A string, of one line or of several. -/
def string? : List Char → Option (String × List Char)
  | q :: rest =>
    if q = '"' ∨ q = '\'' then
      let result :=
        match rest with
        | q₂ :: q₃ :: body =>
          if q₂ = q ∧ q₃ = q then
            let body := (lineBreak? body).getD body
            blockString? q [] (body.length + 1) body
          else lineString? q [] (rest.length + 1) rest
        | _ => lineString? q [] (rest.length + 1) rest
      result.map fun (cs, after) => (String.ofList cs, after)
    else none
  | [] => none

/-! ## Keys -/

/-- A stretch of the text: how many characters are left at its start and after it. -/
structure Span where
  /-- The characters left at its start. -/
  start : Nat
  /-- The characters left after it. -/
  stop : Nat
  deriving DecidableEq, Repr

/-- A name in front of a value, and where it stands. -/
structure Key where
  /-- The name. -/
  name : String
  /-- Where it stands. -/
  span : Span
  deriving DecidableEq, Repr

/-- Whether a character may stand in a key without quotes. -/
def isKeyChar (c : Char) : Bool := c.isAlphanum || c == '_' || c == '-'

/-- A single name. -/
def name? : List Char → Option (String × List Char)
  | [] => none
  | c :: rest =>
    if c = '"' ∨ c = '\'' then
      (lineString? c [] (rest.length + 1) rest).map fun (cs, after) => (String.ofList cs, after)
    else
      match (c :: rest).takeWhile isKeyChar with
      | [] => none
      | cs => some (String.ofList cs, (c :: rest).dropWhile isKeyChar)

/-- Names with points between them, at least one, after those of `read`, which are in reverse. -/
def keysFrom? (read : List Key) : Nat → List Char → Option (List Key × List Char)
  | 0, _ => none
  | fuel + 1, cs =>
    let start := skipBlanks cs
    match name? start with
    | none => none
    | some (name, after) =>
      let read := ⟨name, start.length, after.length⟩ :: read
      match skipBlanks after with
      | '.' :: rest => keysFrom? read fuel rest
      | rest => some (read.reverse, rest)

/-- The deepest nesting of keys, arrays and inline tables. -/
def nestingLimit : Nat := 80

/-- Names with points between them. -/
def keys? (cs : List Char) : Option (List Key × List Char) :=
  match keysFrom? [] (cs.length + 1) cs with
  | some (keys, rest) => if keys.length < nestingLimit then some (keys, rest) else none
  | none => none

end JavaFormat.Toml
