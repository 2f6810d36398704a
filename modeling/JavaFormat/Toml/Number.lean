import JavaFormat.Toml.Text

/-!
# Numbers and dates of TOML
-/

set_option autoImplicit false

namespace JavaFormat.Toml

/-- The digits of a text and what follows them.  Single underscores between digits are left out; one
that no digit follows is malformed.  `read` holds the digits before the text, in reverse. -/
def moreDigits? (isDigit : Char → Bool) (read : List Char) :
    List Char → Option (List Char × List Char)
  | '_' :: c :: rest => if isDigit c then moreDigits? isDigit (c :: read) rest else none
  | ['_'] => none
  | c :: rest =>
    if isDigit c then moreDigits? isDigit (c :: read) rest else some (read.reverse, c :: rest)
  | [] => some (read.reverse, [])

/-- At least one digit and what follows. -/
def digits? (isDigit : Char → Bool) : List Char → Option (List Char × List Char)
  | c :: rest => if isDigit c then moreDigits? isDigit [c] rest else none
  | [] => none

/-- The sign that a text may start with, whether it is negative, and what follows. -/
def sign : List Char → Bool × List Char
  | '+' :: rest => (false, rest)
  | '-' :: rest => (true, rest)
  | cs => (false, cs)

/-- The digits of a whole decimal number, which does not start with a zero unless it is zero. -/
def wholeDigits? : List Char → Option (List Char × List Char)
  | '0' :: rest => some (['0'], rest)
  | cs => digits? Char.isDigit cs

/-- The value of some digits. -/
def digitsValue (base : Nat) (cs : List Char) : Nat :=
  cs.foldl (fun n c =>
    let code := c.toNat
    n * base + (if code ≤ 57 then code - 48 else if code ≤ 70 then code - 55 else code - 87)) 0

/-- A whole number that fits into 64 bits with a sign. -/
def bounded? (n : Int) : Option Int :=
  if -0x8000000000000000 ≤ n ∧ n < 0x8000000000000000 then some n else none

/-- The number with some digits and a power of ten. -/
def floatOf (digits : Nat) (exponent : Int) : Float :=
  let places := (toString digits).length
  if digits = 0 then 0.0
  else if 310 < places + exponent then 1.0 / 0.0
  else if places + exponent < -330 then 0.0
  else Float.ofScientific digits (exponent < 0) exponent.natAbs

/-- What a number or a date may be. -/
inductive Number where
  /-- A whole number. -/
  | integer (n : Int)
  /-- A floating-point number. -/
  | float (x : Float)
  /-- A date, a time or both. -/
  | date

/-! ## Dates and times -/

/-- The value of exactly `n` digits and what follows them. -/
def fixedDigits? (n : Nat) (cs : List Char) : Option (Nat × List Char) :=
  let ds := cs.take n
  if ds.length = n ∧ ds.all Char.isDigit then some (digitsValue 10 ds, cs.drop n) else none

/-- The text after a character that it starts with. -/
def skipChar? (c : Char) : List Char → Option (List Char)
  | d :: rest => if c = d then some rest else none
  | [] => none

/-- The days of a month. -/
def daysOf (year month : Nat) : Nat :=
  if month = 2 then
    if year % 4 = 0 ∧ (year % 100 ≠ 0 ∨ year % 400 = 0) then 29 else 28
  else if month = 4 ∨ month = 6 ∨ month = 9 ∨ month = 11 then 30 else 31

/-- What follows a date after its year and the first dash. -/
def afterYear? (year : Nat) (cs : List Char) : Option (List Char) := do
  let (month, cs) ← fixedDigits? 2 cs
  guard (1 ≤ month ∧ month ≤ 12)
  let cs ← skipChar? '-' cs
  let (day, cs) ← fixedDigits? 2 cs
  guard (1 ≤ day ∧ day ≤ daysOf year month)
  return cs

/-- What follows a time after its hour and the first colon. -/
def afterHour? (cs : List Char) : Option (List Char) := do
  let (minute, cs) ← fixedDigits? 2 cs
  guard (minute ≤ 59)
  let cs ← skipChar? ':' cs
  let (second, cs) ← fixedDigits? 2 cs
  guard (second ≤ 60)
  match cs with
  | '.' :: c :: rest =>
    if c.isDigit then return rest.dropWhile Char.isDigit else return '.' :: c :: rest
  | cs => return cs

/-- The text after an hour and a colon that it starts with. -/
def hourColon? (cs : List Char) : Option (List Char) := do
  let (hour, cs) ← fixedDigits? 2 cs
  guard (hour ≤ 23)
  skipChar? ':' cs

/-- What follows the offset that may stand after a date and a time. -/
def afterOffset? : List Char → Option (List Char)
  | 'Z' :: rest => some rest
  | 'z' :: rest => some rest
  | c :: rest =>
    if c = '+' ∨ c = '-' then do
      let cs ← hourColon? rest
      let (minute, cs) ← fixedDigits? 2 cs
      guard (minute ≤ 59)
      return cs
    else some (c :: rest)
  | [] => some []

/-- What follows the time that may stand after a date. -/
def afterDate? : List Char → Option (List Char)
  | c :: rest =>
    if c = 'T' ∨ c = 't' ∨ c = ' ' then
      match hourColon? rest with
      | some cs => (afterHour? cs).bind afterOffset?
      | none => some (c :: rest)
    else some (c :: rest)
  | [] => some []

/-- A date or a time, if the text starts like one: what follows it, or that it is malformed. -/
def date? (cs : List Char) : Option (Option (List Char)) :=
  match fixedDigits? 4 cs with
  | some (year, '-' :: rest) => some ((afterYear? year rest).bind afterDate?)
  | _ =>
    match hourColon? cs with
    | some rest => some (afterHour? rest)
    | none => none

/-! ## Numbers -/

/-- The exponent that may follow the digits of a number, and what follows it. -/
def exponent? : List Char → Option (Int × List Char)
  | c :: rest =>
    if c = 'e' ∨ c = 'E' then
      let (negative, rest) := sign rest
      match digits? Char.isDigit rest with
      | some (ds, after) =>
        let n : Int := digitsValue 10 ds
        some (if negative then -n else n, after)
      | none => none
    else some (0, c :: rest)
  | [] => some (0, [])

/-- A whole number in another base than ten, after the mark of its base. -/
def based? (base : Nat) (isDigit : Char → Bool) (cs : List Char) : Option (Number × List Char) :=
  match digits? isDigit cs with
  | some (ds, after) => (bounded? (digitsValue base ds)).map fun n => (.integer n, after)
  | none => none

/-- The number after a sign. -/
def unsigned? (negative : Bool) (cs : List Char) : Option (Number × List Char) :=
  let signed (x : Float) : Float := if negative then -x else x
  match cs with
  | 'i' :: 'n' :: 'f' :: rest => some (.float (signed (1.0 / 0.0)), rest)
  | 'n' :: 'a' :: 'n' :: rest => some (.float (0.0 / 0.0), rest)
  | cs =>
    match wholeDigits? cs with
    | none => none
    | some (whole, '.' :: rest) => do
      let (fraction, rest) ← digits? Char.isDigit rest
      let (exponent, rest) ← exponent? rest
      number (whole ++ fraction) (exponent - fraction.length) rest
    | some (whole, c :: rest) =>
      if c = 'e' ∨ c = 'E' then do
        let (exponent, rest) ← exponent? (c :: rest)
        number whole exponent rest
      else integer whole (c :: rest)
    | some (whole, []) => integer whole []
where
  /-- The whole number with some digits. -/
  integer (ds : List Char) (rest : List Char) : Option (Number × List Char) :=
    let n : Int := digitsValue 10 ds
    (bounded? (if negative then -n else n)).map fun n => (.integer n, rest)
  /-- The floating-point number with some digits, which may be too small but not too great. -/
  number (ds : List Char) (exponent : Int) (rest : List Char) : Option (Number × List Char) :=
    let x := floatOf (digitsValue 10 ds) exponent
    if x.isInf ∧ ¬negative then none else some (.float (if negative then -x else x), rest)

/-- A number or a date. -/
def number? (cs : List Char) : Option (Number × List Char) :=
  match date? cs with
  | some result => result.map fun rest => (.date, rest)
  | none =>
    match cs with
    | '0' :: 'x' :: rest => based? 16 isHexDigit rest
    | '0' :: 'o' :: rest => based? 8 (fun c => decide ('0' ≤ c) && decide (c ≤ '7')) rest
    | '0' :: 'b' :: rest => based? 2 (fun c => c == '0' || c == '1') rest
    | cs =>
      let (negative, rest) := sign cs
      unsigned? negative rest
where
  /-- Whether a character is a hexadecimal digit. -/
  isHexDigit (c : Char) : Bool :=
    c.isDigit || (decide ('a' ≤ c) && decide (c ≤ 'f')) || (decide ('A' ≤ c) && decide (c ≤ 'F'))

end JavaFormat.Toml
