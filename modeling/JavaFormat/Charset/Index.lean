/-!
# Indexes of characters

An index numbers characters by pointers, some of which are free; a character may stand at several
pointers.  `Index.get?` reads it and `Index.pointer?` finds the first admissible pointer of a
character, so that reading what was found gives the character back (`get?_of_pointer?`).
-/

set_option autoImplicit false

namespace JavaFormat.Charset

/-- The characters of a table, by pointer. -/
structure Index where
  /-- The character at each pointer, if there is one. -/
  chars : Array (Option Char)

namespace Index

/-- The sixteen entries of a number that holds code points of `digits` hexadecimal digits each, the
first in the highest digits; zero is no entry. -/
def unpack (digits row : Nat) : List (Option Char) :=
  (List.range 16).map fun i =>
    let code := (row >>> (4 * digits * (15 - i))) % 1 <<< (4 * digits)
    if code = 0 then none else some (Char.ofNat code)

/-- The index whose entries are packed into numbers. -/
def ofRows (digits : Nat) (rows : List Nat) : Index := ⟨(rows.flatMap (unpack digits)).toArray⟩

/-- The character at a pointer. -/
def get? (index : Index) (pointer : Nat) : Option Char := index.chars[pointer]?.join

/-- The first pointer of a character, from `start` on, among the admissible ones. -/
def pointerFrom? (index : Index) (admissible : Nat → Bool) (c : Char) (start : Nat) : Option Nat :=
  if h : start < index.chars.size then
    if index.chars[start] = some c ∧ admissible start then some start
    else pointerFrom? index admissible c (start + 1)
  else none
termination_by index.chars.size - start

/-- The first pointer of a character among the admissible ones. -/
def pointer? (index : Index) (admissible : Nat → Bool) (c : Char) : Option Nat :=
  index.pointerFrom? admissible c 0

theorem get?_of_pointerFrom? (index : Index) (admissible : Nat → Bool) (c : Char)
    (start p : Nat) (h : index.pointerFrom? admissible c start = some p) :
    index.get? p = some c ∧ admissible p = true := by
  fun_induction pointerFrom? index admissible c start with
  | case1 start hlt hc =>
    obtain rfl := Option.some.inj h
    exact ⟨by simp [get?, hlt, hc.1], hc.2⟩
  | case2 start hlt hc ih => exact ih h
  | case3 start hlt => simp at h

/-- The pointer found for a character is admissible and holds it. -/
theorem get?_of_pointer? {index : Index} {admissible : Nat → Bool} {c : Char} {p : Nat}
    (h : index.pointer? admissible c = some p) : index.get? p = some c ∧ admissible p = true :=
  get?_of_pointerFrom? index admissible c 0 p h

end Index

end JavaFormat.Charset
