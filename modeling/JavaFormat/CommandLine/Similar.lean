/-!
# Similar words

`similarity` measures how much of two words agrees: the share of the characters of each that the
other has at nearly the same place, and how many of those are in the same order.  `similar` picks
the words that are close enough to be meant by another one.
-/

set_option autoImplicit false

namespace JavaFormat.CommandLine

/-- The place of the first character equal to `c` that is not taken, among those from place `low` on
and before `high`. -/
def freePlace? (c : Char) (low high : Nat) (word : List Char) (taken : List Nat) : Option Nat :=
  (List.range (min high word.length)).find? fun j =>
    decide (low ≤ j) && word[j]? == some c && !taken.contains j

/-- The places of the characters of a word that agree with those of another, with their partners. -/
def partners (a b : List Char) : List (Nat × Nat) :=
  let reach := max a.length b.length / 2 - 1
  (a.zipIdx.foldl (fun found (c, i) =>
    match freePlace? c (i - reach) (i + reach + 1) b (found.map Prod.snd) with
    | some j => (i, j) :: found
    | none => found) []).reverse

/-- How much of two words agrees, from 0 to 1. -/
def similarity (a b : String) : Float :=
  let xs := a.toList
  let ys := b.toList
  if xs.isEmpty && ys.isEmpty then 1.0
  else
    let pairs := partners xs ys
    if pairs.isEmpty then 0.0
    else
      let inOrder := (pairs.map Prod.snd).mergeSort fun i j => decide (i ≤ j)
      let moved := (List.zip (pairs.map Prod.fst) inOrder).countP fun (i, j) => xs[i]? != ys[j]?
      let n := Float.ofNat pairs.length
      (n / Float.ofNat xs.length + n / Float.ofNat ys.length +
        Float.ofNat (pairs.length - moved / 2) / n) / 3.0

/-- Puts a candidate behind those that are less similar or equally so. -/
def rank (candidate : Float × String) : List (Float × String) → List (Float × String)
  | [] => [candidate]
  | other :: rest =>
    if candidate.1 < other.1 then candidate :: other :: rest else other :: rank candidate rest

/-- The words that may be meant by another one, the most similar last. -/
def similar (word : String) (words : List String) : List String :=
  if words.contains word then [word]
  else
    (words.foldl (fun found other =>
      let s := similarity word other
      if 0.7 < s then rank (s, other) found else found) []).map Prod.snd

end JavaFormat.CommandLine
