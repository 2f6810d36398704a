/-!
# The shortest decimal of a floating-point number

A binary floating-point number `m · 2^q` is the nearest one to all the reals of an interval around
it.  `shortest` finds the fewest decimal digits whose value lies in that interval, and of those the
nearest to the number; `positional` writes digits and exponent without an exponent mark.
-/

set_option autoImplicit false

namespace JavaFormat.Decimal

/-- A positive floating-point number `m · 2^q`.  `narrow` says that the next smaller number is only
half as far away as the next greater one. -/
structure Binary where
  /-- The significand. -/
  m : Nat
  /-- The exponent. -/
  q : Int
  /-- Whether the next smaller number is at half the distance. -/
  narrow : Bool
  deriving DecidableEq, Repr

/-- The sign, the exponent field and the fraction field of a number. -/
def fields (x : Float) : Bool × Nat × Nat :=
  let bits := x.toBits.toNat
  (decide (1 <<< 63 ≤ bits), (bits >>> 52) % 0x800, bits % 1 <<< 52)

/-- The finite number with an exponent field and a fraction field. -/
def Binary.ofFields (exponent fraction : Nat) : Binary :=
  if exponent = 0 then ⟨fraction, -1074, false⟩
  else ⟨1 <<< 52 + fraction, (exponent : Int) - 1075, fraction = 0 ∧ exponent ≠ 1⟩

/-- Four times a number, its lower bound and its upper bound, over a common denominator that is the
last component. -/
def Binary.scaled (b : Binary) : Nat × Nat × Nat × Nat :=
  let up := 1 <<< b.q.toNat
  let down := 1 <<< (-b.q).toNat
  (4 * b.m * up, (4 * b.m - (if b.narrow then 1 else 2)) * up, (4 * b.m + 2) * up, 4 * down)

/-- The least `k` from `start` on, within `fuel` steps, with `num / den < 10^k`. -/
def magnitudeFrom (num den : Nat) : Nat → Int → Int
  | 0, k => k
  | fuel + 1, k =>
    if num * Nat.pow 10 (-k).toNat < den * Nat.pow 10 k.toNat then k
    else magnitudeFrom num den fuel (k + 1)

/-- Digits and an exponent: `digits · 10^exponent`. -/
structure Digits where
  /-- The digits. -/
  digits : Nat
  /-- The exponent. -/
  exponent : Int
  deriving DecidableEq, Repr

/-- The number `num / den` on the grid of the multiples of `10^exponent`: the nearest point of the
two around it that lies within the bounds, the greater of two that are equally near.  The bounds
count if `closed`. -/
def nearest? (num low high den : Nat) (closed : Bool) (exponent : Int) : Option Nat :=
  let up := Nat.pow 10 exponent.toNat
  let down := Nat.pow 10 (-exponent).toNat
  let below := num * down / (den * up)
  let inside (n : Nat) : Bool :=
    let v := n * den * up
    if closed then decide (low * down ≤ v) && decide (v ≤ high * down)
    else decide (low * down < v) && decide (v < high * down)
  let nearBelow : Bool := decide (2 * num * down < (2 * below + 1) * den * up)
  if inside below ∧ (nearBelow ∨ ¬inside (below + 1)) then some below
  else if inside (below + 1) then some (below + 1) else none

/-- The first of the grids of `tried + 1`, `tried + 2`, … digits, `fuel` of them, that has a point
within the bounds. -/
def firstGrid (num low high den : Nat) (closed : Bool) (magnitude : Int) :
    Nat → Nat → Digits
  | 0, tried => ⟨num / den, tried⟩
  | fuel + 1, tried =>
    let exponent := magnitude - (tried + 1)
    match nearest? num low high den closed exponent with
    | some digits => ⟨digits, exponent⟩
    | none => firstGrid num low high den closed magnitude fuel (tried + 1)

/-- The shortest digits of a number. -/
def shortest (b : Binary) : Digits :=
  let (num, low, high, den) := b.scaled
  firstGrid num low high den (b.m % 2 = 0) (magnitudeFrom num den 700 (-330)) 17 0

/-- Digits with a point in the right place and no exponent. -/
def positional (d : Digits) : String :=
  let text := toString d.digits
  if 0 ≤ d.exponent then text ++ String.ofList (List.replicate d.exponent.toNat '0')
  else
    let places := (-d.exponent).toNat
    let padded := List.replicate (places + 1 - text.length) '0' ++ text.toList
    let whole := padded.take (padded.length - places)
    let fraction := padded.drop (padded.length - places)
    let kept := (fraction.reverse.dropWhile (· == '0')).reverse
    String.ofList (if kept = [] then whole else whole ++ '.' :: kept)

/-- A number with its shortest digits and no exponent; a whole number has one place. -/
def render (x : Float) : String :=
  let (negative, exponent, fraction) := fields x
  if exponent = 2047 then
    if fraction ≠ 0 then "NaN" else if negative then "-inf" else "inf"
  else
    let text :=
      if exponent = 0 ∧ fraction = 0 then "0"
      else positional (shortest (.ofFields exponent fraction))
    (if negative then "-" else "") ++ (if text.contains '.' then text else text ++ ".0")

end JavaFormat.Decimal
