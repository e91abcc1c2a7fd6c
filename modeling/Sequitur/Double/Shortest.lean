/-!
# The shortest decimal of a double

Of all decimal numbers that are read back as a given double, `Double.shortest` finds one with the
fewest digits, and among those the nearest to the double's exact value.

A double is a natural number `m` times a power of two, and the reals that are read back as it form
an interval around it, whose ends belong to it if and only if `m` is even.  For one digit, two
digits and so on, only the two neighbours of the value on the grid of decimals of that length can be
the answer: if any point of the grid lies in the interval, one of the two does.  All comparisons are
between natural numbers.

## What is here

* `Double.Binary`, `Double.binary` — significand and exponent out of the bits.
* `Double.shortest` — digits and power of ten.
-/

set_option autoImplicit false

namespace Sequitur

namespace Double

/-- The number `significand * 2 ^ exponent`. -/
structure Binary where
  significand : Nat
  exponent : Int
  deriving DecidableEq

/-- The number of significands of one exponent. -/
def significands : Nat := Nat.pow 2 52

/-- The magnitude of a finite double. -/
def binary (bits : UInt64) : Binary :=
  let fraction : Nat := bits.toNat % significands
  let biased : Nat := bits.toNat / significands % 2048
  if biased = 0 then ⟨fraction, -1074⟩ else ⟨significands + fraction, (biased : Int) - 1075⟩

namespace Binary

/-- Whether the next smaller double is only half as far away as the next larger one. -/
def isBinade (b : Binary) : Bool :=
  b.significand = significands && -1074 < b.exponent

/-- The value and the ends of its interval in units of a quarter of the last place. -/
def quarters (b : Binary) : Nat × Nat × Nat :=
  (4 * b.significand - (if b.isBinade then 1 else 2), 4 * b.significand, 4 * b.significand + 2)

end Binary

/-- The factors by which a number of units `2 ^ q` and a number of units `10 ^ p` become
comparable. -/
def commonUnits (q p : Int) : Nat × Nat :=
  (Nat.pow 2 q.toNat * Nat.pow 10 (-p).toNat,
    Nat.pow 2 (-q).toNat * Nat.pow 10 p.toNat)

/-- The power of ten of the leading digit of a fraction, which is sought downwards at most `bound`
places below the point. -/
def leadingPlaceBelow (num den : Nat) : Nat → Nat → Int
  | 0, place => -(place : Int)
  | bound + 1, place =>
    if den ≤ num * Nat.pow 10 place then -(place : Int)
    else leadingPlaceBelow num den bound (place + 1)

/-- The power of ten of the leading digit of a positive fraction. -/
def leadingPlace (num den : Nat) : Int :=
  if den ≤ num then ((toString (num / den)).length : Int) - 1
  else leadingPlaceBelow num den 400 1

/-- The nearest point of the grid of multiples of `10 ^ p` that lies in the interval of `b`, if one
does; of two equally near, the even one. -/
def onGrid? (b : Binary) (p : Int) : Option Nat :=
  let (low, mid, high) := b.quarters
  let (binaryUnit, decimalUnit) := commonUnits (b.exponent - 2) p
  let within (c : Nat) : Bool :=
    let x := c * decimalUnit
    if b.significand % 2 = 0 then low * binaryUnit ≤ x && x ≤ high * binaryUnit
    else low * binaryUnit < x && x < high * binaryUnit
  let below := mid * binaryUnit / decimalUnit
  let above := below + 1
  let toBelow := mid * binaryUnit - below * decimalUnit
  let toAbove := above * decimalUnit - mid * binaryUnit
  let preferBelow := toBelow < toAbove || (toBelow = toAbove && below % 2 = 0)
  match within below, within above with
  | true, true => some (if preferBelow then below else above)
  | true, false => some below
  | false, true => some above
  | false, false => none

/-- The first grid with a point in the interval, from `count` digits on. -/
def shortestFrom (b : Binary) (leading : Int) : Nat → Nat → Nat × Int
  | 0, count => (0, leading - count)
  | more + 1, count =>
    let p := leading + 1 - count
    match onGrid? b p with
    | some c => (c, p)
    | none => shortestFrom b leading more (count + 1)

/-- Trailing zeros moved from the digits into the power of ten. -/
def normalize : Nat → Nat × Int → Nat × Int
  | 0, d => d
  | bound + 1, (c, p) =>
    if c ≠ 0 ∧ c % 10 = 0 then normalize bound (c / 10, p + 1) else (c, p)

/-- The digits `c` and the power `p` of the shortest decimal `c * 10 ^ p` of a positive number; the
last digit is not zero. -/
def shortest (b : Binary) : Nat × Int :=
  if b.significand = 0 then (0, 0)
  else
    let (binaryUnit, decimalUnit) := commonUnits b.exponent 0
    normalize 400 (shortestFrom b (leadingPlace (b.significand * binaryUnit) decimalUnit) 20 1)

end Double

end Sequitur
