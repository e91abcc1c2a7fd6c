import Sequitur.Double.Shortest
import Sequitur.Json.Basic
import Sequitur.Text.Decimal

/-!
# Doubles in JSON

How a number of a JSON text becomes a double, and how a double is written.

*Reading* scales.  The digits of the number make up a natural number below `2 ^ 64`, further digits
only counting for the power of ten; it is rounded to a double, and then multiplied by, or divided
by, a power of ten that is itself a double.  Each of the two steps rounds, so the result may be one
place away from the double nearest to the number.  A number too large for a double is refused.

*Writing* is by the shortest decimal, always with a point or an exponent: positional as long as the
leading digit is at most sixteen places before the point and at most five behind it.

## What is here

* `Json.Numeral.double?`, `Json.ofDouble`.
-/

set_option autoImplicit false

namespace Sequitur

namespace Json

/-! ## Reading -/

/-- The digits of a number gathered below `2 ^ 64`: the significand, and the power of ten that makes
up for the digits that did not fit.  The first digit that does not fit ends the gathering of the
digits of its side of the point. -/
def gatherWhole : Nat → List Char → Nat × Int
  | acc, [] => (acc, 0)
  | acc, c :: cs =>
    let next := 10 * acc + (Text.digit? c).getD 0
    if next < UInt64.size then gatherWhole next cs else (acc, ((c :: cs).length : Int))

/-- The same for the digits behind the point, which lower the power of ten as long as they fit. -/
def gatherFraction : Nat → Int → List Char → Nat × Int
  | acc, power, [] => (acc, power)
  | acc, power, c :: cs =>
    let next := 10 * acc + (Text.digit? c).getD 0
    if next < UInt64.size then gatherFraction next (power - 1) cs else (acc, power)

/-- A power of ten up to the three hundred and eighth, rounded to a double. -/
def powerOfTen (n : Nat) : Float :=
  Float.ofScientific 1 false n

/-- A double divided by a power of ten, in steps of the largest power that is a double. -/
def divideByPower : Nat → Float → Nat → Float
  | 0, f, _ => f
  | steps + 1, f, n =>
    if n ≤ 308 then f / powerOfTen n
    else if f == 0 then f
    else divideByPower steps (f / powerOfTen 308) (n - 308)

/-- A double multiplied by a power of ten, if that is a finite double. -/
def multiplyByPower? (f : Float) (n : Nat) : Option Float :=
  if n ≤ 308 then
    let product := f * powerOfTen n
    if product.isInf then none else some product
  else if f == 0 then some f
  else none

/-- A significand scaled by a power of ten. -/
def scale? (significand : Nat) (power : Int) : Option Float :=
  let f := (UInt64.ofNat significand).toFloat
  if 0 ≤ power then multiplyByPower? f power.toNat
  else some (divideByPower 4 f (-power).toNat)

/-- An exponent as it is written; one beyond the range of 32 bits is taken to the end of that
range. -/
def exponentValue : Option (Bool × List Char) → Int
  | none => 0
  | some (negative, digits) =>
    let n : Int := min ((Text.digitsValue? digits).getD 0) Int32.maxValue.toInt
    if negative then -n else n

namespace Numeral

/-- The magnitude of a number as a double, if it is in the range of doubles. -/
def magnitude? (n : Numeral) : Option Float :=
  let (acc, power) := gatherWhole 0 n.whole
  let (acc, power) := gatherFraction acc power n.fraction
  scale? acc (power + exponentValue n.exponent)

/-- A number as a double, if it is in the range of doubles. -/
def double? (n : Numeral) : Option Float :=
  n.magnitude?.map fun f ↦ if n.negative then -f else f

end Numeral

/-! ## Writing -/

/-- The digits of a natural number. -/
def natDigits (n : Nat) : List Char :=
  (toString n).toList

/-- A decimal `c * 10 ^ p` as it is written. -/
def decimalNumeral (negative : Bool) (c : Nat) (p : Int) : Numeral :=
  let digits := natDigits c
  let length : Int := digits.length
  let point := length + p
  if 0 ≤ p ∧ point ≤ 16 then
    { negative, whole := digits ++ List.replicate p.toNat '0', fraction := ['0'] }
  else if 0 < point ∧ point ≤ 16 then
    { negative, whole := digits.take point.toNat, fraction := digits.drop point.toNat }
  else if -5 < point ∧ point ≤ 0 then
    { negative, whole := ['0'], fraction := List.replicate (-point).toNat '0' ++ digits }
  else
    { negative, whole := digits.take 1, fraction := digits.drop 1,
      exponent := some (point < 1, natDigits (point - 1).natAbs) }

/-- A double as JSON; what is not a number is `null`. -/
def ofDouble (f : Float) : Json :=
  if f.isNaN || f.isInf then .null
  else
    let bits := f.toBits
    let (c, p) := Double.shortest (Double.binary bits)
    .number (decimalNumeral (UInt64.size / 2 ≤ bits.toNat) c p)

end Json

end Sequitur
