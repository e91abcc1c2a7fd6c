/-!
# Whole numbers in decimal

Reading unsigned decimal numerals of bounded size, as they are typed on a command line or in an
environment variable.

A single plus sign may stand in front and leading zeros are allowed; blanks, a minus sign,
separators and the digits of other scripts are not.  A numeral that denotes too large a number is
no numeral.

## What is here

* `Text.digit?` — the value of an ASCII digit.
* `Text.digitsValue?` — the number that a non-empty run of digits denotes.
* `Text.natBelow?` — a whole text read as a number below a limit.
-/

set_option autoImplicit false

namespace Sequitur

namespace Text

/-- The value of an ASCII decimal digit. -/
def digit? (c : Char) : Option Nat :=
  if '0' ≤ c ∧ c ≤ '9' then some (c.toNat - '0'.toNat) else none

/-- The number denoted by digits that follow the digits of `acc`. -/
def digitsValueFrom? : Nat → List Char → Option Nat
  | acc, [] => some acc
  | acc, c :: cs => do digitsValueFrom? (10 * acc + (← digit? c)) cs

/-- The number denoted by a non-empty run of digits. -/
def digitsValue? : List Char → Option Nat
  | [] => none
  | c :: cs => digitsValueFrom? 0 (c :: cs)

/-- The text read as a decimal numeral of a number below `limit`, with an optional plus sign. -/
def natBelow? (limit : Nat) (s : String) : Option Nat := do
  let digits := match s.toList with
    | '+' :: rest => rest
    | cs => cs
  let n ← digitsValue? digits
  if n < limit then some n else none

end Text

end Sequitur
