/-!
# Hexadecimal digits

The digits from 0 to 15 as characters: written in lower case, read in either case.
-/

set_option autoImplicit false

namespace Sequitur

namespace Text

/-- The last hexadecimal digit of a number. -/
def hexDigit (n : Nat) : Fin 16 :=
  ⟨n % 16, Nat.mod_lt n (by decide)⟩

/-- The lower-case character of a hexadecimal digit. -/
def hexChar (d : Fin 16) : Char :=
  ['0', '1', '2', '3', '4', '5', '6', '7', '8', '9', 'a', 'b', 'c', 'd', 'e', 'f'].get d

/-- The hexadecimal digit that a character of either case stands for. -/
def hexDigit? (c : Char) : Option (Fin 16) :=
  if '0' ≤ c ∧ c ≤ '9' then some (hexDigit (c.toNat - '0'.toNat))
  else if 'a' ≤ c ∧ c ≤ 'f' then some (hexDigit (c.toNat - 'a'.toNat + 10))
  else if 'A' ≤ c ∧ c ≤ 'F' then some (hexDigit (c.toNat - 'A'.toNat + 10))
  else none

/-- A digit is read back from its character. -/
theorem hexDigit?_hexChar (d : Fin 16) : hexDigit? (hexChar d) = some d := by
  revert d; decide

end Text

end Sequitur
