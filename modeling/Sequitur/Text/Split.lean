/-!
# Splitting at a character

`Text.split` cuts a text at every occurrence of a character and keeps the parts between, empty ones
included; there is always at least one part.
-/

set_option autoImplicit false

namespace Sequitur

namespace Text

/-- The parts of a text between the occurrences of the separators. -/
def splitWhere (isSeparator : Char → Bool) : List Char → List (List Char)
  | [] => [[]]
  | c :: cs =>
    if isSeparator c then [] :: splitWhere isSeparator cs
    else match splitWhere isSeparator cs with
      | [] => [[c]]
      | part :: rest => (c :: part) :: rest

/-- The parts of a text between the occurrences of a character. -/
def split (separator : Char) (cs : List Char) : List (List Char) :=
  splitWhere (· = separator) cs

end Text

end Sequitur
