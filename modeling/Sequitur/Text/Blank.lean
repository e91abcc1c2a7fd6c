/-!
# Blank characters

What separates words in a typed line, and what is dropped at the two ends of a text.

The table is the Unicode property White_Space.  It is wider than `Char.isWhitespace`, which knows
four characters only, and narrower than "looks empty": the zero-width space, the byte-order mark
and the information separators are ordinary characters here.

## What is here

* `Text.isBlank` — the characters with that property.
* `Text.trim` — a text without the blanks at its two ends.
-/

set_option autoImplicit false

namespace Sequitur

namespace Text

/-- The code points with the property White_Space, as ranges with both ends included. -/
def blankRanges : List (Nat × Nat) :=
  [(0x09, 0x0D), (0x20, 0x20), (0x85, 0x85), (0xA0, 0xA0), (0x1680, 0x1680), (0x2000, 0x200A),
    (0x2028, 0x2029), (0x202F, 0x202F), (0x205F, 0x205F), (0x3000, 0x3000)]

/-- Whether a character is blank, that is, whether it separates words. -/
def isBlank (c : Char) : Bool :=
  blankRanges.any fun r ↦ r.1 ≤ c.toNat && c.toNat ≤ r.2

/-- The characters without the blanks at both ends. -/
def trimChars (cs : List Char) : List Char :=
  ((cs.dropWhile isBlank).reverse.dropWhile isBlank).reverse

/-- The text without the blanks at both ends. -/
def trim (s : String) : String :=
  String.ofList (trimChars s.toList)

end Text

end Sequitur
