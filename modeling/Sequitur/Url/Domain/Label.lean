import Sequitur.Text.Composed
import Sequitur.Text.Direction
import Sequitur.Text.Joining
import Sequitur.Url.Domain.Folding
import Sequitur.Url.Punycode

/-!
# Labels of domain names

A label is what stands between the full stops of a domain name.  One with characters outside ASCII
is written in Punycode behind `xn--`; one that is already written so has to decode to a label that
would be left as it is.

## What is here

* `Domain.isSound` — the rules for characters outside ASCII: no mark at the head, joiners only where
  they have an effect, no excessive length.
* `Domain.isDirected` — the rule for names that are written from right to left in part.
* `Domain.Label`, with `Domain.Label.read?`.
-/

set_option autoImplicit false

namespace Sequitur

namespace Domain

/-! ## Rules -/

/-- Whether a character lies outside ASCII. -/
def isForeign (c : Char) : Bool :=
  0x80 ≤ c.toNat

/-- Characters without a form of their own that keep two letters apart or join them. -/
def isJoiner (c : Char) : Bool :=
  c.toNat = 0x200C || c.toNat = 0x200D

/-- Whether the first character that is not passed over in joining has a property. -/
def meets (property : Char → Bool) (cs : List Char) : Bool :=
  (cs.dropWhile Text.isPassedInJoining).head?.any property

/-- Whether a joiner has an effect between two texts, the first one given from its end on: behind a
mark that takes away a vowel, and, if it keeps apart, between letters that would be joined. -/
def hasEffect (joiner : Char) (before after : List Char) : Bool :=
  before.head?.any Text.isLinker ||
    (joiner.toNat = 0x200C && meets Text.joinsNext before && meets Text.joinsPrevious after)

/-- Whether all joiners of a text behind another one, which is given from its end on, have an
effect. -/
def areJoinersPlaced (before : List Char) : List Char → Bool
  | [] => true
  | c :: cs => (!isJoiner c || hasEffect c before cs) && areJoinersPlaced (c :: before) cs

/-- Whether a label can stand in a domain name. -/
def isSound (label : List Char) : Bool :=
  !label.head?.any Text.isMark && areJoinersPlaced [] label && label.length ≤ 1000

/-- Whether a label has something that is written from right to left. -/
def hasRightToLeft (label : List Char) : Bool :=
  label.any fun c ↦ Direction.of c = .rightToLeft || Direction.of c = .arabic

/-- Whether a label goes in one direction: it begins with a letter, has none of the other direction,
ends in a letter or digit apart from nonspacing marks, and does not have both kinds of digits. -/
def isDirected (label : List Char) : Bool :=
  let directions := label.map Direction.of
  let last := (directions.reverse.dropWhile (· = .nonspacing)).head?
  match directions.head? with
  | none => true
  | some .leftToRight =>
    directions.all (fun d ↦ d ≠ .rightToLeft && d ≠ .arabic) &&
      last.any (fun d ↦ d = .leftToRight || d = .european)
  | some .rightToLeft =>
    directions.all (· ≠ .leftToRight) && last.any (· ≠ .neutral) &&
      !(directions.contains .european && directions.contains .arabic)
  | some _ => false

/-! ## Reading -/

/-- A label in its characters, and as it is written in ASCII. -/
structure Label where
  shown : List Char
  written : List Char

/-- What stands in front of a label written in Punycode. -/
def marker : List Char := ['x', 'n', '-', '-']

/-- Whether a label is left as it is. -/
def isFolded (label : List Char) : Bool :=
  label.all (fun c ↦ fold? c == some [c]) && Text.compose label = label

/-- The label that some folded characters mean, if they can stand in a domain name. -/
def Label.read? (cs : List Char) : Option Label :=
  if marker.isPrefixOf cs then
    if cs.any isForeign || cs.getLast? = some '-' || 2004 < cs.length then none
    else do
      let shown ← Punycode.decode? (cs.drop 4)
      if isFolded shown && isSound shown then some { shown, written := cs } else none
  else if cs.any isForeign then
    if isSound cs then some { shown := cs, written := marker ++ Punycode.encode cs } else none
  else some { shown := cs, written := cs }

end Domain

end Sequitur
