import Sequitur.Url.Domain.Label

/-!
# Domain names

The host of a URL with a scheme such as `http` is a domain name, which is brought into one form: its
characters are folded and composed, and each label that has characters outside ASCII is written in
ASCII.

## What is here

* `Domain.toAscii?` — the one form of a domain name, if it is one.
-/

set_option autoImplicit false

namespace Sequitur

namespace Domain

/-- The characters of ASCII that no domain name has, besides controls and the space. -/
def forbiddenAscii : List Char :=
  ['%', '#', '/', ':', '<', '>', '?', '@', '[', '\\', ']', '^', '|']

/-- Whether a folded character may stand in a domain name. -/
def isAllowed (c : Char) : Bool :=
  isForeign c || (0x20 < c.toNat && c.toNat < 0x7F && !forbiddenAscii.contains c)

/-- The labels of a domain name. -/
def labels? (name : List Char) : Option (List Label) := do
  let folded ← name.mapM fold?
  let composed := Text.compose folded.flatten
  if composed.all isAllowed then (Text.split '.' composed).mapM Label.read? else none

/-- The one form of a domain name.  If a part of it is written from right to left, then every label
has to go in one direction. -/
def toAscii? (name : List Char) : Option (List Char) := do
  let labels ← labels? name
  let needsDirection := labels.any fun l ↦ hasRightToLeft l.shown
  if needsDirection && !labels.all (fun l ↦ isDirected l.shown) then none
  else some (['.'].intercalate (labels.map Label.written))

end Domain

end Sequitur
