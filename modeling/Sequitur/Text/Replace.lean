/-!
# Replacing a phrase

`Text.replace phrase insert s` puts `insert` in the place of every occurrence of `phrase`, read
from left to right without overlap.  What has been inserted is not read again within one call, but
a second call reads all of it.
-/

set_option autoImplicit false

namespace Sequitur

namespace Text

/-- Replacement on characters; the first `skip` of them belong to an occurrence already replaced
and are passed over. -/
def replaceChars (phrase insert : List Char) : Nat → List Char → List Char
  | _, [] => []
  | skip + 1, _ :: cs => replaceChars phrase insert skip cs
  | 0, c :: cs =>
    if phrase.isPrefixOf (c :: cs) then
      insert ++ replaceChars phrase insert (phrase.length - 1) cs
    else
      c :: replaceChars phrase insert 0 cs

/-- The text with every occurrence of the non-empty `phrase` replaced by `insert`. -/
def replace (phrase insert s : String) : String :=
  String.ofList (replaceChars phrase.toList insert.toList 0 s.toList)

/-- A text is filled with spaces on the right until it has `width` characters. -/
def padRight (width : Nat) (s : String) : String :=
  s ++ String.ofList (List.replicate (width - s.length) ' ')

end Text

end Sequitur
