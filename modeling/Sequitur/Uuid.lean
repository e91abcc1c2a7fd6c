import Sequitur.Text.Hex

/-!
# Universally unique identifiers

Nodes of a proof tree and exercises are named by UUIDs.  All that the program ever does with one
is to compare it, to write it and to read it, so a UUID is its thirty-two hexadecimal digits.

## What is here

* `Uuid`, with `Uuid.toString` (lower case, grouped 8-4-4-4-12) and `Uuid.short` (the first eight
  digits).
* `Uuid.parse?` — the four accepted spellings: grouped, ungrouped, in braces, as a URN.
* `Uuid.ofNat`, `Uuid.ofRandom`.
-/

set_option autoImplicit false

namespace Sequitur

/-- A UUID, by its hexadecimal digits. -/
structure Uuid where
  digits : List (Fin 16)
  length_digits : digits.length = 32
  deriving DecidableEq

namespace Uuid

/-! ## Writing -/

/-- The lower-case digits, ungrouped. -/
def hexChars (u : Uuid) : List Char :=
  u.digits.map Text.hexChar

/-- The characters with hyphens after the eighth, twelfth, sixteenth and twentieth. -/
def hyphenate (cs : List Char) : List Char :=
  cs.take 8 ++ '-' :: ((cs.drop 8).take 4 ++ '-' :: ((cs.drop 12).take 4 ++
    '-' :: ((cs.drop 16).take 4 ++ '-' :: cs.drop 20)))

/-- The written form: lower-case digits in groups of 8, 4, 4, 4 and 12. -/
protected def toString (u : Uuid) : String :=
  String.ofList (hyphenate u.hexChars)

instance : ToString Uuid := ⟨Uuid.toString⟩

/-- The first eight digits, by which a session shows a node. -/
def short (u : Uuid) : String :=
  String.ofList (u.hexChars.take 8)

/-! ## Reading -/

/-- The UUID with the given digits, if there are thirty-two. -/
def ofDigits? (ds : List (Fin 16)) : Option Uuid :=
  if h : ds.length = 32 then some ⟨ds, h⟩ else none

/-- Thirty-two hexadecimal digits. -/
def parseUngrouped? (cs : List Char) : Option Uuid :=
  (cs.mapM Text.hexDigit?).bind ofDigits?

/-- Thirty-two hexadecimal digits with the four hyphens in their places. -/
def parseGrouped? (cs : List Char) : Option Uuid :=
  let plain := cs.take 8 ++ (cs.drop 9).take 4 ++ (cs.drop 14).take 4 ++ (cs.drop 19).take 4 ++
    cs.drop 24
  if hyphenate plain = cs then parseUngrouped? plain else none

/-- The name space in front of a UUID that is written as a URN; its letters may have any case. -/
def isUrnSpace (cs : List Char) : Bool :=
  cs.map Char.toLower = "urn:uuid:".toList

/-- The UUID written by the characters in one of the accepted spellings. -/
def parseChars? (cs : List Char) : Option Uuid :=
  match cs.length with
  | 32 => parseUngrouped? cs
  | 36 => parseGrouped? cs
  | 38 => if cs.head? = some '{' ∧ cs.getLast? = some '}' then
      parseGrouped? (cs.drop 1).dropLast
    else none
  | 45 => if isUrnSpace (cs.take 9) then parseGrouped? (cs.drop 9) else none
  | _ => none

/-- The UUID written by a text: grouped, ungrouped, grouped in braces, or as a URN. -/
def parse? (s : String) : Option Uuid :=
  parseChars? s.toList

/-! ## Making -/

/-- The UUID with the given digits at its end and zeros in front. -/
def ofNat (n : Nat) : Uuid :=
  ⟨(List.range 32).map fun i ↦ Text.hexDigit (n / Nat.pow 16 (31 - i)), by simp⟩

/-- The UUID made of random digits, two of which are set to say that it is made so. -/
def ofRandom (n : Nat) : Uuid :=
  let random := (ofNat n).digits
  let variant := Text.hexDigit (8 + (random[16]?.elim 0 Fin.val) % 4)
  ⟨(random.set 12 (Text.hexDigit 4)).set 16 variant, by simp [random, (ofNat n).length_digits]⟩

end Uuid

end Sequitur
