import Sequitur.Json.Double
import Sequitur.Uuid

/-!
# Decoding JSON values

From a JSON value to a value of the domain.  A decoder is told how many levels of arrays and objects
it may still enter, its *room*; the outermost decoder of a text has room for `Json.depthLimit`
levels.  What a decoder does not look at, it does not judge: the value under an unknown key may nest
as deep as it likes and hold numbers and literals that nobody could read.

A value with named fields is written as an object; it may also be given as an array of its fields in
their order, from whose end optional fields may be left off.  In an object a known key may occur
only once, unknown keys are ignored, and the order is free.

A choice between alternatives with contents is an object of a tag and a content, in any order, or an
array of the two.  When the content stands in front of its tag it has to be read before it is known
what it is: it is *held*.  All of a held value is judged (`Json.isPlain`), and the tags inside it
have more spellings: in an object, a lone key may have an empty object under it instead of `null`,
and in an array the number of an alternative may stand for its name.

## What is here

* `Decoder`, `Json.decode?`.
* Decoders of plain values, of lists, and of optional values.
* `Json.enter` — one level down; `Json.fields?`, `Json.tagged?` — the shapes of objects.
-/

set_option autoImplicit false

namespace Sequitur

/-- A reader of values of one type out of JSON, given the room for further levels. -/
abbrev Decoder (α : Type) := Nat → Json → Option α

namespace Json

/-- How many arrays and objects may be nested in one another. -/
def depthLimit : Nat := 127

/-- A value decoded with all the room there is. -/
def decode? {α : Type} (decoder : Decoder α) (j : Json) : Option α :=
  decoder depthLimit j

/-! ## Values judged as a whole -/

namespace Numeral

/-- The integer of a number that is spelled as one: without a point, an exponent, or a minus sign in
front of zero. -/
def integer? (n : Numeral) : Option Int := do
  if n.fraction.isEmpty ∧ n.exponent.isNone then
    let magnitude ← Text.digitsValue? n.whole
    if n.negative then
      if magnitude = 0 then none else some (-(magnitude : Int))
    else
      some magnitude
  else
    none

/-- Whether a number can be read at all: as an integer of 64 bits, or else as a double. -/
def isReadable (n : Numeral) : Bool :=
  n.integer?.any (fun i ↦ Int64.minValue.toInt ≤ i && i < UInt64.size) || n.double?.isSome

end Numeral

mutual
/-- Whether a value could be read as a whole: it nests within the room, all of its literals and keys
denote texts, and all of its numbers can be read. -/
def isPlain : Nat → Json → Bool
  | _, .null => true
  | _, .bool _ => true
  | _, .number n => n.isReadable
  | _, .string s => s.isSome
  | 0, .array _ => false
  | room + 1, .array items => arePlainItems room items
  | 0, .object _ => false
  | room + 1, .object members => arePlainMembers room members

/-- Whether all items of an array could be read. -/
def arePlainItems : Nat → List Json → Bool
  | _, [] => true
  | room, j :: rest => isPlain room j && arePlainItems room rest

/-- Whether all members of an object could be read. -/
def arePlainMembers : Nat → List (Option String × Json) → Bool
  | _, [] => true
  | room, (k, j) :: rest => k.isSome && isPlain room j && arePlainMembers room rest
end

/-! ## Plain values -/

/-- A text. -/
def text? : Decoder String
  | _, .string s => s
  | _, _ => none

/-- A truth value. -/
def bool? : Decoder Bool
  | _, .bool b => some b
  | _, _ => none

/-- An integer within bounds. -/
def integer? (low high : Int) : Decoder Int
  | _, .number n => do
    let i ← n.integer?
    if low ≤ i ∧ i ≤ high then some i else none
  | _, _ => none

/-- A natural number of 32 bits. -/
def uint32? : Decoder UInt32 := fun room j ↦
  (integer? 0 (UInt32.size - 1) room j).map fun i ↦ UInt32.ofNat i.toNat

/-- An integer of 32 bits. -/
def int32? : Decoder Int32 := fun room j ↦
  (integer? Int32.minValue.toInt Int32.maxValue.toInt room j).map Int32.ofInt

/-- A number, as a double. -/
def double? : Decoder Float
  | _, .number n => n.double?
  | _, _ => none

/-- A UUID in any of its spellings. -/
def uuid? : Decoder Uuid := fun room j ↦
  (text? room j).bind Uuid.parse?

/-! ## Lists and optional values -/

/-- A decoder of what is inside an array or object, told the room inside, as a decoder of the array
or object. -/
def enter {α : Type} (inside : Decoder α) : Decoder α
  | 0, _ => none
  | room + 1, j => inside room j

/-- An array, each item by the same decoder. -/
def list? {α : Type} (item : Decoder α) : Decoder (List α) :=
  enter fun room j ↦
    match j with
    | .array items => items.mapM (item room)
    | _ => none

/-- A value, or `null` for none. -/
def nullable? {α : Type} (decoder : Decoder α) : Decoder (Option α)
  | _, .null => some none
  | room, j => (decoder room j).map some

/-! ## Fields -/

/-- The members of an object with known keys, if all keys denote texts and no known one occurs
twice. -/
def knownMembers? (keys : List String) :
    List (Option String × Json) → Option (List (String × Json))
  | [] => some []
  | (none, _) :: _ => none
  | (some k, j) :: rest => do
    let known ← knownMembers? keys rest
    if k ∈ keys then
      if (known.lookup k).isSome then none else some ((k, j) :: known)
    else
      some known

/-- The fields with known keys of a value that has to be given as an object. -/
def objectFields? (keys : List String) : Json → Option (List (String × Json))
  | .object members => knownMembers? keys members
  | _ => none

/-- The fields with known keys of a value given as an object or as an array of at most as many
items. -/
def fields? (keys : List String) : Json → Option (List (String × Json))
  | .array items => if items.length ≤ keys.length then some (keys.zip items) else none
  | j => objectFields? keys j

/-- A field that has to be there. -/
def required? {α : Type} (fields : List (String × Json)) (key : String)
    (decoder : Json → Option α) : Option α :=
  (fields.lookup key).bind decoder

/-- A field that may be missing. -/
def optional? {α : Type} (fields : List (String × Json)) (key : String)
    (decoder : Json → Option α) (missing : α) : Option α :=
  match fields.lookup key with
  | none => some missing
  | some j => decoder j

/-! ## Alternatives -/

/-- The only member of an object, if its key denotes a text. -/
def loneMember? : Json → Option (String × Json)
  | .object [(some k, j)] => some (k, j)
  | _ => none

/-- The name of an alternative without contents: the name itself, or an object whose only key it is,
with `null` under it.  In a held value an empty object may stand there instead. -/
def nameIn? (held : Bool) : Decoder String
  | _, .string s => s
  | 0, _ => none
  | _ + 1, j =>
    match loneMember? j with
    | some (k, .null) => some k
    | some (k, .object []) => if held then some k else none
    | _ => none

/-- The name of an alternative without contents that is read where it stands. -/
def name? : Decoder String :=
  nameIn? false

/-- The name in front of a content in an array.  In a held value it may be given by its place among
the names of all alternatives, counted from zero. -/
def listedName? (held : Bool) (names : List String) : Json → Option String
  | .string s => s
  | .number n => do
    let i ← n.integer?
    if held ∧ 0 ≤ i then names[i.toNat]? else none
  | _ => none

/-- Whether one key stands in front of another among the members of an object. -/
def standsBefore (first second : String) (members : List (Option String × Json)) : Bool :=
  match members.find? fun m ↦ m.1 = some first ∨ m.1 = some second with
  | some m => m.1 = some first
  | none => false

/-- An alternative as it was found: its name, its content, if it has one, and whether the content is
held. -/
structure Tagged where
  name : String
  content : Option Json
  held : Bool

/-- One of some alternatives, given the room inside.  A content that stands in front of the tag is
held, and so is everything inside a held value; it has to be plain. -/
def tagged? (held : Bool) (tagKey contentKey : String) (names : List String) : Decoder Tagged
  | _, .array [tag, content] => do
    some { name := ← listedName? held names tag, content := some content, held }
  | room, .object members => do
    let known ← knownMembers? [tagKey, contentKey] members
    let name ← required? known tagKey (nameIn? held room)
    let content := known.lookup contentKey
    if standsBefore contentKey tagKey members then
      if content.all (isPlain room) then some { name, content, held := true } else none
    else some { name, content, held }
  | _, _ => none

/-- The content of an alternative that has none: missing or `null`. -/
def noContent? : Option Json → Option Unit
  | none => some ()
  | some .null => some ()
  | some _ => none

end Json

end Sequitur
