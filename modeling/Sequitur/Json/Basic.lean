/-!
# JSON values

A JSON text as a value, detailed enough to tell apart all that a reader of it may have to tell
apart.  Members of an object keep their order and may repeat a key.  A number keeps its digits, so
that `1`, `1.0` and `1e0` differ.  A string literal can be spelled so that it denotes no text, by an
escaped surrogate without its partner; such a literal is kept as `none`, since it is harmless where
nobody reads it.

## What is here

* `Json.Numeral`, `Json`.
* `Json.text`, `Json.nat`, `Json.record` — the values that the program writes.
-/

set_option autoImplicit false

namespace Sequitur

/-- A number as it is spelled: sign, digits before the point, digits after it (none when there is no
point), and the exponent with its sign. -/
structure Json.Numeral where
  negative : Bool := false
  whole : List Char
  fraction : List Char := []
  exponent : Option (Bool × List Char) := none
  deriving DecidableEq, Inhabited

/-- A JSON value.  A string literal or a key that denotes no text is `none`. -/
inductive Json where
  | null
  | bool (value : Bool)
  | number (numeral : Json.Numeral)
  | string (content : Option String)
  | array (items : List Json)
  | object (members : List (Option String × Json))
  deriving Inhabited

namespace Json

/-- A string. -/
def text (s : String) : Json :=
  .string (some s)

/-- A natural number. -/
def nat (n : Nat) : Json :=
  .number { whole := (toString n).toList }

/-- An integer. -/
def int (n : Int) : Json :=
  .number { negative := n < 0, whole := (toString n.natAbs).toList }

/-- An object with the given members. -/
def record (members : List (String × Json)) : Json :=
  .object (members.map fun m ↦ (some m.1, m.2))

/-- A value, or `null`. -/
def orNull : Option Json → Json
  | some j => j
  | none => .null

/-- An array of encoded values. -/
def list {α : Type} (encode : α → Json) (xs : List α) : Json :=
  .array (xs.map encode)

end Json

end Sequitur
