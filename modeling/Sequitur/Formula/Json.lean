import Sequitur.Formula.Basic
import Sequitur.Json.Decoder

/-!
# Formulas in JSON

A name is an object of a `type`, its kind, and a `value`, its spelling.  A formula is an object of a
`type`, its shape, and a `body`: the parts of a compound by their names, the one part of a negation
or an atom without a name, and no body at all for the two constants.
-/

set_option autoImplicit false

namespace Sequitur

namespace Identifier

/-- The JSON form of a name. -/
def toJson : Identifier → Json
  | literal n => .record [("type", .text "Literal"), ("value", .text n)]
  | element n => .record [("type", .text "Element"), ("value", .text n)]

/-- The names of the kinds, in their order. -/
def kindNames : List String :=
  ["Literal", "Element"]

/-- A name from its JSON form, which may be part of a held value. -/
def decodeIn? (held : Bool) : Decoder Identifier :=
  Json.enter fun room j ↦ do
    let found ← Json.tagged? held "type" "value" kindNames room j
    match found.name with
    | "Literal" => do some (literal (← found.content.bind (Json.text? room)))
    | "Element" => do some (element (← found.content.bind (Json.text? room)))
    | _ => none

/-- A name from its JSON form. -/
def decode? : Decoder Identifier :=
  decodeIn? false

end Identifier

namespace Formula

/-- A formula of a shape with a body. -/
def taggedJson (shape : String) (body : Json) : Json :=
  .record [("type", .text shape), ("body", body)]

/-- The JSON form of a formula. -/
def toJson : Formula → Json
  | and a b => taggedJson "And" (.record [("lhs", a.toJson), ("rhs", b.toJson)])
  | or a b => taggedJson "Or" (.record [("lhs", a.toJson), ("rhs", b.toJson)])
  | not a => taggedJson "Not" a.toJson
  | atom x => taggedJson "Ident" x.toJson
  | imp a b => taggedJson "Imp" (.record [("lhs", a.toJson), ("rhs", b.toJson)])
  | verum => .record [("type", .text "True")]
  | falsum => .record [("type", .text "False")]
  | all x a => taggedJson "Forall" (.record [("identifier", x.toJson), ("formula", a.toJson)])
  | ex x a => taggedJson "Exists" (.record [("identifier", x.toJson), ("formula", a.toJson)])
  | predicate p xs =>
    taggedJson "Predicate"
      (.record [("identifier", p.toJson), ("identifiers", .list Identifier.toJson xs)])

/-- The two sides of a binary compound. -/
def decodeSides? {α : Type} (side : Json → Option α) (j : Json) : Option (α × α) := do
  let fields ← Json.objectFields? ["lhs", "rhs"] j
  some (← Json.required? fields "lhs" side, ← Json.required? fields "rhs" side)

/-- The variable and the body of a quantified formula. -/
def decodeQuantified? {α β : Type} (bound : Json → Option α) (body : Json → Option β) (j : Json) :
    Option (α × β) := do
  let fields ← Json.objectFields? ["identifier", "formula"] j
  some (← Json.required? fields "identifier" bound, ← Json.required? fields "formula" body)

/-- The name and the arguments of a predicate. -/
def decodePredicate? (held : Bool) : Decoder (Identifier × List Identifier) :=
  Json.enter fun room j ↦ do
    let fields ← Json.objectFields? ["identifier", "identifiers"] j
    some (← Json.required? fields "identifier" (Identifier.decodeIn? held room),
      ← Json.required? fields "identifiers" (Json.list? (Identifier.decodeIn? held) room))

/-- The names of the shapes, in their order. -/
def shapeNames : List String :=
  ["And", "Or", "Not", "Ident", "Imp", "True", "False", "Forall", "Exists", "Predicate"]

/-- A formula from its JSON form, which may be part of a held value.  The recursion is on the room:
the body of a negation has one level less, and the parts that are named in a body have two. -/
def decodeIn? (held : Bool) : Decoder Formula
  | 0, _ => none
  | room + 1, j => do
    let found ← Json.tagged? held "type" "body" shapeNames room j
    let content := found.content
    let part : Json → Option Formula :=
      match room with
      | 0 => fun _ ↦ none
      | below + 1 => decodeIn? found.held below
    let bound : Json → Option Identifier := Json.enter (Identifier.decodeIn? found.held) room
    match found.name with
    | "And" => do
      let (a, b) ← content.bind (decodeSides? part)
      some (and a b)
    | "Or" => do
      let (a, b) ← content.bind (decodeSides? part)
      some (or a b)
    | "Not" => do some (not (← content.bind (decodeIn? found.held room)))
    | "Ident" => do some (atom (← content.bind (Identifier.decodeIn? found.held room)))
    | "Imp" => do
      let (a, b) ← content.bind (decodeSides? part)
      some (imp a b)
    | "True" => do
      Json.noContent? content
      some verum
    | "False" => do
      Json.noContent? content
      some falsum
    | "Forall" => do
      let (x, a) ← content.bind (decodeQuantified? bound part)
      some (all x a)
    | "Exists" => do
      let (x, a) ← content.bind (decodeQuantified? bound part)
      some (ex x a)
    | "Predicate" => do
      let (p, xs) ← content.bind (decodePredicate? found.held room)
      some (predicate p xs)
    | _ => none

/-- A formula from its JSON form. -/
def decode? : Decoder Formula :=
  decodeIn? false

end Formula

end Sequitur
