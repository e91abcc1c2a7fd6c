import Sequitur.Formula.Json
import Sequitur.Sequent.Basic

/-!
# Sequents in JSON

A sequent has the fields `lhs`, `formula` and `sidecondition`; the last is left out when the list of
conditions is absent.  A freshness condition is an object whose only key names its kind.
-/

set_option autoImplicit false

namespace Sequitur

namespace Freshness

/-- The JSON form of a condition. -/
def toJson (c : Freshness) : Json :=
  .record [("NotFree",
    .record [("element", c.element.toJson), ("placeholder", c.placeholder.toJson)])]

/-- The two names of a condition. -/
def decodeNames? : Decoder Freshness :=
  Json.enter fun room j ↦ do
    let fields ← Json.fields? ["element", "placeholder"] j
    some {
      element := ← Json.required? fields "element" (Identifier.decode? room)
      placeholder := ← Json.required? fields "placeholder" (Identifier.decode? room) }

/-- A condition from its JSON form. -/
def decode? : Decoder Freshness :=
  Json.enter fun room j ↦
    match Json.loneMember? j with
    | some ("NotFree", names) => decodeNames? room names
    | _ => none

end Freshness

namespace Sequent

/-- The JSON form of a sequent. -/
def toJson (s : Sequent) : Json :=
  .record ([("lhs", .list Formula.toJson s.hypotheses), ("formula", s.goal.toJson)] ++
    match s.conditions with
    | none => []
    | some cs => [("sidecondition", .list Freshness.toJson cs)])

/-- A sequent from its JSON form. -/
def decode? : Decoder Sequent :=
  Json.enter fun room j ↦ do
    let fields ← Json.fields? ["lhs", "formula", "sidecondition"] j
    some {
      hypotheses := ← Json.required? fields "lhs" (Json.list? Formula.decode? room)
      goal := ← Json.required? fields "formula" (Formula.decode? room)
      conditions := ← Json.optional? fields "sidecondition"
        (Json.nullable? (Json.list? Freshness.decode?) room) none }

end Sequent

end Sequitur
