import Sequitur.Rule.Bindings
import Sequitur.Sequent.Json

/-!
# Rules, schemas and applications in JSON

A rule is its name.  Placeholders and patterns are written as names and formulas are, by a `type`
and a `value` or `body`.  In a schema a missing hypothesis is written `null`.
-/

set_option autoImplicit false

namespace Sequitur

namespace Rule

/-- The JSON form of a rule. -/
def toJson (r : Rule) : Json :=
  .text r.name

/-- A rule from its JSON form. -/
def decode? : Decoder Rule := fun room j ↦
  (Json.name? room j).bind ofExactName?

end Rule

/-! ## Schemas -/

namespace Placeholder

/-- The JSON form of a placeholder. -/
def toJson : Placeholder → Json
  | formula n => .record [("type", .text "Formula"), ("value", .nat n.toNat)]
  | element x => .record [("type", .text "Element"), ("value", .text x)]

/-- The names of the kinds, in their order. -/
def kindNames : List String :=
  ["Formula", "Element"]

/-- A placeholder from its JSON form, which may be part of a held value. -/
def decodeIn? (held : Bool) : Decoder Placeholder :=
  Json.enter fun room j ↦ do
    let found ← Json.tagged? held "type" "value" kindNames room j
    match found.name with
    | "Formula" => do some (formula (← found.content.bind (Json.uint32? room)))
    | "Element" => do some (element (← found.content.bind (Json.text? room)))
    | _ => none

/-- A placeholder from its JSON form. -/
def decode? : Decoder Placeholder :=
  decodeIn? false

end Placeholder

namespace Pattern

/-- The JSON form of a pattern. -/
def toJson : Pattern → Json
  | atom p => Formula.taggedJson "Ident" p.toJson
  | and p q => Formula.taggedJson "And" (.record [("lhs", p.toJson), ("rhs", q.toJson)])
  | or p q => Formula.taggedJson "Or" (.record [("lhs", p.toJson), ("rhs", q.toJson)])
  | not p => Formula.taggedJson "Not" p.toJson
  | imp p q => Formula.taggedJson "Imp" (.record [("lhs", p.toJson), ("rhs", q.toJson)])
  | falsum => .record [("type", .text "False")]
  | verum => .record [("type", .text "True")]
  | all x a =>
    Formula.taggedJson "Forall" (.record [("identifier", x.toJson), ("formula", a.toJson)])
  | ex x a =>
    Formula.taggedJson "Exists" (.record [("identifier", x.toJson), ("formula", a.toJson)])
  | substitution f x y =>
    Formula.taggedJson "Substitution"
      (.record [("identifier", f.toJson), ("lhs", x.toJson), ("rhs", y.toJson)])

/-- The three placeholders of a substitution. -/
def decodeSubstitution? (part : Json → Option Placeholder) (j : Json) : Option Pattern := do
  let fields ← Json.objectFields? ["identifier", "lhs", "rhs"] j
  some (substitution (← Json.required? fields "identifier" part)
    (← Json.required? fields "lhs" part) (← Json.required? fields "rhs" part))

/-- The names of the shapes, in their order. -/
def shapeNames : List String :=
  ["Ident", "And", "Or", "Not", "Imp", "False", "True", "Forall", "Exists", "Substitution"]

/-- A pattern from its JSON form, which may be part of a held value, by recursion on the room. -/
def decodeIn? (held : Bool) : Decoder Pattern
  | 0, _ => none
  | room + 1, j => do
    let found ← Json.tagged? held "type" "body" shapeNames room j
    let content := found.content
    let part : Json → Option Pattern :=
      match room with
      | 0 => fun _ ↦ none
      | below + 1 => decodeIn? found.held below
    let side : Json → Option Placeholder := Json.enter (Placeholder.decodeIn? found.held) room
    match found.name with
    | "Ident" => do some (atom (← content.bind (Placeholder.decodeIn? found.held room)))
    | "And" => do
      let (p, q) ← content.bind (Formula.decodeSides? side)
      some (and p q)
    | "Or" => do
      let (p, q) ← content.bind (Formula.decodeSides? side)
      some (or p q)
    | "Not" => do some (not (← content.bind (Placeholder.decodeIn? found.held room)))
    | "Imp" => do
      let (p, q) ← content.bind (Formula.decodeSides? side)
      some (imp p q)
    | "False" => do
      Json.noContent? content
      some falsum
    | "True" => do
      Json.noContent? content
      some verum
    | "Forall" => do
      let (x, a) ← content.bind (Formula.decodeQuantified? side part)
      some (all x a)
    | "Exists" => do
      let (x, a) ← content.bind (Formula.decodeQuantified? side part)
      some (ex x a)
    | "Substitution" => content.bind (decodeSubstitution? side)
    | _ => none

/-- A pattern from its JSON form. -/
def decode? : Decoder Pattern :=
  decodeIn? false

end Pattern

namespace SequentPattern

/-- The JSON form of a line of a schema. -/
def toJson (s : SequentPattern) : Json :=
  .record [("lhs", .orNull (s.hypothesis.map Placeholder.toJson)), ("formula", s.pattern.toJson)]

/-- A line of a schema from its JSON form. -/
def decode? : Decoder SequentPattern :=
  Json.enter fun room j ↦ do
    let fields ← Json.fields? ["lhs", "formula"] j
    some {
      hypothesis := ← Json.optional? fields "lhs" (Json.nullable? Placeholder.decode? room) none
      pattern := ← Json.required? fields "formula" (Pattern.decode? room) }

end SequentPattern

namespace Schema

/-- The JSON form of a schema. -/
def toJson (s : Schema) : Json :=
  .record [("name", s.rule.toJson), ("premises", .list SequentPattern.toJson s.premises),
    ("conclusion", s.conclusion.toJson)]

/-- A schema from its JSON form. -/
def decode? : Decoder Schema :=
  Json.enter fun room j ↦ do
    let fields ← Json.fields? ["name", "premises", "conclusion"] j
    some {
      rule := ← Json.required? fields "name" (Rule.decode? room)
      premises := ← Json.required? fields "premises" (Json.list? SequentPattern.decode? room)
      conclusion := ← Json.required? fields "conclusion" (SequentPattern.decode? room) }

end Schema

/-! ## Applications -/

namespace FormulaBinding

/-- The JSON form of a bound formula. -/
def toJson (b : FormulaBinding) : Json :=
  .record [("from", .nat b.placeholder.toNat), ("to", b.formula.toJson)]

/-- A bound formula from its JSON form. -/
def decode? : Decoder FormulaBinding :=
  Json.enter fun room j ↦ do
    let fields ← Json.fields? ["from", "to"] j
    some {
      placeholder := ← Json.required? fields "from" (Json.uint32? room)
      formula := ← Json.required? fields "to" (Formula.decode? room) }

end FormulaBinding

namespace ElementBinding

/-- The JSON form of a bound name. -/
def toJson (b : ElementBinding) : Json :=
  .record [("from", .text b.placeholder), ("to", .text b.name)]

/-- A bound name from its JSON form. -/
def decode? : Decoder ElementBinding :=
  Json.enter fun room j ↦ do
    let fields ← Json.fields? ["from", "to"] j
    some {
      placeholder := ← Json.required? fields "from" (Json.text? room)
      name := ← Json.required? fields "to" (Json.text? room) }

end ElementBinding

namespace Application

/-- The JSON form of an application. -/
def toJson (a : Application) : Json :=
  .record [("rule", a.rule.toJson), ("statement", a.sequent.toJson),
    ("mapping", .list FormulaBinding.toJson a.formulas),
    ("substitution", .list ElementBinding.toJson a.elements)]

/-- An application from its JSON form. -/
def decode? : Decoder Application :=
  Json.enter fun room j ↦ do
    let fields ← Json.fields? ["rule", "statement", "mapping", "substitution"] j
    some {
      rule := ← Json.required? fields "rule" (Rule.decode? room)
      sequent := ← Json.required? fields "statement" (Sequent.decode? room)
      formulas := ← Json.required? fields "mapping" (Json.list? FormulaBinding.decode? room)
      elements := ← Json.required? fields "substitution" (Json.list? ElementBinding.decode? room) }

end Application

end Sequitur
