import Sequitur.Exercise.Basic
import Sequitur.Tree.Json

/-!
# Exercises, votes and hints in JSON
-/

set_option autoImplicit false

namespace Sequitur

namespace Exercise

/-- The JSON form of an exercise. -/
def toJson (e : Exercise) : Json :=
  .record [("id", e.id.toJson), ("exercise", e.sequent.toJson), ("likes", .int e.likes.toInt),
    ("dislikes", .int e.dislikes.toInt), ("difficulty", .ofDouble e.difficulty),
    ("hint", .bool e.hint)]

/-- An exercise from its JSON form. -/
def decode? : Decoder Exercise :=
  Json.enter fun room j ↦ do
    let fields ← Json.fields? ["id", "exercise", "likes", "dislikes", "difficulty", "hint"] j
    some {
      id := ← Json.required? fields "id" (Json.uuid? room)
      sequent := ← Json.required? fields "exercise" (Sequent.decode? room)
      likes := ← Json.required? fields "likes" (Json.int32? room)
      dislikes := ← Json.required? fields "dislikes" (Json.int32? room)
      difficulty := ← Json.required? fields "difficulty" (Json.double? room)
      hint := ← Json.optional? fields "hint" (Json.bool? room) false }

end Exercise

namespace Feedback

/-- The JSON form of a vote, without a difficulty that was not given. -/
def toJson (f : Feedback) : Json :=
  .record ([("like", .bool f.like)] ++
    match f.difficulty with
    | none => []
    | some d => [("difficulty", .nat d.toNat)])

/-- A vote from its JSON form. -/
def decode? : Decoder Feedback :=
  Json.enter fun room j ↦ do
    let fields ← Json.fields? ["like", "difficulty"] j
    some {
      like := ← Json.required? fields "like" (Json.bool? room)
      difficulty := ← Json.optional? fields "difficulty" (Json.nullable? Json.uint32? room) none }

end Feedback

namespace Hint

/-- The JSON form of a hint. -/
def toJson (h : Hint) : Json :=
  .record [("rule", h.rule.toJson), ("premisses", .list Sequent.toJson h.premises)]

/-- A hint from its JSON form. -/
def decode? : Decoder Hint :=
  Json.enter fun room j ↦ do
    let fields ← Json.fields? ["rule", "premisses"] j
    some {
      rule := ← Json.required? fields "rule" (Rule.decode? room)
      premises := ← Json.required? fields "premisses" (Json.list? Sequent.decode? room) }

end Hint

namespace NewExercise

/-- The JSON form of a submitted exercise. -/
def toJson (e : NewExercise) : Json :=
  .record [("lhs", .list Formula.toJson e.hypotheses), ("rhs", e.goal.toJson)]

/-- A submitted exercise from its JSON form. -/
def decode? : Decoder NewExercise :=
  Json.enter fun room j ↦ do
    let fields ← Json.fields? ["lhs", "rhs"] j
    some {
      hypotheses := ← Json.required? fields "lhs" (Json.list? Formula.decode? room)
      goal := ← Json.required? fields "rhs" (Formula.decode? room) }

end NewExercise

end Sequitur
