import Sequitur.Exercise.Basic
import Sequitur.Tree.Json

/-!
# Progress

What is remembered about one user: which exercises have been rated, marked and completed, and
whether the welcome text has been put away.

## What is here

* `Progress`, with its JSON form.
* `Progress.addFavorite` and its companions: the changes, each saying nothing when it would change
  nothing.
-/

set_option autoImplicit false

namespace Sequitur

/-- What is remembered about one user. -/
structure Progress where
  feedback : List ExerciseId := []
  favorites : List ExerciseId := []
  completed : List ExerciseId := []
  welcomeCollapsed : Bool := false
  deriving DecidableEq, Inhabited

namespace Progress

/-! ## JSON -/

/-- The JSON form of progress. -/
def toJson (p : Progress) : Json :=
  .record [("feedback_items", .list Uuid.toJson p.feedback),
    ("favorite_items", .list Uuid.toJson p.favorites),
    ("completed", .list Uuid.toJson p.completed),
    ("welcome_collapsed", .bool p.welcomeCollapsed)]

/-- Progress from its JSON form; whatever is missing is empty. -/
def decode? : Decoder Progress :=
  Json.enter fun room j ↦ do
    let fields ← Json.fields?
      ["feedback_items", "favorite_items", "completed", "welcome_collapsed"] j
    some {
      feedback := ← Json.optional? fields "feedback_items" (Json.list? Json.uuid? room) []
      favorites := ← Json.optional? fields "favorite_items" (Json.list? Json.uuid? room) []
      completed := ← Json.optional? fields "completed" (Json.list? Json.uuid? room) []
      welcomeCollapsed := ← Json.optional? fields "welcome_collapsed" (Json.bool? room) false }

/-! ## Changes -/

/-- A list with an id at its end, unless the id is in it. -/
def insertUnique? (ids : List ExerciseId) (id : ExerciseId) : Option (List ExerciseId) :=
  if id ∈ ids then none else some (ids ++ [id])

/-- A list without an id, unless the id is not in it. -/
def erase? (ids : List ExerciseId) (id : ExerciseId) : Option (List ExerciseId) :=
  if id ∈ ids then some (ids.filter (· ≠ id)) else none

/-- An exercise marked as a favourite. -/
def addFavorite? (id : ExerciseId) (p : Progress) : Option Progress :=
  (insertUnique? p.favorites id).map fun ids ↦ { p with favorites := ids }

/-- An exercise no longer marked as a favourite. -/
def removeFavorite? (id : ExerciseId) (p : Progress) : Option Progress :=
  (erase? p.favorites id).map fun ids ↦ { p with favorites := ids }

/-- The mark of a favourite set or taken away, and whether it is set now. -/
def toggleFavorite (id : ExerciseId) (p : Progress) : Progress × Bool :=
  if id ∈ p.favorites then
    ({ p with favorites := p.favorites.filter (· ≠ id) }, false)
  else
    ({ p with favorites := p.favorites ++ [id] }, true)

/-- An exercise recorded as rated. -/
def addFeedback? (id : ExerciseId) (p : Progress) : Option Progress :=
  (insertUnique? p.feedback id).map fun ids ↦ { p with feedback := ids }

/-- An exercise recorded as completed. -/
def addCompleted? (id : ExerciseId) (p : Progress) : Option Progress :=
  (insertUnique? p.completed id).map fun ids ↦ { p with completed := ids }

/-- The welcome text put away or brought back. -/
def setWelcomeCollapsed? (collapsed : Bool) (p : Progress) : Option Progress :=
  if p.welcomeCollapsed = collapsed then none else some { p with welcomeCollapsed := collapsed }

end Progress

end Sequitur
