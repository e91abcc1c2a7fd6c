import Sequitur.Exercise.Basic

/-!
# Views of the exercise list

The list of exercises sorted by popularity, grouped by difficulty, or cut down to the favourites or
to what is not done yet.  Sorting is stable: exercises that compare equal stay in the order in which
they came.

## What is here

* `ListMode`, with `ListMode.ofName?`.
* `Catalog.byLikes`, `Catalog.byDifficulty`, `Catalog.favorites`, `Catalog.incomplete`.
-/

set_option autoImplicit false

namespace Sequitur

/-! ## List modes -/

/-- A view of the exercise list. -/
inductive ListMode where
  | all
  | likes
  | difficulty
  | favorites
  | incomplete
  deriving DecidableEq, Inhabited

namespace ListMode

/-- The view of a name, in any case of the ASCII letters. -/
def ofName? (s : String) : Option ListMode :=
  match s.toLower with
  | "all" => some all
  | "default" => some all
  | "likes" => some likes
  | "difficulty" => some difficulty
  | "favorites" => some favorites
  | "favourites" => some favorites
  | "incomplete" => some incomplete
  | _ => none

/-- What is said about a name that no view has. -/
def unknownMessage (s : String) : String :=
  "unknown list mode `" ++ s ++
    "` (expected all, likes, difficulty, favorites or incomplete)"

end ListMode

namespace Catalog

/-! ## Sorting -/

/-- Higher like ratio first, and exercises without votes last. -/
def compareLikes (a b : Exercise) : Ordering :=
  match a.likeRatio?, b.likeRatio? with
  | some x, some y => if y < x then .lt else if x < y then .gt else .eq
  | some _, none => .lt
  | none, some _ => .gt
  | none, none => .eq

/-- The exercises sorted by popularity. -/
def byLikes (exercises : List Exercise) : List Exercise :=
  exercises.mergeSort fun a b ↦ compareLikes a b != .gt

/-- The exercises of each grade, sorted by popularity; a grade without exercises is kept. -/
def byDifficulty (exercises : List Exercise) : List (Difficulty × List Exercise) :=
  Difficulty.all.map fun d ↦ (d, byLikes (exercises.filter fun e ↦ e.grade = d))

/-! ## Filtering -/

/-- The exercises whose ids are among the favourites. -/
def favorites (exercises : List Exercise) (ids : List ExerciseId) : List Exercise :=
  exercises.filter fun e ↦ e.id ∈ ids

/-- The exercises whose ids are not among the completed ones. -/
def incomplete (exercises : List Exercise) (ids : List ExerciseId) : List Exercise :=
  exercises.filter fun e ↦ e.id ∉ ids

end Catalog

end Sequitur
