import Sequitur.Rule.Basic
import Sequitur.Sequent.Basic
import Sequitur.Text.Replace
import Sequitur.Uuid

/-!
# Exercises

A sequent to be proved, with what its users think of it: how many like and dislike it, and how
difficult they find it.

## What is here

* `Exercise`, with `Exercise.likeRatio?` and `Exercise.line`.
* `Difficulty` — four grades, with `Difficulty.ofNumber`.
* `Feedback`, `Hint`, `NewExercise`.
-/

set_option autoImplicit false

namespace Sequitur

/-- Exercises are named by UUIDs. -/
abbrev ExerciseId := Uuid

/-! ## Difficulty -/

/-- How difficult an exercise is, in four grades. -/
inductive Difficulty where
  | easy
  | intermediate
  | hard
  | insane
  deriving DecidableEq, Inhabited

namespace Difficulty

/-- All grades, from the easiest on. -/
def all : List Difficulty :=
  [easy, intermediate, hard, insane]

/-- The grade of a number; what compares with nothing is in the last one. -/
def ofNumber (x : Float) : Difficulty :=
  if x ≤ 4 then easy else if x ≤ 7 then intermediate else if x ≤ 9 then hard else insane

/-- The name of a grade. -/
def name : Difficulty → String
  | easy => "Easy"
  | intermediate => "Intermediate"
  | hard => "Hard"
  | insane => "Insane"

end Difficulty

/-! ## Exercises -/

/-- An exercise with its votes. -/
structure Exercise where
  id : ExerciseId
  sequent : Sequent
  likes : Int32
  dislikes : Int32
  difficulty : Float
  hint : Bool := false

namespace Exercise

/-- The share of likes among all votes, when there are any. -/
def likeRatio? (e : Exercise) : Option Float :=
  let votes := e.likes + e.dislikes
  if votes ≤ 0 then none else some (.ofInt e.likes.toInt / .ofInt votes.toInt)

/-- The grade of an exercise. -/
def grade (e : Exercise) : Difficulty :=
  .ofNumber e.difficulty

/-- An exercise in a list: whether it is a favourite and whether it is done, its id, grade, votes
and sequent. -/
def line (e : Exercise) (favorite completed : Bool) : String :=
  (if favorite then "*" else " ") ++ " " ++ (if completed then "done" else "    ") ++ " " ++
    toString e.id ++ "  " ++ Text.padRight 12 e.grade.name ++
    " +" ++ Text.padRight 3 (toString e.likes.toInt) ++
    " -" ++ Text.padRight 3 (toString e.dislikes.toInt) ++ " " ++ e.sequent.display

end Exercise

/-! ## What is sent and received with exercises -/

/-- A vote on an exercise. -/
structure Feedback where
  like : Bool
  difficulty : Option UInt32 := none
  deriving DecidableEq

/-- A rule that applies to a sequent, with the premises it leaves. -/
structure Hint where
  rule : Rule
  premises : List Sequent
  deriving DecidableEq

/-- A hint in words. -/
def Hint.line (h : Hint) : String :=
  match h.premises with
  | [] => h.rule.name ++ " closes the goal"
  | ps => h.rule.name ++ " leaves " ++ " ; ".intercalate (ps.map Sequent.display)

/-- An exercise that is submitted. -/
structure NewExercise where
  hypotheses : List Formula
  goal : Formula
  deriving DecidableEq

end Sequitur
