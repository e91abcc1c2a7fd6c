import Sequitur.Exercise.Basic
import Sequitur.Rule.Bindings
import Sequitur.Tree.Pending
import Sequitur.Tree.Snapshot

/-!
# What the backend is asked

The backend knows the logic: it parses formulas, applies rules, judges whether a sequent can still
be proved, and keeps the exercises.  A `Call` is one question to it.

## What is here

* `Call`, with the type `Call.Result` of its answer.
* `BackendError`, with `BackendError.message` and, for the application of a rule,
  `BackendError.toApplyError`.
-/

set_option autoImplicit false

namespace Sequitur

/-! ## Calls -/

/-- A question to the backend. -/
inductive Call where
  | parse (text : String)
  | check (sequent : Sequent)
  | apply (application : Application)
  | rules
  | exercises
  | exercise (id : ExerciseId)
  | create (exercise : NewExercise)
  | rate (id : ExerciseId) (feedback : Feedback)
  | report (tree : TreeReport)
  | hint (sequent : Sequent)

/-- What the backend answers to a call when all goes well. -/
def Call.Result : Call → Type
  | parse _ => Formula
  | check _ => Bool
  | apply _ => List Sequent
  | rules => List Schema
  | exercises => List Exercise
  | exercise _ => Sequent
  | create _ => Bool
  | rate _ _ => Unit
  | report _ => Unit
  | hint _ => List Hint

/-! ## Errors -/

/-- Why a call came to nothing.  A refusal carries the text that the backend sent, which is meant
for the user. -/
inductive BackendError where
  | network (reason : String)
  | rateLimited
  | refused (status : Nat) (text : String)
  | invalidResponse (reason : String)
  | invalidEndpoint (path : String)
  deriving DecidableEq

namespace BackendError

/-- The error in words. -/
def message : BackendError → String
  | network reason => "network error: " ++ reason
  | rateLimited => "backend is rate limiting requests"
  | refused _ text => text
  | invalidResponse reason => "invalid response: " ++ reason
  | invalidEndpoint path => "invalid endpoint `" ++ path ++ "`"

/-- What a failed call means for the application of a rule: a refusal is the answer of the logic,
everything else is a failure on the way. -/
def toApplyError : BackendError → ApplyError
  | refused _ text => .rejected text
  | e => .transport e.message

end BackendError

end Sequitur
