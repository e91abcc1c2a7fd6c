import Sequitur.Backend.Basic
import Sequitur.Dialogue
import Sequitur.Store.Operation

/-!
# What a session asks

All that a session needs from outside: the backend, the store, new ids, a place to write a file to,
and somebody to read what it prints.

## What is here

* `Question`, with the type `Question.Answer` of its answer.
-/

set_option autoImplicit false

namespace Sequitur

/-- A question of a session to the world around it. -/
inductive Question where
  | parse (text : String)
  | apply (application : Application)
  | check (sequent : Sequent)
  | hint (sequent : Sequent)
  | report (tree : TreeReport)
  | rate (id : ExerciseId) (feedback : Feedback)
  | store (operation : StoreOperation)
  | fresh (count : Nat)
  | write (path text : String)
  | print (text : String)

/-- The answer to a question.  New ids come as many as are asked for. -/
def Question.Answer : Question → Type
  | parse _ => Except BackendError Formula
  | apply _ => Except ApplyError (List Sequent)
  | check _ => Except BackendError Bool
  | hint _ => Except BackendError (List Hint)
  | report _ => Except BackendError Unit
  | rate _ _ => Except BackendError Unit
  | store op => Except StoreError op.Result
  | fresh n => Vector NodeId n
  | write _ _ => Except FileFault Unit
  | print _ => Unit

end Sequitur
