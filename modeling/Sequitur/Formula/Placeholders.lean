import Sequitur.Formula.Order

/-!
# The names on offer in a formula

When a rule is matched against a goal, the names that the goal offers as bindings are the ones that
occur in it as an atom or as a quantified variable.  The names of predicates and of their arguments
are not on offer.

## What is here

* `Formula.offered` — the occurrences, from left to right.
* `Formula.placeholders` — the names, sorted and each once.
-/

set_option autoImplicit false

namespace Sequitur

namespace Identifier

/-- The names of a list, sorted and each once. -/
def sorted (names : List Identifier) : List Identifier :=
  names.foldl (fun sortedNames x ↦ x.insertInto sortedNames) []

end Identifier

namespace Formula

/-- The occurrences of names as atoms and as quantified variables, from left to right. -/
def offered : Formula → List Identifier
  | and a b => a.offered ++ b.offered
  | or a b => a.offered ++ b.offered
  | not a => a.offered
  | atom x => [x]
  | imp a b => a.offered ++ b.offered
  | verum => []
  | falsum => []
  | all x a => x :: a.offered
  | ex x a => x :: a.offered
  | predicate _ _ => []

/-- The names that occur as an atom or as a quantified variable, sorted and each once. -/
def placeholders (f : Formula) : List Identifier :=
  Identifier.sorted f.offered

end Formula

end Sequitur
