import Sequitur.Formula.Display
import Sequitur.Formula.Placeholders

/-!
# Sequents

What is to be proved at a node of a proof: a goal under a list of hypotheses.  Some rules attach
freshness conditions, which are shown but never checked here.

## What is here

* `Freshness` — the condition that a variable is not free in a formula.
* `Sequent`, with `Sequent.display`, `Sequent.typstHypotheses` and `Sequent.placeholders`.
-/

set_option autoImplicit false

namespace Sequitur

/-- The condition that `element` does not occur free in what is bound to `placeholder`. -/
structure Freshness where
  element : Identifier
  placeholder : Identifier
  deriving DecidableEq, Inhabited

namespace Freshness

/-- The condition in words. -/
def display (c : Freshness) : String :=
  c.element.name ++ " is not free in " ++ c.placeholder.name

/-- The condition as Typst source. -/
def typst (c : Freshness) : String :=
  c.element.name ++ " \"not occuring freely in\" " ++ c.placeholder.name

end Freshness

/-- A goal under hypotheses.  An absent list of conditions and an empty one are told apart, since
they are stored differently. -/
structure Sequent where
  hypotheses : List Formula
  goal : Formula
  conditions : Option (List Freshness) := none
  deriving DecidableEq, Inhabited

namespace Sequent

/-- The freshness conditions, none when the list is absent. -/
def freshness (s : Sequent) : List Freshness :=
  s.conditions.getD []

/-- The sequent in logical symbols: the hypotheses, a turnstile and the goal. -/
def display (s : Sequent) : String :=
  match s.hypotheses with
  | [] => "⊢ " ++ s.goal.display
  | hs => ", ".intercalate (hs.map Formula.display) ++ " ⊢ " ++ s.goal.display

/-- The hypotheses as Typst source. -/
def typstHypotheses (s : Sequent) : String :=
  match s.hypotheses with
  | [] => "emptyset"
  | hs => ", ".intercalate (hs.map Formula.typst)

/-- The names on offer in the goal and the hypotheses, sorted and each once. -/
def placeholders (s : Sequent) : List Identifier :=
  Identifier.sorted (s.goal.offered ++ s.hypotheses.flatMap Formula.offered)

end Sequent

end Sequitur
