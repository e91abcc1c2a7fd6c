import Sequitur.Rule.Bindings
import Sequitur.Sequent.Basic

/-!
# What could be bound

For a rule and a sequent to apply it to: the placeholders that still need a binding, and what the
sequent offers for them.  Formulas on offer are the hypotheses, the goal and the literals that occur
as atoms or quantified variables; variables on offer are the elements that occur so.

## What is here

* `Candidates`, with `Candidates.of` and `Candidates.text`.
-/

set_option autoImplicit false

namespace Sequitur

/-- The placeholders of a rule that need a binding, with the formulas and variables on offer. -/
structure Candidates where
  rule : Rule
  slots : List Placeholder
  formulas : List Formula
  elements : List Identifier
  deriving DecidableEq

namespace Candidates

/-- What a sequent offers for the placeholders that remain to be bound. -/
def of (b : Bindings) (s : Sequent) : Candidates where
  rule := b.rule
  slots := b.remaining
  formulas := distinct (s.hypotheses ++ [s.goal] ++
    (s.placeholders.filter fun x ↦ !x.isElement).map .atom)
  elements := s.placeholders.filter Identifier.isElement

/-- The placeholders that need a binding, separated by commas. -/
def slotsText (c : Candidates) : String :=
  ", ".intercalate (c.slots.map Placeholder.display)

/-- Texts separated by semicolons, or that there are none. -/
def offered (texts : List String) : String :=
  if texts.isEmpty then "(none)" else " ; ".intercalate texts

/-- The candidates in three lines. -/
def text (c : Candidates) : String :=
  c.rule.name ++ " needs: " ++ (if c.slots.isEmpty then "nothing" else c.slotsText) ++
    "\n  formulas: " ++ offered (c.formulas.map Formula.display) ++
    "\n  elements: " ++ offered (c.elements.map Identifier.name) ++ "\n"

end Candidates

end Sequitur
