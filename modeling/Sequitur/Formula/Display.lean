import Sequitur.Formula.Basic

/-!
# How formulas are shown

Two written forms.  `Formula.display` is for people: every compound is put in parentheses, so the
text has one reading as long as the names in it do.  `Formula.typst` is for typesetting: the words
of Typst's mathematics, without any parentheses.
-/

set_option autoImplicit false

namespace Sequitur

namespace Identifier

/-- The names of a list, separated by commas. -/
def commaSeparated (names : List Identifier) : String :=
  ", ".intercalate (names.map name)

end Identifier

namespace Formula

/-- A formula in logical symbols, every compound in parentheses. -/
def display : Formula → String
  | and a b => "(" ++ a.display ++ " ∧ " ++ b.display ++ ")"
  | or a b => "(" ++ a.display ++ " ∨ " ++ b.display ++ ")"
  | not a => "(¬" ++ a.display ++ ")"
  | atom x => x.name
  | imp a b => "(" ++ a.display ++ " → " ++ b.display ++ ")"
  | verum => "⊤"
  | falsum => "⊥"
  | all x a => "(∀" ++ x.name ++ ". " ++ a.display ++ ")"
  | ex x a => "(∃" ++ x.name ++ ". " ++ a.display ++ ")"
  | predicate p xs => p.name ++ "(" ++ Identifier.commaSeparated xs ++ ")"

/-- A formula in the words of Typst's mathematics. -/
def typst : Formula → String
  | and a b => a.typst ++ " and " ++ b.typst
  | or a b => a.typst ++ " or " ++ b.typst
  | not a => "not " ++ a.typst
  | atom x => x.name
  | imp a b => a.typst ++ " arrow.r " ++ b.typst
  | verum => "top"
  | falsum => "bot"
  | all x a => "forall " ++ x.name ++ ". " ++ a.typst
  | ex x a => "exists " ++ x.name ++ ". " ++ a.typst
  | predicate p xs => p.name ++ "(" ++ Identifier.commaSeparated xs ++ ")"

end Formula

end Sequitur
