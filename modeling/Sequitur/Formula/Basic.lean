/-!
# Formulas

The formulas of first-order natural deduction as the program sees them: it shows them, compares
them, looks for names in them and passes them on, but never parses or evaluates one.

A name is an `Identifier`, and there are two kinds.  A *literal* is a letter of the proof level,
such as a propositional variable; an *element* is a variable or constant of the object level.  The
two kinds are kept apart even where they are spelled alike.

## What is here

* `Identifier`, `Formula`.
* `Formula.boundIdentifier?` — the variable of an outermost quantifier.
-/

set_option autoImplicit false

namespace Sequitur

/-- A name that occurs in a formula. -/
inductive Identifier where
  | literal (name : String)
  | element (name : String)
  deriving DecidableEq, Inhabited

namespace Identifier

/-- The spelling of a name, whatever its kind. -/
def name : Identifier → String
  | literal n => n
  | element n => n

/-- Whether a name belongs to the object level. -/
def isElement : Identifier → Bool
  | literal _ => false
  | element _ => true

end Identifier

/-- A first-order formula.  The constructors stand in the order in which formulas of different
shapes are sorted. -/
inductive Formula where
  | and (lhs rhs : Formula)
  | or (lhs rhs : Formula)
  | not (body : Formula)
  | atom (name : Identifier)
  | imp (lhs rhs : Formula)
  | verum
  | falsum
  | all (bound : Identifier) (body : Formula)
  | ex (bound : Identifier) (body : Formula)
  | predicate (name : Identifier) (arguments : List Identifier)
  deriving DecidableEq, Inhabited

namespace Formula

/-- The variable that a quantified formula binds at its top. -/
def boundIdentifier? : Formula → Option Identifier
  | all x _ => some x
  | ex x _ => some x
  | _ => none

/-- The variable of a formula that is an existential at its top. -/
def existentialVariable? : Formula → Option Identifier
  | ex x _ => some x
  | _ => none

end Formula

end Sequitur
