import Sequitur.Formula.Basic

/-!
# The order of names and formulas

Names are sorted with every literal before every element, and within a kind by the code points of
their spelling.  Formulas are sorted by shape, in the order of the constructors of `Formula`, then
by their parts from left to right; a list that is a proper beginning of another comes before it.

## What is here

* `Identifier.compare`, `Formula.compare`.
* `Identifier.insertInto` — a name put in its place in a sorted list without duplicates.
-/

set_option autoImplicit false

namespace Sequitur

namespace Identifier

/-- Literals before elements, then by code point. -/
protected def compare : Identifier → Identifier → Ordering
  | literal a, literal b => compareOfLessAndEq a b
  | literal _, element _ => .lt
  | element _, literal _ => .gt
  | element a, element b => compareOfLessAndEq a b

/-- Lists of names by their first difference. -/
def compareList : List Identifier → List Identifier → Ordering
  | [], [] => .eq
  | [], _ :: _ => .lt
  | _ :: _, [] => .gt
  | x :: xs, y :: ys => (x.compare y).then (compareList xs ys)

/-- A sorted list without duplicates, with one more name in it. -/
def insertInto (x : Identifier) : List Identifier → List Identifier
  | [] => [x]
  | y :: ys =>
    match x.compare y with
    | .lt => x :: y :: ys
    | .eq => y :: ys
    | .gt => y :: insertInto x ys

end Identifier

namespace Formula

/-- The place of a formula's shape in the order of shapes. -/
def rank : Formula → Nat
  | and _ _ => 0
  | or _ _ => 1
  | not _ => 2
  | atom _ => 3
  | imp _ _ => 4
  | verum => 5
  | falsum => 6
  | all _ _ => 7
  | ex _ _ => 8
  | predicate _ _ => 9

/-- By shape, then by the parts from left to right. -/
protected def compare : Formula → Formula → Ordering
  | and a b, and c d => (a.compare c).then (b.compare d)
  | or a b, or c d => (a.compare c).then (b.compare d)
  | not a, not b => a.compare b
  | atom x, atom y => x.compare y
  | imp a b, imp c d => (a.compare c).then (b.compare d)
  | all x a, all y b => (x.compare y).then (a.compare b)
  | ex x a, ex y b => (x.compare y).then (a.compare b)
  | predicate p xs, predicate q ys => (p.compare q).then (Identifier.compareList xs ys)
  | f, g => Ord.compare f.rank g.rank

end Formula

end Sequitur
