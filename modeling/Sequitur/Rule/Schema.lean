import Sequitur.Distinct
import Sequitur.Rule.Basic
import Sequitur.Text.Replace

/-!
# Rule schemas

What a rule says, with placeholders for the formulas and variables that its application chooses.
The schemas come from the backend; a session reads off them which placeholders have to be bound,
and shows them.

## What is here

* `Placeholder`, `Pattern`, `SequentPattern`, `Schema`.
* `Schema.placeholders` — every placeholder once, in the order in which bindings are asked for.
* `Schema.line` — a schema as it is listed.
-/

set_option autoImplicit false

namespace Sequitur

/-! ## Placeholders -/

/-- What a schema leaves open: a formula, by number, or a variable, by name. -/
inductive Placeholder where
  | formula (index : UInt32)
  | element (name : String)
  deriving DecidableEq, Inhabited

namespace Placeholder

/-- A formula placeholder is shown as a capital letter while the alphabet lasts, a variable
placeholder by its name. -/
def display : Placeholder → String
  | formula n =>
    if n < 26 then String.ofList [Char.ofNat ('A'.toNat + n.toNat)] else "F" ++ toString n.toNat
  | element x => x

/-- Formula placeholders by number, before variable placeholders by code point. -/
protected def compare : Placeholder → Placeholder → Ordering
  | formula m, formula n => Ord.compare m.toNat n.toNat
  | formula _, element _ => .lt
  | element _, formula _ => .gt
  | element a, element b => compareOfLessAndEq a b

end Placeholder

/-! ## Patterns -/

/-- The shape of a formula in a schema.  `substitution f x y` is `f` with `y` in place of `x`. -/
inductive Pattern where
  | atom (p : Placeholder)
  | and (lhs rhs : Placeholder)
  | or (lhs rhs : Placeholder)
  | not (body : Placeholder)
  | imp (lhs rhs : Placeholder)
  | falsum
  | verum
  | all (bound : Placeholder) (body : Pattern)
  | ex (bound : Placeholder) (body : Pattern)
  | substitution (body lhs rhs : Placeholder)
  deriving DecidableEq, Inhabited

namespace Pattern

/-- A pattern in logical symbols. -/
def display : Pattern → String
  | atom p => p.display
  | and p q => "(" ++ p.display ++ " ∧ " ++ q.display ++ ")"
  | or p q => "(" ++ p.display ++ " ∨ " ++ q.display ++ ")"
  | not p => "(¬" ++ p.display ++ ")"
  | imp p q => "(" ++ p.display ++ " → " ++ q.display ++ ")"
  | falsum => "⊥"
  | verum => "⊤"
  | all x a => "(∀" ++ x.display ++ ". " ++ a.display ++ ")"
  | ex x a => "(∃" ++ x.display ++ ". " ++ a.display ++ ")"
  | substitution f x y => f.display ++ "[" ++ x.display ++ "/" ++ y.display ++ "]"

/-- The occurrences of placeholders, from left to right. -/
def occurrences : Pattern → List Placeholder
  | atom p => [p]
  | and p q => [p, q]
  | or p q => [p, q]
  | not p => [p]
  | imp p q => [p, q]
  | falsum => []
  | verum => []
  | all x a => x :: a.occurrences
  | ex x a => x :: a.occurrences
  | substitution f x y => [f, x, y]

end Pattern

/-- One line of a schema: a pattern that is to hold under the current hypotheses, to which the
formula bound to `hypothesis` may have been added. -/
structure SequentPattern where
  hypothesis : Option Placeholder := none
  pattern : Pattern
  deriving DecidableEq, Inhabited

namespace SequentPattern

/-- The line with a turnstile, the hypotheses written `Γ`. -/
def display (s : SequentPattern) : String :=
  "Γ" ++ (s.hypothesis.map Placeholder.display).getD "" ++ " ⊢ " ++ s.pattern.display

/-- The occurrences of placeholders: the added hypothesis, then the pattern. -/
def occurrences (s : SequentPattern) : List Placeholder :=
  s.hypothesis.toList ++ s.pattern.occurrences

end SequentPattern

/-! ## Schemas -/

/-- A rule with the patterns of its premises and of its conclusion. -/
structure Schema where
  rule : Rule
  premises : List SequentPattern
  conclusion : SequentPattern
  deriving DecidableEq, Inhabited

namespace Schema

/-- The occurrences of placeholders: those of the conclusion, then those of each premise. -/
def occurrences (s : Schema) : List Placeholder :=
  s.conclusion.occurrences ++ s.premises.flatMap SequentPattern.occurrences

/-- The placeholders, each once, by first occurrence. -/
def placeholders (s : Schema) : List Placeholder :=
  distinct s.occurrences

/-- A schema as it is listed: name, symbol, premises, conclusion and side condition. -/
def line (s : Schema) : String :=
  Text.padRight 12 s.rule.name ++ " " ++ Text.padRight 6 s.rule.symbol ++ " " ++
    "   ".intercalate (s.premises.map SequentPattern.display) ++ "  /  " ++ s.conclusion.display ++
    (match s.rule.sideCondition? with
      | some condition => "   (" ++ condition ++ ")"
      | none => "")

end Schema

end Sequitur
