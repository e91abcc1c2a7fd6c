/-!
# The rules of natural deduction

The eighteen rules by which a goal may be closed.  Which goals a rule applies to is decided
elsewhere; here a rule is a name with the texts that are shown for it.

Four rules carry a side condition on variables.  In a session the condition is shown with the rule;
in a typeset proof the rule gets a footnote number, and the footnote is made from a template in
which `%%identifier%%`, `%%lhs%%` and `%%rhs%%` stand for the variable, the hypotheses and the goal.

## What is here

* `Rule`, with `Rule.all` in the order of the constructors.
* `Rule.name` and `Rule.ofName?` (which ignores the case of ASCII letters).
* `Rule.symbol`, `Rule.sideCondition?`, `Rule.typst`, `Rule.footnoteTemplate?`.
-/

set_option autoImplicit false

namespace Sequitur

/-- A rule of natural deduction. -/
inductive Rule where
  | axiomatic
  | impIntro
  | impElim
  | falseElim
  | notIntro
  | notElim
  | andIntro
  | andElimLeft
  | andElimRight
  | orIntroLeft
  | orIntroRight
  | orElim
  | forallElim
  | forallIntro
  | existsElim
  | existsIntro
  | alphaExists
  | alphaForall
  deriving DecidableEq, Inhabited

namespace Rule

/-- All rules, in their order. -/
def all : List Rule :=
  [axiomatic, impIntro, impElim, falseElim, notIntro, notElim, andIntro, andElimLeft, andElimRight,
    orIntroLeft, orIntroRight, orElim, forallElim, forallIntro, existsElim, existsIntro,
    alphaExists, alphaForall]

/-- No rule is missing from the list of all rules. -/
theorem mem_all (r : Rule) : r ∈ all := by
  cases r <;> decide

/-! ## Names -/

/-- The name by which a rule is stored, sent and typed. -/
def name : Rule → String
  | axiomatic => "Ax"
  | impIntro => "ImplIntro"
  | impElim => "ImplElim"
  | falseElim => "FalseElim"
  | notIntro => "NotIntro"
  | notElim => "NotElim"
  | andIntro => "AndIntro"
  | andElimLeft => "AndElimL"
  | andElimRight => "AndElimR"
  | orIntroLeft => "OrIntroL"
  | orIntroRight => "OrIntroR"
  | orElim => "OrElim"
  | forallElim => "ForallElim"
  | forallIntro => "ForallIntro"
  | existsElim => "ExistsElim"
  | existsIntro => "ExistsIntro"
  | alphaExists => "AlphaExists"
  | alphaForall => "AlphaForall"

/-- The rule of exactly this name. -/
def ofExactName? (s : String) : Option Rule :=
  all.find? fun r ↦ r.name = s

/-- The rule of this name, in any case of the ASCII letters. -/
def ofName? (s : String) : Option Rule :=
  all.find? fun r ↦ r.name.toLower = s.toLower

/-- Rules in the order of the constructors. -/
protected def compare (r s : Rule) : Ordering :=
  Ord.compare r.ctorIdx s.ctorIdx

/-! ## In a session -/

/-- The symbol beside a closed node; stars mark a side condition. -/
def symbol : Rule → String
  | axiomatic => "AXIOM"
  | impIntro => "→I"
  | impElim => "→E"
  | falseElim => "⊥E"
  | notIntro => "¬I"
  | notElim => "¬E"
  | andIntro => "∧I"
  | andElimLeft => "∧EL"
  | andElimRight => "∧ER"
  | orIntroLeft => "∨I"
  | orIntroRight => "∨I"
  | orElim => "∨E"
  | forallElim => "∀E"
  | forallIntro => "∀I*"
  | existsElim => "∃E**"
  | existsIntro => "∃I"
  | alphaExists => "α∃***"
  | alphaForall => "α∀***"

/-- The side condition of a rule in words. -/
def sideCondition? : Rule → Option String
  | alphaExists => some "the binding structure is preserved"
  | alphaForall => some "the binding structure is preserved"
  | existsElim => some "x does not occur freely in any formula in Γ or B"
  | forallIntro => some "x does not occur freely in any formula in Γ"
  | _ => none

/-! ## In a typeset proof -/

/-- The footnote of a rule with a side condition, its three places still to be filled. -/
def footnoteTemplate? : Rule → Option String
  | existsElim =>
    some "%%identifier%% \"does not occur freely in any formula in\" %%lhs%% \"or\" %%rhs%%"
  | forallIntro => some "%%identifier%% \"does not occur freely in any formula in\" %%lhs%%"
  | alphaExists => some "\"the binding structure is preserved\""
  | alphaForall => some "\"the binding structure is preserved\""
  | _ => none

/-- The mark that refers to a footnote. -/
def footnoteMark (number : Nat) : String :=
  "^(" ++ toString number ++ ")"

/-- The rule in Typst's mathematics, with the number of its footnote if it has one. -/
def typst (number : Nat) : Rule → String
  | axiomatic => "\"AXIOM\""
  | impIntro => "arrow.r \"I\""
  | impElim => "arrow.r \"E\""
  | falseElim => "bot \"E\""
  | notIntro => "not \"I\""
  | notElim => "not \"E\""
  | andIntro => "and \"I\""
  | andElimLeft => "and \"EL\""
  | andElimRight => "and \"ER\""
  | orIntroLeft => "or \"I\""
  | orIntroRight => "or \"I\""
  | orElim => "or \"E\""
  | forallElim => "forall \"E\""
  | forallIntro => "forall \"I\"" ++ footnoteMark number
  | existsElim => "exists \"E\"" ++ footnoteMark number
  | existsIntro => "exists \"I\""
  | alphaExists => "alpha exists" ++ footnoteMark number
  | alphaForall => "alpha forall" ++ footnoteMark number

end Rule

end Sequitur
