import Sequitur.Rule.Schema
import Sequitur.Sequent.Basic

/-!
# Binding the placeholders of a schema

Before a rule can be applied, each placeholder of its schema needs a binding.  `Bindings` collects
them one at a time: first all formula placeholders, then all variable placeholders, each kind in
the order in which the schema mentions them.  A formula placeholder takes any formula; a variable
placeholder takes only a formula that is nothing but an element.

Whether the bindings make sense for the goal is not decided here.

## What is here

* `Application` — a rule, the sequent it is applied to, and the bindings.
* `Bindings`, with `Bindings.next?`, `Bindings.pick`, `Bindings.clear`, `Bindings.remaining`.
* `Bindings.application` — the application, once nothing remains to be bound.
* `BindingError`, with `BindingError.message`.
-/

set_option autoImplicit false

namespace Sequitur

/-! ## Applications -/

/-- A formula placeholder with the formula bound to it. -/
structure FormulaBinding where
  placeholder : UInt32
  formula : Formula
  deriving DecidableEq, Inhabited

/-- A variable placeholder with the name bound to it. -/
structure ElementBinding where
  placeholder : String
  name : String
  deriving DecidableEq, Inhabited

/-- A rule with bindings for its placeholders, to be applied to a sequent. -/
structure Application where
  rule : Rule
  sequent : Sequent
  formulas : List FormulaBinding
  elements : List ElementBinding
  deriving DecidableEq, Inhabited

/-! ## Errors -/

/-- Why a binding, or the application made of all bindings, is refused. -/
inductive BindingError where
  | full (rule : Rule)
  | expectedElement (placeholder : String) (got : Formula)
  | incomplete (rule : Rule) (missing : Nat)
  deriving DecidableEq

/-- The error in words. -/
def BindingError.message : BindingError → String
  | full r => "all placeholders of " ++ r.name ++ " are already bound"
  | expectedElement p f =>
    "placeholder " ++ p ++ " expects an element variable, got " ++ f.display
  | incomplete r n => toString n ++ " placeholder(s) of " ++ r.name ++ " still need a binding"

/-! ## Collecting bindings -/

/-- The placeholders of a schema and the bindings collected for them so far. -/
structure Bindings where
  rule : Rule
  formulaSlots : List UInt32
  elementSlots : List String
  formulas : List FormulaBinding := []
  elements : List ElementBinding := []
  deriving DecidableEq

namespace Bindings

/-- The placeholders of a schema, nothing bound yet. -/
def ofSchema (s : Schema) : Bindings where
  rule := s.rule
  formulaSlots := s.placeholders.filterMap fun
    | .formula n => some n
    | .element _ => none
  elementSlots := s.placeholders.filterMap fun
    | .formula _ => none
    | .element x => some x

/-- How many placeholders are bound. -/
def bound (b : Bindings) : Nat :=
  b.formulas.length + b.elements.length

/-- How many placeholders there are. -/
def total (b : Bindings) : Nat :=
  b.formulaSlots.length + b.elementSlots.length

/-- Whether every placeholder is bound. -/
def isComplete (b : Bindings) : Bool :=
  b.total ≤ b.bound

/-- The placeholder that the next binding is for, found by counting the bindings made so far
through the formula placeholders and then the variable placeholders. -/
def next? (b : Bindings) : Option Placeholder :=
  match b.formulaSlots[b.bound]? with
  | some n => some (.formula n)
  | none => (b.elementSlots[b.bound - b.formulaSlots.length]?).map .element

/-- The placeholders without a binding, in the order in which they will be bound. -/
def remaining (b : Bindings) : List Placeholder :=
  (b.formulaSlots.drop b.formulas.length).map .formula ++
    (b.elementSlots.drop b.elements.length).map .element

/-- The next placeholder bound to a formula. -/
def pick (b : Bindings) (f : Formula) : Except BindingError Bindings :=
  match b.next? with
  | none => .error (.full b.rule)
  | some (.formula n) => .ok { b with formulas := b.formulas ++ [⟨n, f⟩] }
  | some (.element x) =>
    match f with
    | .atom (.element y) => .ok { b with elements := b.elements ++ [⟨x, y⟩] }
    | other => .error (.expectedElement x other)

/-- The next placeholders bound to the formulas of a list, as far as the first refusal. -/
def pickAll (b : Bindings) (fs : List Formula) : Except BindingError Bindings :=
  fs.foldlM pick b

/-- All bindings taken back. -/
def clear (b : Bindings) : Bindings :=
  { b with formulas := [], elements := [] }

/-- The rule applied to a sequent with the bindings made, if none is missing. -/
def application (b : Bindings) (s : Sequent) : Except BindingError Application :=
  if b.isComplete then
    .ok { rule := b.rule, sequent := s, formulas := b.formulas, elements := b.elements }
  else
    .error (.incomplete b.rule (b.total - b.bound))

end Bindings

end Sequitur
