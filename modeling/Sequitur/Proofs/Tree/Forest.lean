import Sequitur.Proofs.Tree.Change

/-!
# Collections without cycles

Not every node of a collection need be reached from the root for the walks to come to an end.  It is
enough that the collection is a *forest*: no node stands over itself, and no two nodes list the same
premise (`ProofTree.Forest`).

Both operations that change the structure keep a forest, whatever node they are applied to.  A graft
brings in leaves, and no way leads on from a leaf, so none comes back to its start; the premises
that the target may have had are nobody's premises from then on.  A deletion takes away all that a
node stands over, and as no other node lists what it takes away, every premise is still stored.
-/

set_option autoImplicit false

namespace Sequitur

namespace ProofTree

variable {t : ProofTree} {a b p target parent : NodeId} {rule : Rule}
  {leaves : List (NodeId × Sequent)} {removed : List NodeId}

/-- The order lists what is stored, the root and every premise are stored, the root is nobody's
premise and no other node is the premise of two, and no node stands over itself. -/
structure Forest (t : ProofTree) : Prop where
  /-- The order lists what is stored and nothing else. -/
  mem_order : ∀ id, id ∈ t.order ↔ t.contains id
  /-- The root is stored. -/
  contains_root : t.contains t.root
  /-- The root is nobody's premise. -/
  root_unlisted : ∀ a, ¬ t.Lists a t.root
  /-- Every premise is stored. -/
  contains_premise : ∀ a p, t.Lists a p → t.contains p
  /-- No two nodes list the same premise. -/
  parent_unique : ∀ a b p, t.Lists a p → t.Lists b p → a = b
  /-- No node stands over itself. -/
  acyclic : t.Acyclic

/-- A rooted collection is a forest. -/
theorem Rooted.forest (h : t.Rooted) : t.Forest where
  mem_order := h.mem_order
  contains_root := h.contains_root
  root_unlisted := h.root_unlisted
  contains_premise := h.contains_premise
  parent_unique _ _ _ := h.parent_unique
  acyclic := h.acyclic

namespace Forest

/-! ## Walks -/

/-- In a forest a way down from any id has fewer steps than there are nodes; from an id that is not
stored there is none. -/
theorem shallow (h : t.Forest) (a : NodeId) : t.Shallow t.size a := by
  by_cases ha : t.contains a
  · exact shallow_size h.acyclic (fun b p hp ↦ (h.mem_order p).2 (h.contains_premise b p hp))
      ((h.mem_order a).2 ha)
  · intro n b hdescends
    cases n with
    | zero => exact List.length_pos_of_mem ((h.mem_order t.root).2 h.contains_root)
    | succ n =>
      obtain ⟨p, hp, -⟩ := hdescends
      exact absurd hp.contains ha

/-- In a forest the descendants of a node are the ids it stands over. -/
theorem mem_descendants (h : t.Forest) : b ∈ t.descendants a ↔ t.Over a b :=
  mem_descendants_of_shallow fun p _ ↦ h.shallow p

/-! ## Grafting -/

section Grafted

variable (h : t.Forest) (htarget : t.contains target) (hunused : t.Unused (leaves.map Prod.fst))

include h htarget hunused

/-- A leaf hangs from the target alone, and an old premise from its old parent. -/
theorem parent_unique_grafted (ha : (t.grafted target rule leaves).Lists a p)
    (hb : (t.grafted target rule leaves).Lists b p) : a = b := by
  have hold : ∀ {c}, t.Lists c p → p ∉ leaves.map Prod.fst := fun hc ↦
    hunused.notMem (h.contains_premise _ p hc)
  rcases (lists_grafted htarget hunused).1 ha with ⟨rfl, hnew⟩ | ⟨-, ha⟩
  · rcases (lists_grafted htarget hunused).1 hb with ⟨rfl, -⟩ | ⟨-, hb⟩
    · rfl
    · exact absurd hnew (hold hb)
  · rcases (lists_grafted htarget hunused).1 hb with ⟨-, hnew⟩ | ⟨-, hb⟩
    · exact absurd hnew (hold ha)
    · exact h.parent_unique a b p ha hb

omit h in
/-- A leaf lists nothing. -/
theorem notMem_of_lists_grafted (hp : (t.grafted target rule leaves).Lists a p) :
    a ∉ leaves.map Prod.fst := by
  rcases (lists_grafted htarget hunused).1 hp with ⟨rfl, -⟩ | ⟨-, hp⟩
  · exact hunused.notMem htarget
  · exact hunused.notMem hp.contains

omit h in
/-- A way down to anything but a leaf is an old one: it meets no leaf before. -/
theorem over_of_over_grafted (hab : (t.grafted target rule leaves).Over a b)
    (hb : b ∉ leaves.map Prod.fst) : t.Over a b := by
  have hold : ∀ {a b}, (t.grafted target rule leaves).Lists a b → b ∉ leaves.map Prod.fst →
      t.Lists a b := fun hab hb ↦
    ((lists_grafted htarget hunused).1 hab).elim (fun hnew ↦ absurd hnew.2 hb) And.right
  induction hab with
  | single hab => exact .single (hold hab hb)
  | tail _ hcb ih => exact (ih (notMem_of_lists_grafted htarget hunused hcb)).tail (hold hcb hb)

/-- A cycle would lead on from each of its nodes, so there would be no leaf on it. -/
theorem acyclic_grafted : (t.grafted target rule leaves).Acyclic := by
  intro a hover
  obtain ⟨p, hp, -⟩ := over_iff_lists.1 hover
  exact h.acyclic a (over_of_over_grafted htarget hunused hover
    (notMem_of_lists_grafted htarget hunused hp))

/-- **A graft on any stored node keeps a forest.** -/
theorem grafted : (t.grafted target rule leaves).Forest where
  mem_order id := by
    rw [order_grafted, List.mem_append, h.mem_order, contains_grafted htarget hunused]
  contains_root := by
    rw [root_grafted, contains_grafted htarget hunused]
    exact .inl h.contains_root
  root_unlisted a ha := by
    rw [root_grafted] at ha
    rcases (lists_grafted htarget hunused).1 ha with ⟨-, hnew⟩ | ⟨-, ha⟩
    · exact hunused.notMem h.contains_root hnew
    · exact h.root_unlisted a ha
  contains_premise a p hp := by
    rw [contains_grafted htarget hunused]
    rcases (lists_grafted htarget hunused).1 hp with ⟨-, hnew⟩ | ⟨-, hp⟩
    · exact .inr hnew
    · exact .inl (h.contains_premise a p hp)
  parent_unique _ _ _ := h.parent_unique_grafted htarget hunused
  acyclic := h.acyclic_grafted htarget hunused

end Grafted

/-! ## Reopening -/

section Reopen

variable (h : t.Forest) (hremoved : ∀ id, id ∈ removed ↔ t.Over parent id)

include h hremoved

theorem root_notMem_removed : t.root ∉ removed := by
  intro hmem
  obtain ⟨b, -, hb⟩ := over_iff_listed.1 ((hremoved t.root).1 hmem)
  exact h.root_unlisted b hb

/-- A premise of a node that stays, other than the parent, is not below the parent. -/
theorem premise_notMem_removed (hap : t.Lists a p) (ha : a ∉ removed) (hne : a ≠ parent) :
    p ∉ removed := by
  intro hp
  obtain ⟨b, hb, hbp⟩ := over_iff_listed.1 ((hremoved p).1 hp)
  obtain rfl := h.parent_unique b a p hbp hap
  rcases hb.eq_or_over with rfl | hover
  · exact hne rfl
  · exact ha ((hremoved b).2 hover)

/-- **Reopening any node keeps a forest**, when what is removed is what the node stands over. -/
theorem reopen : (t.reopen parent removed).Forest where
  mem_order id := by
    rw [order_reopen, List.mem_filter, decide_eq_true_iff, h.mem_order, contains_reopen]
  contains_root := contains_reopen.2 ⟨h.contains_root, h.root_notMem_removed hremoved⟩
  root_unlisted a ha := h.root_unlisted a (lists_reopen.1 ha).1
  contains_premise a p hp := by
    obtain ⟨hp, ha, hne⟩ := lists_reopen.1 hp
    exact contains_reopen.2
      ⟨h.contains_premise a p hp, h.premise_notMem_removed hremoved hp ha hne⟩
  parent_unique a b p ha hb := h.parent_unique a b p (lists_reopen.1 ha).1 (lists_reopen.1 hb).1
  acyclic a hover :=
    h.acyclic a (Relation.TransGen.mono (fun _ _ hp ↦ (lists_reopen.1 hp).1) a a hover)

end Reopen

end Forest

end ProofTree

end Sequitur
