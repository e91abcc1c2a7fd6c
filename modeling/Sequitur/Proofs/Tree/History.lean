import Sequitur.Proofs.Tree.Growth

/-!
# The shape of a tree with a history

A tree starts as a single goal and is changed by one operation after the other, each of which may be
refused.  `ProofTree.Reachable` are the trees with such a history, and each of them is grown in the
sense of `ProofTree.Grown`: the order and the collection agree, the root is first, the focus is
stored, and the lists of premises make a tree of the nodes.
-/

set_option autoImplicit false

namespace Sequitur

namespace ProofTree

variable {t : ProofTree} {root : NodeId} {goal : Sequent}

/-! ## Histories -/

/-- One of the operations that change a tree, with all that it is told. -/
inductive Change where
  | seed (goal : Sequent)
  | graft (target : NodeId) (rule : Rule) (leaves : List (NodeId × Sequent))
  | delete (id : NodeId)
  | focus (id : NodeId)
  | focusRoot
  | commit (pending : Pending) (leaves : List (NodeId × Sequent))
  deriving DecidableEq

/-- The ids that a change brings in. -/
def Change.newIds : Change → List NodeId
  | graft _ _ leaves => leaves.map Prod.fst
  | commit _ leaves => leaves.map Prod.fst
  | _ => []

/-- The result of an operation, or the tree as it was when the operation is refused. -/
def orUnchanged {ε : Type} (t : ProofTree) : Except ε ProofTree → ProofTree
  | .ok t' => t'
  | .error _ => t

/-- The tree after a change. -/
def change (t : ProofTree) : Change → ProofTree
  | .seed goal => t.seed goal
  | .graft target rule leaves => t.orUnchanged (t.graft target rule leaves)
  | .delete id => t.orUnchanged ((t.delete id).map Prod.snd)
  | .focus id => t.orUnchanged (t.setFocus id)
  | .focusRoot => t.focusRoot
  | .commit pending leaves => t.orUnchanged (t.commit pending leaves)

/-- The trees that a single goal may become by any changes, with new ids that are not in use. -/
inductive Reachable (root : NodeId) (goal : Sequent) : ProofTree → Prop
  | new : Reachable root goal (.new root goal)
  | change {t : ProofTree} (h : Reachable root goal t) (c : Change) (hnew : t.Unused c.newIds) :
    Reachable root goal (t.change c)

/-- The tree after changes in a row. -/
def changes (t : ProofTree) (cs : List Change) : ProofTree :=
  cs.foldl change t

/-- The new ids of each change are not in use when its turn comes. -/
def UnusedAlong : ProofTree → List Change → Prop
  | _, [] => True
  | t, c :: cs => t.Unused c.newIds ∧ (t.change c).UnusedAlong cs

instance decidableUnusedAlong : (t : ProofTree) → (cs : List Change) → Decidable (t.UnusedAlong cs)
  | _, [] => inferInstanceAs (Decidable True)
  | t, c :: cs =>
    have := decidableUnusedAlong (t.change c) cs
    inferInstanceAs (Decidable (_ ∧ _))

/-- Each change meets a condition on it and on the tree when its turn comes. -/
def Along (condition : ProofTree → Change → Prop) : ProofTree → List Change → Prop
  | _, [] => True
  | t, c :: cs => condition t c ∧ (t.change c).Along condition cs

instance decidableAlong (condition : ProofTree → Change → Prop)
    [∀ t c, Decidable (condition t c)] :
    (t : ProofTree) → (cs : List Change) → Decidable (t.Along condition cs)
  | _, [] => inferInstanceAs (Decidable True)
  | t, c :: cs =>
    have := decidableAlong condition (t.change c) cs
    inferInstanceAs (Decidable (_ ∧ _))

theorem Reachable.changes (h : Reachable root goal t) {cs : List Change}
    (hnew : t.UnusedAlong cs) : Reachable root goal (t.changes cs) := by
  induction cs generalizing t with
  | nil => exact h
  | cons c cs ih => exact ih (h.change c hnew.1) hnew.2

/-- What holds of a tree and of every accepted result holds after the operation. -/
theorem orUnchanged_induction {ε : Type} {motive : ProofTree → Prop} {result : Except ε ProofTree}
    (hsame : motive t) (hok : ∀ t', result = .ok t' → motive t') :
    motive (t.orUnchanged result) := by
  cases result with
  | ok t' => exact hok t' rfl
  | error e => exact hsame

/-- A tree left by a deletion comes with the ids that the deletion removed. -/
theorem exists_of_map_delete {t' : ProofTree} {id : NodeId}
    (h : (t.delete id).map Prod.snd = .ok t') : ∃ removed, t.delete id = .ok (removed, t') := by
  cases hdelete : t.delete id with
  | error e => simp [hdelete, Except.map] at h
  | ok result =>
    obtain rfl : result.2 = t' := by simpa [hdelete, Except.map] using h
    exact ⟨result.1, rfl⟩

/-- A deletion removes all that lies below a parent of the id and opens the parent again. -/
theorem exists_reopen_of_map_delete {t' : ProofTree} {id : NodeId}
    (h : (t.delete id).map Prod.snd = .ok t') :
    ∃ parent, t.parent? id = some parent ∧ t' = t.reopen parent (t.descendants parent) := by
  obtain ⟨removed, hdelete⟩ := exists_of_map_delete h
  obtain ⟨-, -, -, parent, hparent, rfl, rfl⟩ := delete_eq_ok_iff.1 hdelete
  exact ⟨parent, hparent, rfl⟩

/-! ## The shape -/

/-- **Every change keeps the shape.** -/
theorem Grown.change (h : t.Grown) (c : Change) (hnew : t.Unused c.newIds) :
    (t.change c).Grown := by
  cases c with
  | seed goal => exact grown_seed t goal
  | graft target rule leaves =>
    exact orUnchanged_induction h fun t' ht' ↦ h.graft ht' hnew
  | delete id =>
    refine orUnchanged_induction h fun t' ht' ↦ ?_
    obtain ⟨removed, hdelete⟩ := exists_of_map_delete ht'
    exact h.delete hdelete
  | focus id =>
    refine orUnchanged_induction h fun t' ht' ↦ ?_
    obtain ⟨hid, rfl⟩ := setFocus_eq_ok_iff.1 ht'
    exact h.focus hid
  | focusRoot => exact h.focus h.contains_root
  | commit pending leaves =>
    exact orUnchanged_induction h fun t' ht' ↦ h.graft (graft_of_commit ht') hnew

/-- Every tree with a history has the shape. -/
theorem Reachable.grown (h : Reachable root goal t) : t.Grown := by
  induction h with
  | new => exact grown_seed (empty root) goal
  | change _ c hnew ih => exact ih.change c hnew

/-- No change moves the root. -/
theorem root_change (c : Change) : (t.change c).root = t.root := by
  cases c with
  | seed goal => rfl
  | graft target rule leaves =>
    refine orUnchanged_induction (motive := fun t' ↦ t'.root = t.root) rfl fun t' ht' ↦ ?_
    obtain ⟨-, rfl⟩ := graft_eq_ok_iff.1 ht'
    exact root_grafted
  | delete id =>
    refine orUnchanged_induction (motive := fun t' ↦ t'.root = t.root) rfl fun t' ht' ↦ ?_
    obtain ⟨parent, -, rfl⟩ := exists_reopen_of_map_delete ht'
    exact root_reopen
  | focus id =>
    refine orUnchanged_induction (motive := fun t' ↦ t'.root = t.root) rfl fun t' ht' ↦ ?_
    obtain ⟨-, rfl⟩ := setFocus_eq_ok_iff.1 ht'
    rfl
  | focusRoot => rfl
  | commit pending leaves =>
    refine orUnchanged_induction (motive := fun t' ↦ t'.root = t.root) rfl fun t' ht' ↦ ?_
    obtain ⟨-, rfl⟩ := graft_eq_ok_iff.1 (graft_of_commit ht')
    exact root_grafted

theorem root_changes (cs : List Change) : (t.changes cs).root = t.root := by
  induction cs generalizing t with
  | nil => rfl
  | cons c cs ih => exact ih.trans (root_change c)

theorem Reachable.root_eq (h : Reachable root goal t) : t.root = root := by
  induction h with
  | new => rfl
  | change _ c _ ih => exact (root_change c).trans ih

/-- **The shape of a tree with a history.**  Whatever was done to it and refused, the order names
every stored node once and nothing else, the root is stored and first, the focus is stored, every
premise is stored and was added after the node that lists it, the root is nobody's premise and every
other node is one exactly once, every node is reached from the root, and a node without a rule has
no premises. -/
theorem reachable_shape (h : Reachable root goal t) :
    t.root = root ∧ t.nodes.map Node.id = t.order ∧ t.Grown :=
  ⟨h.root_eq, h.grown.map_id_nodes, h.grown⟩

/-- A goal to be split into two parts. -/
def conjunction : Sequent where
  hypotheses := [.verum, .falsum]
  goal := .and .verum .falsum

/-- The conjunction is split, the view moves to the right part, the splitting is taken back from the
left part and done anew; a rule on the same node is then refused. -/
def resplitting : List Change :=
  let left : Sequent := { conjunction with goal := .verum }
  let right : Sequent := { conjunction with goal := .falsum }
  [.graft (.ofNat 1) .andIntro [(.ofNat 2, left), (.ofNat 3, right)], .focus (.ofNat 3),
    .delete (.ofNat 2), .graft (.ofNat 1) .andIntro [(.ofNat 4, left), (.ofNat 5, right)],
    .graft (.ofNat 1) .axiomatic []]

theorem reachable_shape_resplitting :
    let start := ProofTree.new (.ofNat 1) conjunction
    let t := start.changes resplitting
    start.UnusedAlong resplitting ∧ t.order = [.ofNat 1, .ofNat 4, .ofNat 5] ∧
      t.focus = .ofNat 1 ∧ t.root = .ofNat 1 ∧ t.nodes.map Node.id = t.order ∧ t.Grown := by
  intro start t
  have hnew : start.UnusedAlong resplitting := by decide
  exact ⟨hnew, by decide, by decide, reachable_shape (Reachable.new.changes hnew)⟩

end ProofTree

end Sequitur
