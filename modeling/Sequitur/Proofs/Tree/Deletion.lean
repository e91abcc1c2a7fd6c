import Sequitur.Proofs.Tree.History

/-!
# Exactly what a deletion does

A deletion takes back the rule application that produced a node, so it removes all that lies below
the parent of the node, not below the node alone.  The parent is found by a search, what is removed
by a walk, and the collection, the order, the parent and the focus are changed one after the other;
`ProofTree.TakenBack` says what all of this amounts to.

`delete_outcome` says when a deletion is accepted, what an accepted one leaves, and which error any
other one gives.  That a node other than the root has a parent, and only one, is where the shape of
a tree with a history comes in.
-/

set_option autoImplicit false

namespace Sequitur

/-- A node that has been reopened is as it was when it was added. -/
theorem Node.reopen_eq_leaf {n : Node} {id : NodeId} (hid : n.id = id) :
    n.reopen = .leaf id n.sequent := by
  rw [reopen, leaf, hid]

namespace ProofTree

variable {t t' : ProofTree} {root id parent : NodeId} {goal : Sequent} {removed : List NodeId}

/-! ## Parents -/

/-- Every node other than the root has a parent. -/
theorem Rooted.exists_parent? (h : t.Rooted) (hid : t.contains id) (hroot : id ≠ t.root) :
    ∃ parent, t.parent? id = some parent := by
  obtain ⟨parent, hparent⟩ := (h.reached id hid).exists_lists hroot
  exact ⟨parent, h.parent?_eq_some_iff.2 hparent⟩

/-- A parent is the only node that lists its premise. -/
theorem Rooted.lists_iff_eq (h : t.Rooted) (hparent : t.Lists parent id) (a : NodeId) :
    t.Lists a id ↔ a = parent :=
  ⟨fun ha ↦ h.parent_unique ha hparent, fun ha ↦ ha ▸ hparent⟩

/-! ## Accepted deletions -/

/-- The rule application on a node has been taken back: all that lay below the node is gone, the
node is an open goal with its sequent, and nothing else has changed but a focus that is gone and the
revision. -/
structure TakenBack (t : ProofTree) (parent : NodeId) (removed : List NodeId) (t' : ProofTree) :
    Prop where
  /-- What is removed is listed in depth-first order. -/
  depthFirst : t.DepthFirst (t.premisesOf parent) removed
  /-- Nothing is listed twice. -/
  nodup : removed.Nodup
  /-- What is removed is what lay below the node. -/
  mem_removed : ∀ id, id ∈ removed ↔ t.Over parent id
  /-- It is stored no longer. -/
  find?_removed : ∀ id ∈ removed, t'.find? id = none
  /-- The node is an open goal with its sequent. -/
  find?_parent : ∃ n, t.find? parent = some n ∧ t'.find? parent = some (.leaf parent n.sequent)
  /-- Every other node is as it was. -/
  find?_of_ne : ∀ id, id ∉ removed → id ≠ parent → t'.find? id = t.find? id
  /-- What stays is in the same order. -/
  order_eq : t'.order = t.order.filter fun id ↦ id ∉ removed
  /-- The root is the same. -/
  root_eq : t'.root = t.root
  /-- A focus that is gone moves to the node. -/
  focus_eq : t'.focus = if t.focus ∈ removed then parent else t.focus
  /-- The revision is one higher. -/
  revision_eq : t'.revision = t.revision + 1

/-- Removing the descendants of a stored node takes back the rule application on it. -/
theorem Rooted.takenBack_reopen (h : t.Rooted) (hparent : t.contains parent) :
    t.TakenBack parent (t.descendants parent) (t.reopen parent (t.descendants parent)) := by
  have hstays : parent ∉ t.descendants parent :=
    h.parent_notMem_removed fun _ ↦ h.mem_descendants
  obtain ⟨n, hn⟩ := contains_iff.1 hparent
  exact {
    depthFirst := h.depthFirst_descendants parent
    nodup := h.nodup_descendants parent
    mem_removed := fun _ ↦ h.mem_descendants
    find?_removed := fun id hid ↦ by rw [find?_reopen, if_pos hid]
    find?_parent := by
      refine ⟨n, hn, ?_⟩
      rw [find?_reopen, if_neg hstays, if_pos rfl, hn, Option.map_some,
        Node.reopen_eq_leaf (h.id_eq parent n hn)]
    find?_of_ne := fun id hid hne ↦ by rw [find?_reopen, if_neg hid, if_neg hne]
    order_eq := order_reopen
    root_eq := root_reopen
    focus_eq := focus_reopen
    revision_eq := rfl }

/-! ## All deletions -/

/-- A node that has a parent unless it is the root is refused only for being the root, for being in
focus, or for not being there. -/
theorem delete_eq_error_iff (hparent : t.contains id → id ≠ t.root → ∃ p, t.parent? id = some p)
    {e : DeleteError} :
    t.delete id = .error e ↔
      (id = t.root ∧ e = .root) ∨ (id ≠ t.root ∧ id = t.focus ∧ e = .focused id) ∨
        (id ≠ t.root ∧ id ≠ t.focus ∧ t.contains id = false ∧ e = .nodeNotFound id) := by
  rw [delete]
  by_cases hroot : id = t.root
  · rw [if_pos hroot, Except.error.injEq, @eq_comm _ DeleteError.root]
    tauto
  by_cases hfocus : id = t.focus
  · rw [if_neg hroot, if_pos hfocus, Except.error.injEq, @eq_comm _ (DeleteError.focused id)]
    tauto
  rw [if_neg hroot, if_neg hfocus]
  cases hstored : t.contains id with
  | false =>
    rw [Bool.not_false, if_pos rfl, Except.error.injEq, @eq_comm _ (DeleteError.nodeNotFound id)]
    tauto
  | true =>
    obtain ⟨p, hp⟩ := hparent hstored hroot
    simp [hroot, hfocus, hp]

/-- **What a deletion does in a tree with a history.**  It is accepted exactly for a stored node
that is neither the root nor in focus.  It then takes back the rule application on the only node
that lists the id.  Any other deletion is refused for being that of the root, of the focus or of a
node that is not there, and for no other reason, and leaves the tree as it was. -/
theorem delete_outcome (h : Reachable root goal t) (id : NodeId) :
    ((∃ removed t', t.delete id = .ok (removed, t')) ↔
      t.contains id ∧ id ≠ t.root ∧ id ≠ t.focus) ∧
    (∀ removed t', t.delete id = .ok (removed, t') →
      ∃ parent, (∀ a, t.Lists a id ↔ a = parent) ∧ t.TakenBack parent removed t') ∧
    (∀ e, t.delete id = .error e ↔
      (id = t.root ∧ e = .root) ∨ (id ≠ t.root ∧ id = t.focus ∧ e = .focused id) ∨
        (t.contains id = false ∧ e = .nodeNotFound id)) ∧
    ∀ e, t.delete id = .error e → t.change (.delete id) = t := by
  have hgrown := h.grown
  refine ⟨⟨?_, ?_⟩, ?_, fun e ↦ ?_, fun e he ↦ ?_⟩
  · rintro ⟨removed, t', hdelete⟩
    obtain ⟨hroot, hfocus, hid, -⟩ := delete_eq_ok_iff.1 hdelete
    exact ⟨hid, hroot, hfocus⟩
  · rintro ⟨hid, hroot, hfocus⟩
    obtain ⟨parent, hparent⟩ := hgrown.exists_parent? hid hroot
    exact ⟨_, _, delete_eq_ok_iff.2 ⟨hroot, hfocus, hid, parent, hparent, rfl, rfl⟩⟩
  · intro removed t' hdelete
    obtain ⟨-, -, -, parent, hparent, rfl, rfl⟩ := delete_eq_ok_iff.1 hdelete
    have hlists := hgrown.parent?_eq_some_iff.1 hparent
    exact ⟨parent, hgrown.lists_iff_eq hlists, hgrown.takenBack_reopen hlists.contains⟩
  · rw [delete_eq_error_iff hgrown.exists_parent?]
    -- the root and the focus are stored, so what is not stored is neither
    have hstored : t.contains id = false → id ≠ t.root ∧ id ≠ t.focus := by
      intro hid
      constructor
      · rintro rfl
        simp [hgrown.contains_root] at hid
      · rintro rfl
        simp [hgrown.contains_focus] at hid
    tauto
  · rw [change, he]
    rfl

/-- A conjunction is split, one part is split again, and the view moves below it. -/
def viewBelow : List Change :=
  [.graft (.ofNat 1) .andIntro [(.ofNat 2, conjunction), (.ofNat 3, conjunction)],
    .graft (.ofNat 2) .andIntro [(.ofNat 4, conjunction), (.ofNat 5, conjunction)],
    .focus (.ofNat 5)]

theorem delete_outcome_viewBelow :
    let t := (ProofTree.new (.ofNat 1) conjunction).changes viewBelow
    Reachable (.ofNat 1) conjunction t ∧
      t.delete (.ofNat 5) = .error (.focused (.ofNat 5)) ∧
      t.delete (.ofNat 6) = .error (.nodeNotFound (.ofNat 6)) ∧
      ∃ t', t.delete (.ofNat 3) = .ok ([.ofNat 2, .ofNat 4, .ofNat 5, .ofNat 3], t') ∧
        t'.order = [.ofNat 1] ∧ t'.focus = .ofNat 1 ∧
        ∃ parent, (∀ a, t.Lists a (.ofNat 3) ↔ a = parent) ∧
          t.TakenBack parent [.ofNat 2, .ofNat 4, .ofNat 5, .ofNat 3] t' := by
  intro t
  have h : Reachable (.ofNat 1) conjunction t := Reachable.new.changes (by decide)
  have hdelete : t.delete (.ofNat 3) = .ok ([.ofNat 2, .ofNat 4, .ofNat 5, .ofNat 3],
      t.reopen (.ofNat 1) [.ofNat 2, .ofNat 4, .ofNat 5, .ofNat 3]) :=
    delete_eq_ok_iff.2 ⟨by decide, by decide, by decide, .ofNat 1, by decide, by decide, rfl⟩
  obtain ⟨-, htaken, -, -⟩ := delete_outcome h (.ofNat 3)
  obtain ⟨-, -, hfocused, -⟩ := delete_outcome h (.ofNat 5)
  obtain ⟨-, -, hmissing, -⟩ := delete_outcome h (.ofNat 6)
  exact ⟨h, (hfocused _).2 (by decide), (hmissing _).2 (by decide), _, hdelete, by decide,
    by decide, htaken _ _ hdelete⟩

end ProofTree

end Sequitur
