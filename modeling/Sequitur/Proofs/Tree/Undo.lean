import Sequitur.Proofs.Tree.History
import Sequitur.Tree.Snapshot

/-!
# Taking back all that was built on a goal

Deleting any premise of a node takes back the rule application on the node with everything that has
been built on it since.  When that was done to an open goal, and all later work was done below it,
the tree is then what it was before: the same nodes in the same order (`delete_restores`).

What carries the proof is that work below the goal leaves the earlier nodes alone, apart from the
goal itself, and keeps their order (`ProofTree.BuiltOn`).  What lies below the goal is then just
what is new (`BuiltOn.over_iff`), so each further step of the work happens among later nodes
(`BuiltOn.keeps`), and the earlier nodes are what a deletion of the premises leaves.
-/

set_option autoImplicit false

namespace Sequitur

namespace ProofTree

variable {t t' : ProofTree} {root target id : NodeId} {goal : Sequent} {rule : Rule}
  {ids : List NodeId} {leaves : List (NodeId × Sequent)} {cs : List Change}

/-! ## Leaving earlier nodes alone -/

/-- Nothing happens to what a tree held earlier: its nodes stay as they are, and so does the order
of their ids. -/
structure Keeps (earlier t t' : ProofTree) : Prop where
  /-- The earlier ids are in the same order. -/
  order_filter : t'.order.filter earlier.contains = t.order.filter earlier.contains
  /-- The earlier nodes are the same. -/
  find?_eq : ∀ id, earlier.contains id → t'.find? id = t.find? id

namespace Keeps

variable {earlier : ProofTree} {parent : NodeId} {removed : List NodeId}

theorem refl : earlier.Keeps t t :=
  ⟨rfl, fun _ _ ↦ rfl⟩

/-- A graft of new leaves on a later node. -/
theorem grafted (htarget : ¬ earlier.contains target)
    (hleaves : ∀ id ∈ leaves.map Prod.fst, ¬ earlier.contains id) :
    earlier.Keeps t (t.grafted target rule leaves) where
  order_filter := by
    rw [order_grafted, List.filter_append, List.filter_eq_nil_iff.2 hleaves, List.append_nil]
  find?_eq id hid := by
    have hne : id ≠ target := fun heq ↦ htarget (heq ▸ hid)
    exact find?_grafted_of_ne hne fun hmem ↦ hleaves id hmem hid

/-- The removal of later nodes from below a later node. -/
theorem reopen (hparent : ¬ earlier.contains parent)
    (hremoved : ∀ id ∈ removed, ¬ earlier.contains id) :
    earlier.Keeps t (t.reopen parent removed) where
  order_filter := by
    rw [order_reopen, List.filter_filter]
    refine List.filter_congr fun id _ ↦ ?_
    cases hid : earlier.contains id with
    | false => rfl
    | true => simpa using fun hmem ↦ hremoved id hmem hid
  find?_eq id hid := by
    have hne : id ≠ parent := fun heq ↦ hparent (heq ▸ hid)
    rw [find?_reopen, if_neg fun hmem ↦ hremoved id hmem hid, if_neg hne]

end Keeps

/-! ## Work below a node -/

/-- A change works below a node: it is a graft on a descendant, the deletion of a descendant that is
not among some ids, or a move of the view. -/
def WorksBelow (target : NodeId) (ids : List NodeId) (t : ProofTree) : Change → Prop
  | .graft a _ _ => a ∈ t.descendants target
  | .delete a => a ∈ t.descendants target ∧ a ∉ ids
  | .focus _ => True
  | .focusRoot => True
  | .seed _ => False
  | .commit _ _ => False

instance (target : NodeId) (ids : List NodeId) (t : ProofTree) :
    (c : Change) → Decidable (t.WorksBelow target ids c)
  | .graft a _ _ => inferInstanceAs (Decidable (a ∈ t.descendants target))
  | .delete a => inferInstanceAs (Decidable (a ∈ t.descendants target ∧ a ∉ ids))
  | .focus _ | .focusRoot => inferInstanceAs (Decidable True)
  | .seed _ | .commit _ _ => inferInstanceAs (Decidable False)

/-- A tree that came from another one when a rule was put on one of its goals, with premises that
were new, and nothing else that was there was touched: the other nodes are as they were, and so is
the order of the earlier ids. -/
structure BuiltOn (t : ProofTree) (target : NodeId) (rule : Rule) (ids : List NodeId)
    (t' : ProofTree) : Prop where
  /-- It has grown. -/
  grown : t'.Grown
  /-- The root is the same. -/
  root_eq : t'.root = t.root
  /-- The earlier ids are in their order. -/
  order_filter : t'.order.filter t.contains = t.order
  /-- The goal has been closed. -/
  find?_target : t'.find? target = (t.find? target).map (.close rule ids)
  /-- The other nodes are as they were. -/
  find?_of_ne : ∀ id, t.contains id → id ≠ target → t'.find? id = t.find? id

namespace BuiltOn

/-- The premises of the goal are the new ids. -/
theorem lists_target (h : t.BuiltOn target rule ids t') (hopen : t.isOpenAt target)
    {p : NodeId} : t'.Lists target p ↔ p ∈ ids := by
  obtain ⟨n, hn, -⟩ := isOpenAt_iff.1 hopen
  rw [lists_iff_find?, h.find?_target, hn]
  simp [Node.close]

/-- The earlier ids are still stored. -/
theorem contains_of_contains (h : t.BuiltOn target rule ids t') (hid : t.contains id) :
    t'.contains id := by
  by_cases htarget : id = target
  · subst htarget
    obtain ⟨n, hn⟩ := contains_iff.1 hid
    exact contains_iff.2 ⟨n.close rule ids, by rw [h.find?_target, hn]; rfl⟩
  · rwa [contains, h.find?_of_ne id hid htarget]

/-! ## What lies below the goal -/

section Over

variable (h : t.BuiltOn target rule ids t') (ht : t.Grown) (hopen : t.isOpenAt target)

include h ht

/-- What is new lies below the goal: a way down to it leaves the earlier nodes at the goal. -/
theorem over_of_not_contains (hid : t'.contains id) (hnew : ¬ t.contains id) :
    t'.Over target id := by
  have hreach := h.grown.reached id hid
  clear hid
  induction hreach with
  | refl => exact absurd (h.root_eq ▸ ht.contains_root) hnew
  | @tail b id _ hb ih =>
    by_cases hold : t.contains b
    · -- only the goal has come to list what the earlier tree did not hold
      by_cases htarget : b = target
      · exact .single (htarget ▸ hb)
      · have hlists : t.Lists b id := by
          rwa [Lists, premisesOf, h.find?_of_ne b hold htarget] at hb
        exact absurd (ht.contains_premise b id hlists) hnew
    · exact (ih hold).tail hb

include hopen

/-- An earlier node does not lie below the goal: the way down to it is as it was, and did not lead
through the goal, which had no premises. -/
theorem not_over_of_contains (hid : t.contains id) : ¬ t'.Over target id := by
  have hreach := ht.reached id hid
  clear hid
  induction hreach with
  | refl =>
    intro hover
    obtain ⟨c, -, hc⟩ := over_iff_listed.1 hover
    exact h.grown.root_unlisted c (h.root_eq ▸ hc)
  | @tail b id _ hb ih =>
    obtain ⟨n, hn, -, hbare⟩ := isOpenAt_iff.1 hopen
    have hne : b ≠ target := by
      rintro rfl
      rw [Lists, premisesOf_eq hn, hbare] at hb
      cases hb
    have hkept : t'.Lists b id := by
      rwa [Lists, premisesOf, h.find?_of_ne b hb.contains hne]
    intro hover
    obtain ⟨c, htc, hc⟩ := over_iff_listed.1 hover
    obtain rfl := h.grown.parent_unique hc hkept
    rcases htc.eq_or_over with heq | hover
    · exact hne heq.symm
    · exact ih hover

/-- **What lies below the goal is what is new.** -/
theorem over_iff : t'.Over target id ↔ t'.contains id ∧ ¬ t.contains id := by
  constructor
  · intro hover
    obtain ⟨c, -, hc⟩ := over_iff_listed.1 hover
    exact ⟨h.grown.contains_premise c id hc, fun hid ↦ h.not_over_of_contains ht hopen hid hover⟩
  · rintro ⟨hid, hnew⟩
    exact h.over_of_not_contains ht hid hnew

/-- The descendants of the goal are what is new. -/
theorem mem_descendants_iff : id ∈ t'.descendants target ↔ t'.contains id ∧ ¬ t.contains id :=
  h.grown.mem_descendants.trans (h.over_iff ht hopen)

end Over

/-! ## Work below the goal -/

/-- The goal has just been closed. -/
theorem grafted (ht : t.Grown) (hopen : t.isOpenAt target)
    (hunused : t.Unused (leaves.map Prod.fst)) :
    t.BuiltOn target rule (leaves.map Prod.fst) (t.grafted target rule leaves) := by
  obtain ⟨n, hn, hrule, -⟩ := isOpenAt_iff.1 hopen
  refine ⟨ht.graft (graft_of_unruled hn hrule) hunused, root_grafted, ?_, ?_, fun id hid hne ↦ ?_⟩
  · have hold : t.order.filter t.contains = t.order :=
      List.filter_eq_self.2 fun id hid ↦ (ht.mem_order id).1 hid
    have hnew : (leaves.map Prod.fst).filter t.contains = [] :=
      List.filter_eq_nil_iff.2 fun id hid ↦ by simp [hunused.2 id hid]
    rw [order_grafted, List.filter_append, hold, hnew, List.append_nil]
  · rw [find?_grafted_target hn hunused, hn]
    rfl
  · exact find?_grafted_of_ne hne (hunused.notMem hid)

/-- The parent of what lies below the goal, other than its premises, lies below the goal. -/
theorem over_parent (h : t.BuiltOn target rule ids t') (hopen : t.isOpenAt target) {parent : NodeId}
    (hover : t'.Over target id) (hid : id ∉ ids) (hparent : t'.Lists parent id) :
    t'.Over target parent := by
  obtain ⟨c, hc, hcid⟩ := over_iff_listed.1 hover
  obtain rfl := h.grown.parent_unique hcid hparent
  rcases hc.eq_or_over with rfl | hover
  · exact absurd ((h.lists_target hopen).1 hparent) hid
  · exact hover

/-- Work below the goal keeps the earlier nodes and their order. -/
theorem keeps (h : t.BuiltOn target rule ids t') (ht : t.Grown) (hopen : t.isOpenAt target)
    {c : Change} (hnew : t'.Unused c.newIds) (hwork : t'.WorksBelow target ids c) :
    t.Keeps t' (t'.change c) := by
  cases c with
  | graft a rule' leaves =>
    refine orUnchanged_induction .refl fun t'' ht'' ↦ ?_
    obtain ⟨-, rfl⟩ := graft_eq_ok_iff.1 ht''
    exact .grafted ((h.mem_descendants_iff ht hopen).1 hwork).2 fun id hid hold ↦
      hnew.notMem (h.contains_of_contains hold) hid
  | delete d =>
    refine orUnchanged_induction .refl fun t'' ht'' ↦ ?_
    obtain ⟨parent, hparent, rfl⟩ := exists_reopen_of_map_delete ht''
    obtain ⟨hd, hids⟩ := hwork
    have hover : t'.Over target parent := h.over_parent hopen (h.grown.mem_descendants.1 hd) hids
      (lists_of_parent? h.grown.id_eq hparent)
    exact .reopen ((h.over_iff ht hopen).1 hover).2 fun id hid ↦
      ((h.over_iff ht hopen).1 (hover.trans (h.grown.mem_descendants.1 hid))).2
  | focus id =>
    refine orUnchanged_induction .refl fun t'' ht'' ↦ ?_
    obtain ⟨-, rfl⟩ := setFocus_eq_ok_iff.1 ht''
    exact ⟨rfl, fun _ _ ↦ rfl⟩
  | focusRoot => exact ⟨rfl, fun _ _ ↦ rfl⟩
  | seed _ | commit _ _ => cases hwork

/-- Work below the goal leaves a tree that was built on the goal. -/
theorem change (h : t.BuiltOn target rule ids t') (ht : t.Grown) (hopen : t.isOpenAt target)
    {c : Change} (hnew : t'.Unused c.newIds) (hwork : t'.WorksBelow target ids c) :
    t.BuiltOn target rule ids (t'.change c) := by
  have hkeeps := h.keeps ht hopen hnew hwork
  exact {
    grown := h.grown.change c hnew
    root_eq := (root_change c).trans h.root_eq
    order_filter := hkeeps.order_filter.trans h.order_filter
    find?_target := (hkeeps.find?_eq target (contains_of_isOpenAt hopen)).trans h.find?_target
    find?_of_ne := fun id hid hne ↦ (hkeeps.find?_eq id hid).trans (h.find?_of_ne id hid hne) }

/-- So does any work below the goal. -/
theorem changes (h : t.BuiltOn target rule ids t') (ht : t.Grown) (hopen : t.isOpenAt target)
    (hnew : t'.UnusedAlong cs) (hwork : t'.Along (WorksBelow target ids) cs) :
    t.BuiltOn target rule ids (t'.changes cs) := by
  induction cs generalizing t' with
  | nil => exact h
  | cons c cs ih => exact ih (h.change ht hopen hnew.1 hwork.1) hnew.2 hwork.2

/-! ## Taking it back -/

/-- Without what lies below the goal, the order is the earlier one. -/
theorem order_reopen_target (h : t.BuiltOn target rule ids t') (ht : t.Grown)
    (hopen : t.isOpenAt target) :
    (t'.reopen target (t'.descendants target)).order = t.order := by
  rw [order_reopen, ← h.order_filter]
  refine List.filter_congr fun id hid ↦ ?_
  have hstored : t'.contains id := (h.grown.mem_order id).1 hid
  have hmem : id ∈ t'.descendants target ↔ ¬ t.contains id := by
    rw [h.mem_descendants_iff ht hopen, and_iff_right hstored]
  cases hold : t.contains id <;> simp [hmem, hold]

/-- Without what lies below the goal, and with the goal open again, the nodes are the earlier
ones. -/
theorem find?_reopen_target (h : t.BuiltOn target rule ids t') (ht : t.Grown)
    (hopen : t.isOpenAt target) :
    (t'.reopen target (t'.descendants target)).find? = t.find? := by
  funext id
  have hmem : id ∈ t'.descendants target ↔ t'.contains id ∧ ¬ t.contains id :=
    h.mem_descendants_iff ht hopen
  rw [find?_reopen]
  by_cases hold : t.contains id
  · rw [if_neg fun hid ↦ (hmem.1 hid).2 hold]
    split
    · next htarget =>
      subst htarget
      obtain ⟨n, hn, hrule, hbare⟩ := isOpenAt_iff.1 hopen
      have hsame : (n.close rule ids).reopen = n := by
        cases n
        simp_all [Node.close, Node.reopen]
      rw [h.find?_target, hn, Option.map_some, Option.map_some, hsame]
    · next hne => exact h.find?_of_ne id hold hne
  · have hnone : t.find? id = none := by simpa [contains] using hold
    rw [hnone]
    split
    · rfl
    · next hstays =>
      have hgone : t'.find? id = none := by
        simpa [contains] using fun hstored ↦ hstays (hmem.2 ⟨hstored, hold⟩)
      simp [hgone]

end BuiltOn

/-- **Taking back an application restores what was before it.**  A rule is put on an open goal of a
tree with a history, and then, in any order and whether accepted or refused, rules are put on
descendants of the goal, descendants other than its premises are deleted, and the view is moved.
Deleting any of the premises that is not in focus then succeeds and leaves the nodes as they were
before the rule was put on, in their order. -/
theorem delete_restores (h : Reachable root goal t) (hopen : t.isOpenAt target) (rule : Rule)
    (hunused : t.Unused (leaves.map Prod.fst)) :
    ∃ grown, t.graft target rule leaves = .ok grown ∧
      ∀ cs, grown.UnusedAlong cs → grown.Along (WorksBelow target (leaves.map Prod.fst)) cs →
        ∀ id ∈ leaves.map Prod.fst, id ≠ (grown.changes cs).focus →
          ∃ removed t', (grown.changes cs).delete id = .ok (removed, t') ∧
            t'.find? = t.find? ∧ t'.order = t.order ∧ t'.snapshot = t.snapshot := by
  obtain ⟨n, hn, hrule, -⟩ := isOpenAt_iff.1 hopen
  refine ⟨t.grafted target rule leaves, graft_of_unruled hn hrule, ?_⟩
  intro cs hnew hwork id hid hfocus
  have hbuilt : t.BuiltOn target rule (leaves.map Prod.fst)
      ((t.grafted target rule leaves).changes cs) :=
    (BuiltOn.grafted h.grown hopen hunused).changes h.grown hopen hnew hwork
  generalize (t.grafted target rule leaves).changes cs = built at hbuilt hfocus
  have hlists : built.Lists target id := (hbuilt.lists_target hopen).2 hid
  have hroot : id ≠ built.root := by
    rintro rfl
    exact hbuilt.grown.root_unlisted target hlists
  have hfind := hbuilt.find?_reopen_target h.grown hopen
  have horder := hbuilt.order_reopen_target h.grown hopen
  refine ⟨built.descendants target, built.reopen target (built.descendants target),
    delete_eq_ok_iff.2 ⟨hroot, hfocus, hbuilt.grown.contains_premise target id hlists, target,
      hbuilt.grown.parent?_eq_some_iff.2 hlists, rfl, rfl⟩, hfind, horder, ?_⟩
  rw [snapshot, snapshot, nodes, nodes, hfind, horder]

/-- Rules are put on a premise and below it, one of them is refused and one is taken back, and the
view moves to the other premise. -/
def workBelow : List Change :=
  [.graft (.ofNat 4) .andIntro [(.ofNat 6, conjunction)], .graft (.ofNat 4) .axiomatic [],
    .graft (.ofNat 6) .andIntro [(.ofNat 7, conjunction)], .delete (.ofNat 7), .focus (.ofNat 5)]

theorem delete_restores_split :
    let t := (ProofTree.new (.ofNat 1) conjunction).change
      (.graft (.ofNat 1) .andIntro [(.ofNat 2, conjunction), (.ofNat 3, conjunction)])
    let leaves : List (NodeId × Sequent) := [(.ofNat 4, conjunction), (.ofNat 5, conjunction)]
    let grown := t.grafted (.ofNat 2) .andIntro leaves
    Reachable (.ofNat 1) conjunction t ∧ t.isOpenAt (.ofNat 2) ∧
      t.Unused (leaves.map Prod.fst) ∧ grown.UnusedAlong workBelow ∧
      grown.Along (WorksBelow (.ofNat 2) (leaves.map Prod.fst)) workBelow ∧
      (grown.changes workBelow).focus = .ofNat 5 ∧
      ∃ removed t', (grown.changes workBelow).delete (.ofNat 4) = .ok (removed, t') ∧
        t'.snapshot = t.snapshot := by
  intro t leaves grown
  have h : Reachable (.ofNat 1) conjunction t := Reachable.new.change _ (by decide)
  have hopen : t.isOpenAt (.ofNat 2) := by decide
  have hunused : t.Unused (leaves.map Prod.fst) := by decide
  have hnew : grown.UnusedAlong workBelow := by decide
  have hwork : grown.Along (WorksBelow (.ofNat 2) (leaves.map Prod.fst)) workBelow := by decide
  obtain ⟨grown', hgraft, hall⟩ := delete_restores h hopen .andIntro hunused
  obtain rfl : grown = grown' := Except.ok.inj hgraft
  obtain ⟨removed, t', hdelete, -, -, hsnapshot⟩ :=
    hall workBelow hnew hwork (.ofNat 4) (by decide) (by decide)
  exact ⟨h, hopen, hunused, hnew, hwork, by decide, removed, t', hdelete, hsnapshot⟩

end ProofTree

end Sequitur
