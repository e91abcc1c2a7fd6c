import Sequitur.Proofs.Tree.Renaming

/-!
# Restoring a tree, also after changes of its structure

A rooted collection is restored from its own snapshot as it was, with the view on the root and the
first revision (`Rooted.ofSnapshot_snapshot`).  Nothing that is asked of a tree depends on these
two, so between the trees of the program and their snapshots nothing is lost in either direction
(`snapshot_roundtrip`).

The snapshot that a tree was restored from need not come from the program, and what is accepted may
hold a node with premises but without a rule.  An application cannot be prepared for such a node,
but `ProofTree.graft`, which looks at the rule alone, puts new leaves in the place of its premises.
Nothing leads to the old premises from then on (`ProofTree.Stray`), and no later change of structure
brings them back or removes them.  So grafts on open goals are not only enough to keep a restored
tree in shape but necessary: `restorable_iff`.
-/

set_option autoImplicit false

namespace Sequitur

namespace ProofTree

variable {t t' : ProofTree} {root id p : NodeId} {ns : List Node} {cs : List Change}

/-! ## A tree from its own snapshot -/

/-- In a rooted collection the nodes are those that are stored under their ids. -/
theorem Rooted.mem_nodes (h : t.Rooted) {n : Node} : n ∈ t.nodes ↔ t.find? n.id = some n := by
  rw [mem_nodes_iff]
  constructor
  · rintro ⟨id, -, hid⟩
    rwa [h.id_eq id n hid]
  · intro hn
    exact ⟨n.id, (h.mem_order n.id).2 (contains_iff.2 ⟨n, hn⟩), hn⟩

/-- The nodes of a rooted collection are a tree. -/
theorem Rooted.isTree (h : t.Rooted) : IsTree t.root t.nodes := by
  have hids : ∀ id, id ∈ t.nodes.map Node.id ↔ t.contains id := fun id ↦ by
    rw [h.map_id_nodes, h.mem_order]
  have hleads : t.Lists = LeadsTo t.nodes := by
    ext a p
    rw [lists_iff_find?, LeadsTo]
    constructor
    · rintro ⟨n, hn, hp⟩
      obtain rfl := h.id_eq a n hn
      exact ⟨n, h.mem_nodes.2 hn, rfl, hp⟩
    · rintro ⟨n, hn, rfl, hp⟩
      exact ⟨n, h.mem_nodes.1 hn, hp⟩
  refine ⟨h.map_id_nodes ▸ h.order_nodup, (hids _).2 h.contains_root, ?_,
    fun id hid ↦ h.count_premises id ((hids id).1 hid), ?_⟩
  · intro n hn p hp
    exact (hids p).2 (h.contains_premise n.id p (lists_iff_find?.2 ⟨n, h.mem_nodes.1 hn, hp⟩))
  · intro id hid
    rw [← hleads]
    exact h.reached id ((hids id).1 hid)

/-- A rooted collection is the collection of its nodes. -/
theorem Rooted.ofNodes_nodes (h : t.Rooted) :
    ofNodes t.root t.nodes = { t with focus := t.root, revision := 1 } := by
  have hfind : (ofNodes t.root t.nodes).find? = t.find? := by
    funext id
    refine Option.ext fun n ↦ ?_
    rw [find?_ofNodes h.isTree.ids_nodup, h.mem_nodes]
    constructor
    · rintro ⟨hn, rfl⟩
      exact hn
    · intro hn
      obtain rfl := h.id_eq id n hn
      exact ⟨hn, rfl⟩
  have horder : (ofNodes t.root t.nodes).order = t.order := by
    rw [order_ofNodes, h.map_id_nodes]
  rw [ofNodes, ProofTree.mk.injEq]
  exact ⟨root_foldl_insert _ _, hfind, horder, focus_foldl_insert _ _, rfl⟩

/-- **A rooted collection is restored from its own snapshot**, with the view on the root and the
first revision. -/
theorem Rooted.ofSnapshot_snapshot (h : t.Rooted) :
    ofSnapshot t.root t.snapshot = .ok { t with focus := t.root, revision := 1 } :=
  ofSnapshot_eq_ok_iff.2 ⟨h.isTree, h.ofNodes_nodes.symm⟩

/-- Two trees give the same answers to whatever is asked of a tree without changing it. -/
structure SameAnswers (t t' : ProofTree) : Prop where
  /-- The same nodes are complete. -/
  isComplete_eq : t.isComplete = t'.isComplete
  /-- The same goals are open, in the same order. -/
  openGoals_eq : t.openGoals = t'.openGoals
  /-- The same nodes lie below, in the same order. -/
  descendants_eq : t.descendants = t'.descendants
  /-- Nodes hang from the same nodes. -/
  parent?_eq : t.parent? = t'.parent?
  /-- The beginnings of ids mean the same. -/
  resolve?_eq : t.resolve? = t'.resolve?
  /-- The same is reported. -/
  report?_eq : t.report? = t'.report?
  /-- The documents are the same, or fail alike. -/
  typeset_eq : t.typeset = t'.typeset

/-- No answer depends on the view or on the revision. -/
theorem sameAnswers_of_eq (hroot : t.root = t'.root) (hfind : t.find? = t'.find?)
    (horder : t.order = t'.order) : t.SameAnswers t' := by
  have hsame : t.SameNodes t' := ⟨hfind, congrArg List.length horder⟩
  have hnodes : t.nodes = t'.nodes := by rw [nodes, nodes, hfind, horder]
  refine ⟨hsame.isComplete_eq, hsame.openGoals_eq, hsame.descendants_eq, ?_, ?_, ?_,
    hsame.typeset_eq⟩
  · funext id
    rw [parent?, parent?, hnodes]
  · funext beginning
    rw [resolve?, resolve?, horder]
  · rw [report?, report?, isRootComplete, isRootComplete, hsame.isComplete_eq, hroot, hnodes]

/-- **Between trees and snapshots nothing is lost.**  Every tree with a history is restored from its
snapshot with the same root, the same nodes in the same order and the same answers, seen from its
root at the first revision; and the snapshot of a tree that has been restored is the list of nodes
that it was restored from. -/
theorem snapshot_roundtrip :
    (∀ root goal t, Reachable root goal t → ∃ t', ofSnapshot t.root t.snapshot = .ok t' ∧
      t'.root = t.root ∧ t'.find? = t.find? ∧ t'.order = t.order ∧ t'.focus = t.root ∧
      t'.revision = 1 ∧ t'.SameAnswers t) ∧
    ∀ root ns t, ofSnapshot root ns = .ok t → t.root = root ∧ t.snapshot = ns := by
  constructor
  · intro root goal t h
    exact ⟨_, h.grown.ofSnapshot_snapshot, rfl, rfl, rfl, rfl, rfl, sameAnswers_of_eq rfl rfl rfl⟩
  · intro root ns t h
    obtain ⟨htree, rfl⟩ := ofSnapshot_eq_ok_iff.1 h
    exact ⟨root_ofNodes root ns, nodes_ofNodes htree.ids_nodup⟩

/-- The tree that was split twice, with the view below the root and two changes behind it, and a
list that names the leaves before the root. -/
theorem snapshot_roundtrip_resplitting :
    let t := (ProofTree.new (.ofNat 1) conjunction).changes
      (resplitting ++ [.focus (.ofNat 5)])
    let ns : List Node := [.leaf (.ofNat 3) conjunction, .leaf (.ofNat 2) conjunction,
      { id := .ofNat 1, sequent := conjunction, rule := some .andIntro,
        premises := [.ofNat 2, .ofNat 3] }]
    Reachable (.ofNat 1) conjunction t ∧ t.focus = .ofNat 5 ∧
      (∃ t', ofSnapshot t.root t.snapshot = .ok t' ∧ t'.order = [.ofNat 1, .ofNat 4, .ofNat 5] ∧
        t'.openGoals (.ofNat 1) = t.openGoals (.ofNat 1)) ∧
      ofSnapshot (.ofNat 1) ns = .ok (ofNodes (.ofNat 1) ns) ∧
      (ofNodes (.ofNat 1) ns).snapshot = ns := by
  intro t ns
  have ht : Reachable (.ofNat 1) conjunction t := Reachable.new.changes (by decide)
  have hns : ofSnapshot (.ofNat 1) ns = .ok (ofNodes (.ofNat 1) ns) := rfl
  obtain ⟨hstored, hrestored⟩ := snapshot_roundtrip
  obtain ⟨t', ht', -, -, horder, -, -, hanswers⟩ := hstored (.ofNat 1) conjunction t ht
  have horder' : t.order = [.ofNat 1, .ofNat 4, .ofNat 5] := by decide
  exact ⟨ht, by decide, ⟨t', ht', horder.trans horder', congrFun hanswers.openGoals_eq _⟩, hns,
    (hrestored _ _ _ hns).2⟩

/-! ## Changes of structure -/

/-- Whether a change is one of structure: a graft or a deletion. -/
def Change.isEdit : Change → Bool
  | .graft _ _ _ => true
  | .delete _ => true
  | _ => false

/-- A graft that is accepted closes an open goal. -/
def ClosesOpen (t : ProofTree) : Change → Prop
  | .graft target _ _ => ∀ n ∈ t.find? target, n.rule = none → n.isOpen
  | _ => True

instance (t : ProofTree) : (c : Change) → Decidable (t.ClosesOpen c)
  | .graft target _ _ =>
    inferInstanceAs (Decidable (∀ n ∈ t.find? target, n.rule = none → n.isOpen))
  | .seed _ | .delete _ | .focus _ | .focusRoot | .commit _ _ => inferInstanceAs (Decidable True)

/-- A change of structure that grafts on nothing but an open goal keeps a collection rooted. -/
theorem Rooted.edit (h : t.Rooted) {c : Change} (hedit : c.isEdit) (hnew : t.Unused c.newIds)
    (hopen : t.ClosesOpen c) : (t.change c).Rooted := by
  cases c with
  | graft target rule leaves =>
    refine orUnchanged_induction h fun t' ht' ↦ ?_
    obtain ⟨⟨n, hn, hrule⟩, rfl⟩ := graft_eq_ok_iff.1 ht'
    have hbare : t.premisesOf target = [] :=
      (premisesOf_eq hn).trans (Node.isOpen_iff.1 (hopen n hn hrule)).2
    exact h.grafted (contains_iff.2 ⟨n, hn⟩) hbare hnew
  | delete id =>
    refine orUnchanged_induction h fun t' ht' ↦ ?_
    obtain ⟨parent, -, rfl⟩ := exists_reopen_of_map_delete ht'
    exact h.reopen fun _ ↦ h.mem_descendants
  | seed _ | focus _ | focusRoot | commit _ _ => cases hedit

theorem Rooted.edits (h : t.Rooted) (hedits : ∀ c ∈ cs, c.isEdit) (hnew : t.UnusedAlong cs)
    (hopen : t.Along ClosesOpen cs) : (t.changes cs).Rooted := by
  induction cs generalizing t with
  | nil => exact h
  | cons c cs ih =>
    obtain ⟨hc, hcs⟩ := List.forall_mem_cons.1 hedits
    exact ih (h.edit hc hnew.1 hopen.1) hcs hnew.2 hopen.2

/-! ## Nodes that nothing leads to -/

/-- A node other than the root that is stored and that no node lists. -/
structure Stray (t : ProofTree) (p : NodeId) : Prop where
  /-- It is stored under its own id. -/
  stored : ∃ n, t.find? p = some n ∧ n.id = p
  /-- It is in the order. -/
  mem_order : p ∈ t.order
  /-- It is not the root. -/
  ne_root : p ≠ t.root
  /-- No node lists it. -/
  unlisted : ∀ a, ¬ t.Lists a p

theorem Stray.contains (h : t.Stray p) : t.contains p := by
  obtain ⟨n, hn, -⟩ := h.stored
  exact contains_iff.2 ⟨n, hn⟩

/-- What nothing leads to is not reached from the root. -/
theorem Stray.not_reaches (h : t.Stray p) : ¬ t.Reaches t.root p := by
  intro hreach
  rcases hreach.eq_or_over with hroot | hover
  · exact h.ne_root hroot.symm
  · obtain ⟨a, -, ha⟩ := over_iff_listed.1 hover
    exact h.unlisted a ha

/-- No tree is restored from a snapshot with a node that nothing leads to. -/
theorem Stray.not_isTree (h : t.Stray p) : ¬ IsTree t.root t.nodes := by
  intro htree
  obtain ⟨n, hn, hid⟩ := h.stored
  have hmem : p ∈ t.nodes.map Node.id :=
    List.mem_map.2 ⟨n, mem_nodes_iff.2 ⟨p, h.mem_order, hn⟩, hid⟩
  -- in a tree it would be counted once among the premises, so some node would list it
  have hcount := htree.count_premises p hmem
  rw [if_neg h.ne_root] at hcount
  have hpremise : p ∈ t.nodes.flatMap Node.premises := List.count_pos_iff.1 (by omega)
  obtain ⟨m, hm, hp⟩ := List.mem_flatMap.1 hpremise
  obtain ⟨a, -, ha⟩ := mem_nodes_iff.1 hm
  exact h.unlisted a (lists_iff_find?.2 ⟨m, ha, hp⟩)

/-- A graft on a node that has premises leaves them without a way to them. -/
theorem Rooted.stray_grafted (h : t.Rooted) {target : NodeId} {n : Node} {rule : Rule}
    {leaves : List (NodeId × Sequent)} (hn : t.find? target = some n) (hp : p ∈ n.premises)
    (hunused : t.Unused (leaves.map Prod.fst)) : (t.grafted target rule leaves).Stray p := by
  have htarget : t.contains target := contains_iff.2 ⟨n, hn⟩
  have hlists : t.Lists target p := lists_iff_find?.2 ⟨n, hn, hp⟩
  have hstored : t.contains p := h.contains_premise target p hlists
  obtain ⟨m, hm⟩ := contains_iff.1 hstored
  have hne : p ≠ target := by
    rintro rfl
    exact h.acyclic p (.single hlists)
  refine ⟨⟨m, ?_, h.id_eq p m hm⟩, ?_, ?_, ?_⟩
  · rw [find?_grafted_of_ne hne (hunused.notMem hstored), hm]
  · rw [order_grafted]
    exact List.mem_append_left _ ((h.mem_order p).2 hstored)
  · rintro rfl
    rw [root_grafted] at hlists
    exact h.root_unlisted target hlists
  · intro a ha
    rw [Lists, premisesOf_grafted htarget hunused] at ha
    split at ha
    · exact hunused.notMem hstored ha
    · next hother => exact hother (h.parent_unique ha hlists)

/-- What nothing leads to stays so under every change of structure: leaves are new, and what is
removed is listed. -/
theorem Stray.edit (h : t.Stray p) {c : Change} (hedit : c.isEdit) (hnew : t.Unused c.newIds) :
    (t.change c).Stray p := by
  obtain ⟨n, hn, hid⟩ := h.stored
  cases c with
  | graft target rule leaves =>
    refine orUnchanged_induction (motive := fun t' ↦ t'.Stray p) h fun t' ht' ↦ ?_
    obtain ⟨⟨m, hm, -⟩, rfl⟩ := graft_eq_ok_iff.1 ht'
    have hleaf : p ∉ leaves.map Prod.fst := hnew.notMem h.contains
    refine ⟨?_, ?_, by rw [root_grafted]; exact h.ne_root, ?_⟩
    · by_cases hp : p = target
      · subst hp
        exact ⟨_, find?_grafted_target hm hnew, (Option.some.inj (hn.symm.trans hm)) ▸ hid⟩
      · exact ⟨n, (find?_grafted_of_ne hp hleaf).trans hn, hid⟩
    · rw [order_grafted]
      exact List.mem_append_left _ h.mem_order
    · intro a ha
      rw [Lists, premisesOf_grafted (contains_iff.2 ⟨m, hm⟩) hnew] at ha
      split at ha
      · exact hleaf ha
      · exact h.unlisted a ha
  | delete id =>
    refine orUnchanged_induction (motive := fun t' ↦ t'.Stray p) h fun t' ht' ↦ ?_
    obtain ⟨parent, -, rfl⟩ := exists_reopen_of_map_delete ht'
    have hstays : p ∉ t.descendants parent := by
      intro hmem
      obtain ⟨a, -, ha⟩ := over_iff_listed.1 (over_of_mem_descendants hmem)
      exact h.unlisted a ha
    refine ⟨?_, ?_, h.ne_root, fun a ha ↦ h.unlisted a (lists_reopen.1 ha).1⟩
    · rw [find?_reopen, if_neg hstays, hn]
      split
      · exact ⟨n.reopen, rfl, hid⟩
      · exact ⟨n, rfl, hid⟩
    · rw [order_reopen, List.mem_filter]
      exact ⟨h.mem_order, by simpa using hstays⟩
  | seed _ | focus _ | focusRoot | commit _ _ => cases hedit

theorem Stray.edits (h : t.Stray p) (hedits : ∀ c ∈ cs, c.isEdit) (hnew : t.UnusedAlong cs) :
    (t.changes cs).Stray p := by
  induction cs generalizing t with
  | nil => exact h
  | cons c cs ih =>
    obtain ⟨hc, hcs⟩ := List.forall_mem_cons.1 hedits
    exact ih (h.edit hc hnew.1) hcs hnew.2

/-- A graft that is accepted on anything but an open goal is one on a node with premises. -/
theorem Rooted.exists_stray_change (h : t.Rooted) {c : Change} (hnew : t.Unused c.newIds)
    (hclosed : ¬ t.ClosesOpen c) : ∃ p, (t.change c).Stray p := by
  cases c with
  | graft target rule leaves =>
    obtain ⟨n, hn, hrule, hopen⟩ : ∃ n, t.find? target = some n ∧ n.rule = none ∧ ¬ n.isOpen := by
      simpa [ClosesOpen] using hclosed
    have hpremises : n.premises ≠ [] := fun hnil ↦ hopen (Node.isOpen_iff.2 ⟨hrule, hnil⟩)
    obtain ⟨p, hp⟩ := List.exists_mem_of_ne_nil n.premises hpremises
    refine ⟨p, ?_⟩
    rw [change, graft_of_unruled hn hrule]
    exact h.stray_grafted hn hp hnew
  | seed _ | delete _ | focus _ | focusRoot | commit _ _ => exact absurd trivial hclosed

/-- One such graft among changes of structure leaves a node that nothing leads to at the end. -/
theorem Rooted.exists_stray (h : t.Rooted) (hedits : ∀ c ∈ cs, c.isEdit) (hnew : t.UnusedAlong cs)
    (hclosed : ¬ t.Along ClosesOpen cs) : ∃ p, (t.changes cs).Stray p := by
  induction cs generalizing t with
  | nil => exact absurd trivial hclosed
  | cons c cs ih =>
    obtain ⟨hc, hcs⟩ := List.forall_mem_cons.1 hedits
    -- the tree stays rooted up to the first such graft, and what that one leaves behind stays so
    by_cases hopen : t.ClosesOpen c
    · exact ih (h.edit hc hnew.1 hopen) hcs hnew.2 fun hrest ↦ hclosed ⟨hopen, hrest⟩
    · obtain ⟨p, hp⟩ := h.exists_stray_change hnew.1 hopen
      exact ⟨p, hp.edits hcs hnew.2⟩

/-! ## What can be restored -/

/-- **A restored tree stays one exactly as long as only open goals are grafted on.**  After any
changes of structure with new ids, every node is reached from the root, and the tree can be restored
again from its snapshot, if and only if each accepted graft was on a node with neither rule nor
premises; what is restored is then the tree as it was. -/
theorem restorable_iff (hstart : ofSnapshot root ns = .ok t) (hedits : ∀ c ∈ cs, c.isEdit)
    (hnew : t.UnusedAlong cs) :
    ((∀ id, (t.changes cs).contains id → (t.changes cs).Reaches root id) ↔
      t.Along ClosesOpen cs) ∧
    ((∃ t', ofSnapshot root (t.changes cs).snapshot = .ok t') ↔ t.Along ClosesOpen cs) ∧
    ∀ t', ofSnapshot root (t.changes cs).snapshot = .ok t' →
      t' = { t.changes cs with focus := root, revision := 1 } := by
  obtain ⟨htree, ht⟩ := ofSnapshot_eq_ok_iff.1 hstart
  have hrooted : t.Rooted := ht ▸ htree.rooted
  obtain rfl : (t.changes cs).root = root := by rw [root_changes, ht, root_ofNodes]
  by_cases hopen : t.Along ClosesOpen cs
  · have hkept := hrooted.edits hedits hnew hopen
    refine ⟨iff_of_true hkept.reached hopen, iff_of_true ⟨_, hkept.ofSnapshot_snapshot⟩ hopen,
      fun t' ht' ↦ ?_⟩
    exact (Except.ok.inj (hkept.ofSnapshot_snapshot.symm.trans ht')).symm
  · obtain ⟨p, hp⟩ := hrooted.exists_stray hedits hnew hopen
    have hrefused : ∀ t', ofSnapshot (t.changes cs).root (t.changes cs).snapshot ≠ .ok t' :=
      fun t' ht' ↦ hp.not_isTree (ofSnapshot_eq_ok_iff.1 ht').1
    refine ⟨iff_of_false (fun hall ↦ hp.not_reaches (hall p hp.contains)) hopen,
      iff_of_false ?_ hopen, fun t' ht' ↦ absurd ht' (hrefused t')⟩
    rintro ⟨t', ht'⟩
    exact hrefused t' ht'

/-- A root with a premise but without a rule, which is accepted as a tree. -/
def halfOpen : List Node :=
  [{ id := .ofNat 1, sequent := conjunction, premises := [.ofNat 2] }, .leaf (.ofNat 2) conjunction]

/-- The premise is split, the splitting is taken back, and the premise is closed; the root is left
alone. -/
theorem restorable_below_halfOpen :
    let t := ofNodes (.ofNat 1) halfOpen
    let cs : List Change := [.graft (.ofNat 2) .andIntro [(.ofNat 3, conjunction)],
      .delete (.ofNat 3), .graft (.ofNat 2) .axiomatic []]
    ofSnapshot (.ofNat 1) halfOpen = .ok t ∧ (∀ c ∈ cs, c.isEdit) ∧ t.UnusedAlong cs ∧
      (∀ id, (t.changes cs).contains id → (t.changes cs).Reaches (.ofNat 1) id) ∧
      ∃ t', ofSnapshot (.ofNat 1) (t.changes cs).snapshot = .ok t' := by
  intro t cs
  have hstart : ofSnapshot (.ofNat 1) halfOpen = .ok t := rfl
  have hedits : ∀ c ∈ cs, c.isEdit := by decide
  have hnew : t.UnusedAlong cs := by decide
  have hopen : t.Along ClosesOpen cs := by decide
  obtain ⟨hreached, hrestored, -⟩ := restorable_iff hstart hedits hnew
  exact ⟨hstart, hedits, hnew, hreached.2 hopen, hrestored.2 hopen⟩

/-- A graft on such a root takes the premise away from it: the premise is still stored, nothing
leads to it, and the snapshot is no longer accepted. -/
theorem unreached_of_graft_halfOpen :
    let t := ofNodes (.ofNat 1) halfOpen
    let grown := t.grafted (.ofNat 1) .andIntro [(.ofNat 3, conjunction)]
    ofSnapshot (.ofNat 1) halfOpen = .ok t ∧ t.Unused [.ofNat 3] ∧
      t.graft (.ofNat 1) .andIntro [(.ofNat 3, conjunction)] = .ok grown ∧
      grown.contains (.ofNat 2) ∧ ¬ grown.Reaches (.ofNat 1) (.ofNat 2) ∧
      ofSnapshot (.ofNat 1) grown.snapshot = .error (.disconnected (.ofNat 2)) := by
  intro t grown
  have hstart : ofSnapshot (.ofNat 1) halfOpen = .ok t := rfl
  have hrooted : t.Rooted := (ofSnapshot_eq_ok_iff.1 hstart).1.rooted
  have hunused : t.Unused [.ofNat 3] := by decide
  have hstray : grown.Stray (.ofNat 2) :=
    hrooted.stray_grafted rfl (by decide) hunused
  exact ⟨hstart, hunused, rfl, hstray.contains, hstray.not_reaches, rfl⟩

end ProofTree

end Sequitur
