import Sequitur.Proofs.Tree.Completion
import Sequitur.Proofs.Tree.History

/-!
# Three ways to see that a proof is complete

Completeness is asked in three ways, each with a walk of its own: `ProofTree.isComplete` follows
the premises and stops at the first node without a rule, `ProofTree.openGoals` goes through all
descendants, and `ProofTree.report?` passes over the nodes in the order in which they were added,
and fails at any of them that has no rule.

`completeness_agrees` says that they agree on every tree with a history.  The first two do since a
node without a rule has no premises, so that it is open; the last does since the root reaches every
node.  The order in which nodes were added is then also an order in which a proof can be read from
its root: `TreeReport.InOrder`.
-/

set_option autoImplicit false

namespace Sequitur

/-- A report lists the nodes of a tree as they are and in the order in which they were added, the
root first and every node before its premises. -/
structure TreeReport.InOrder (r : TreeReport) (t : ProofTree) : Prop extends r.Covers t where
  /-- The order is that in which the nodes were added. -/
  ids_eq : r.nodes.map ClosedNode.id = t.order
  /-- The root is first. -/
  head?_ids : (r.nodes.map ClosedNode.id).head? = some t.root
  /-- A premise stands behind the node that lists it. -/
  listed_later : ∀ c ∈ r.nodes, ∀ p ∈ c.premises, [c.id, p].Sublist (r.nodes.map ClosedNode.id)
  /-- Each node is the one that is stored under its id. -/
  find?_id : ∀ c ∈ r.nodes, t.find? c.id = some c.toNode

namespace ProofTree

variable {t : ProofTree} {root id : NodeId} {goal : Sequent}

/-! ## Open goals -/

/-- A stored node is open when it has no rule. -/
theorem Grown.isOpenAt_iff (h : t.Grown) (hid : t.contains id) :
    t.isOpenAt id = true ↔ ¬ t.Ruled id := by
  obtain ⟨n, hn⟩ := contains_iff.1 hid
  have hruled : t.Ruled id ↔ n.rule.isSome := by simp [Ruled, hn]
  have hopen : t.isOpenAt id = true ↔ n.rule = none ∧ n.premises = [] := by
    simp [ProofTree.isOpenAt_iff, hn]
  rw [hruled, hopen, Option.not_isSome_iff_eq_none]
  exact ⟨And.left, fun hrule ↦ ⟨hrule, h.premises_of_unruled id n hn hrule⟩⟩

/-- **No goal is open below a node when everything it reaches has a rule.** -/
theorem Grown.openGoals_eq_nil_iff (h : t.Grown) (hid : t.contains id) :
    t.openGoals id = [] ↔ ∀ b, t.Reaches id b → t.Ruled b := by
  rw [openGoals, List.filter_eq_nil_iff]
  constructor
  · intro hnone b hb
    have hclosed := hnone b (h.reaches_iff.1 hb)
    rwa [h.isOpenAt_iff (h.contains_of_reaches hid hb), not_not] at hclosed
  · intro hall b hb
    have hreach := h.reaches_iff.2 hb
    rw [h.isOpenAt_iff (h.contains_of_reaches hid hreach), not_not]
    exact hall b hreach

/-! ## The report -/

/-- **The report of a grown tree lists its nodes in order.** -/
theorem Grown.inOrder (h : t.Grown) {r : TreeReport} (hr : t.report? = some r) : r.InOrder t := by
  have hids := h.map_id_report hr
  have hfind : ∀ c ∈ r.nodes, t.find? c.id = some c.toNode := by
    intro c hc
    have hmem : c.toNode ∈ t.nodes :=
      (report?_eq_some_iff.1 hr).2.2 ▸ List.mem_map_of_mem hc
    obtain ⟨id, -, hid⟩ := mem_nodes_iff.1 hmem
    obtain rfl : c.id = id := h.id_eq id _ hid
    exact hid
  exact {
    h.covers hr with
    ids_eq := hids
    head?_ids := hids ▸ h.head_order
    listed_later := fun c hc p hp ↦
      hids ▸ h.listed_later c.id p (lists_iff_find?.2 ⟨_, hfind c hc, hp⟩)
    find?_id := hfind }

/-- **The three ways to see that a proof is complete agree.**  Whatever was done to a tree, a stored
node is complete when it and all that lies below it has a rule, and just then no goal is open in its
subtree.  A report can be made when the root is complete, and it then lists every stored node once
and as it is, the root first and every node before its premises. -/
theorem completeness_agrees (h : Reachable root goal t) :
    (∀ id, t.contains id →
      (t.isComplete id = true ↔ ∀ b, t.Reaches id b → t.Ruled b) ∧
      (t.isComplete id = true ↔ t.openGoals id = [])) ∧
    ((∃ r, t.report? = some r) ↔ t.isComplete t.root = true) ∧
    ∀ r, t.report? = some r → r.root = root ∧ r.InOrder t := by
  have hgrown := h.grown
  refine ⟨fun id hid ↦ ⟨hgrown.isComplete_iff hid, ?_⟩, ⟨?_, hgrown.exists_report⟩, fun r hr ↦ ?_⟩
  · rw [hgrown.isComplete_iff hid, hgrown.openGoals_eq_nil_iff hid]
  · rintro ⟨r, hr⟩
    exact (report?_eq_some_iff.1 hr).1
  · exact ⟨(report?_eq_some_iff.1 hr).2.1.trans h.root_eq, hgrown.inOrder hr⟩

/-- A conjunction is split and both parts are closed, the right one before the left one. -/
def rightFirst : List Change :=
  [.graft (.ofNat 1) .andIntro [(.ofNat 3, conjunction), (.ofNat 2, conjunction)],
    .graft (.ofNat 2) .axiomatic [], .graft (.ofNat 3) .axiomatic []]

theorem completeness_agrees_rightFirst :
    let start := ProofTree.new (.ofNat 1) conjunction
    let half := start.changes (rightFirst.take 2)
    let t := start.changes rightFirst
    Reachable (.ofNat 1) conjunction half ∧ half.isComplete (.ofNat 2) = true ∧
      half.openGoals (.ofNat 1) = [.ofNat 3] ∧ half.isComplete (.ofNat 1) = false ∧
      Reachable (.ofNat 1) conjunction t ∧
      ∃ r, t.report? = some r ∧ r.nodes.map ClosedNode.id = [.ofNat 1, .ofNat 3, .ofNat 2] ∧
        r.InOrder t := by
  intro start half t
  have hhalf : Reachable (.ofNat 1) conjunction half := Reachable.new.changes (by decide)
  have h : Reachable (.ofNat 1) conjunction t := Reachable.new.changes (by decide)
  have hgoals : half.openGoals (.ofNat 1) = [.ofNat 3] := by decide
  have hopen : half.isComplete (.ofNat 1) = false := by
    rw [Bool.eq_false_iff, ne_eq, ((completeness_agrees hhalf).1 _ (by decide)).2, hgoals]
    decide
  have hcomplete : t.isComplete t.root = true :=
    ((completeness_agrees h).1 t.root (by decide)).2.2 (by decide)
  obtain ⟨r, hr⟩ := (completeness_agrees h).2.1.2 hcomplete
  have hinOrder := ((completeness_agrees h).2.2 r hr).2
  exact ⟨hhalf, ((completeness_agrees hhalf).1 _ (by decide)).2.2 (by decide), hgoals, hopen, h, r,
    hr, hinOrder.ids_eq.trans (by decide), hinOrder⟩

end ProofTree

end Sequitur
