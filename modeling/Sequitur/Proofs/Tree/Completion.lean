import Sequitur.Proofs.Tree.Growth
import Sequitur.Tree.Snapshot

/-!
# Completing a proof and opening it again

A complete root leaves nothing to be done: no application can be prepared
(`Rooted.isRootComplete_of_prepare`), so a proof is completed only once as long as nothing is
deleted.  An accepted deletion always opens the proof again (`Grown.isRootComplete_delete`), since
the node to which the deleted rule was applied is left without one.

The report of a proof is there exactly when the root is complete and lists the nodes as they are:
`report?_eq_some_iff`, `Rooted.exists_report`, `Rooted.covers`.
-/

set_option autoImplicit false

namespace Sequitur

/-- A node of a complete proof as a node of a tree. -/
def ClosedNode.toNode (c : ClosedNode) : Node where
  id := c.id
  sequent := c.sequent
  rule := some c.rule
  premises := c.premises

/-- A report lists the nodes of a tree as they are, each of them once, and no others. -/
structure TreeReport.Covers (r : TreeReport) (t : ProofTree) : Prop where
  /-- The root is that of the tree. -/
  root_eq : r.root = t.root
  /-- The nodes are those of the tree, with their rules. -/
  nodes_eq : r.nodes.map ClosedNode.toNode = t.nodes
  /-- No node is listed twice. -/
  ids_nodup : (r.nodes.map ClosedNode.id).Nodup
  /-- Every stored node is listed, and only these. -/
  mem_ids : ∀ id, id ∈ r.nodes.map ClosedNode.id ↔ t.contains id

namespace ProofTree

variable {t t' : ProofTree} {id target : NodeId} {removed : List NodeId}

/-! ## Opening -/

/-- An application is prepared for a goal that is still open, so the root is not complete. -/
theorem Rooted.isRootComplete_of_prepare (h : t.Rooted) {bindings : Bindings} {pending : Pending}
    (hprepare : t.prepare target bindings = .ok pending) : t.isRootComplete = false := by
  rw [prepare] at hprepare
  split at hprepare
  · cases hprepare
  · rename_i n hn
    split at hprepare
    · rename_i hopen
      refine Bool.eq_false_iff.2 fun hcomplete ↦ ?_
      have hrule := h.isRootComplete_iff.1 hcomplete target n hn
      simp [(Node.isOpen_iff.1 hopen).1] at hrule
    · cases hprepare

/-- **An accepted deletion leaves the root incomplete.** -/
theorem Grown.isRootComplete_delete (h : t.Grown) (hdelete : t.delete id = .ok (removed, t')) :
    t'.isRootComplete = false := by
  have hrooted := (h.delete hdelete).toRooted
  obtain ⟨-, -, -, parent, hparent, rfl, rfl⟩ := delete_eq_ok_iff.1 hdelete
  obtain ⟨n, hn, -⟩ := lists_iff_find?.1 (lists_of_parent? h.id_eq hparent)
  have hstays : parent ∉ t.descendants parent :=
    h.parent_notMem_removed fun _ ↦ h.mem_descendants
  have hfind : (t.reopen parent (t.descendants parent)).find? parent = some n.reopen := by
    rw [find?_reopen, if_neg hstays, if_pos rfl, hn]
    rfl
  refine Bool.eq_false_iff.2 fun hcomplete ↦ ?_
  have hrule := hrooted.isRootComplete_iff.1 hcomplete parent n.reopen hfind
  simp [Node.reopen] at hrule

/-- Moving the view leaves the root as complete as it was. -/
theorem Grown.isRootComplete_focus (h : t.Grown) (hid : t.contains id) :
    ({ t with focus := id } : ProofTree).isRootComplete = t.isRootComplete := by
  refine Bool.eq_iff_iff.2 ?_
  rw [(h.focus hid).isRootComplete_iff, h.isRootComplete_iff]

/-! ## Reporting -/

theorem closed?_eq_some_iff {n : Node} {c : ClosedNode} : n.closed? = some c ↔ c.toNode = n := by
  obtain ⟨id, sequent, rule, premises⟩ := n
  obtain ⟨id', sequent', rule', premises'⟩ := c
  cases rule <;> simp [Node.closed?, ClosedNode.toNode]
  tauto

theorem mapM_closed?_eq_some_iff {ns : List Node} {cs : List ClosedNode} :
    ns.mapM Node.closed? = some cs ↔ cs.map ClosedNode.toNode = ns := by
  induction ns generalizing cs with
  | nil => cases cs <;> simp
  | cons n ns ih =>
    rw [List.mapM_cons]
    constructor
    · intro h
      obtain ⟨c, hc, cs', hcs, rfl⟩ : ∃ c, n.closed? = some c ∧
          ∃ cs', ns.mapM Node.closed? = some cs' ∧ c :: cs' = cs := by
        simpa [Option.bind_eq_some_iff] using h
      rw [List.map_cons, closed?_eq_some_iff.1 hc, ih.1 hcs]
    · intro h
      obtain ⟨c, cs', rfl, hc, hcs⟩ := List.map_eq_cons_iff.1 h
      rw [closed?_eq_some_iff.2 hc, ih.2 hcs]
      rfl

/-- **A report is there when the root is complete**, and it consists of the root and the nodes. -/
theorem report?_eq_some_iff {r : TreeReport} :
    t.report? = some r ↔
      t.isRootComplete = true ∧ r.root = t.root ∧ r.nodes.map ClosedNode.toNode = t.nodes := by
  rw [report?, ← mapM_closed?_eq_some_iff]
  split
  · next hcomplete =>
    obtain ⟨root, nodes⟩ := r
    simp only [Option.map_eq_some_iff, TreeReport.mk.injEq, hcomplete, true_and]
    grind
  · next hcomplete => simp [hcomplete]

/-- In a rooted collection nothing but an incomplete root stands in the way of a report. -/
theorem Rooted.exists_report (h : t.Rooted) (hcomplete : t.isRootComplete = true) :
    ∃ r, t.report? = some r := by
  have hruled : ∀ n ∈ t.nodes, n.rule.isSome := by
    intro n hn
    obtain ⟨id, -, hid⟩ := mem_nodes_iff.1 hn
    exact h.isRootComplete_iff.1 hcomplete id n hid
  have hall : ∀ ns : List Node, (∀ n ∈ ns, n.rule.isSome) →
      ∃ cs : List ClosedNode, cs.map ClosedNode.toNode = ns := by
    intro ns hns
    induction ns with
    | nil => exact ⟨[], rfl⟩
    | cons n ns ih =>
      obtain ⟨hn, hns⟩ := List.forall_mem_cons.1 hns
      obtain ⟨cs, hcs⟩ := ih hns
      obtain ⟨rule, hrule⟩ := Option.isSome_iff_exists.1 hn
      refine ⟨⟨n.id, n.sequent, rule, n.premises⟩ :: cs, ?_⟩
      rw [List.map_cons, hcs, ClosedNode.toNode, ← hrule]
  obtain ⟨cs, hcs⟩ := hall t.nodes hruled
  exact ⟨⟨t.root, cs⟩, report?_eq_some_iff.2 ⟨hcomplete, rfl, hcs⟩⟩

/-- The ids in a report are the ids that are stored, in their order, each of them once. -/
theorem Rooted.map_id_report (h : t.Rooted) {r : TreeReport} (hr : t.report? = some r) :
    r.nodes.map ClosedNode.id = t.order := by
  rw [← h.map_id_nodes, ← (report?_eq_some_iff.1 hr).2.2, List.map_map]
  rfl

/-- In a rooted collection a report lists the nodes as they are. -/
theorem Rooted.covers (h : t.Rooted) {r : TreeReport} (hr : t.report? = some r) : r.Covers t where
  root_eq := (report?_eq_some_iff.1 hr).2.1
  nodes_eq := (report?_eq_some_iff.1 hr).2.2
  ids_nodup := h.map_id_report hr ▸ h.order_nodup
  mem_ids := fun id ↦ by rw [h.map_id_report hr, h.mem_order]

end ProofTree

end Sequitur
