import Mathlib.Tactic.Tauto
import Sequitur.Proofs.Tree.Walk
import Sequitur.Tree.Delete
import Sequitur.Tree.Pending

/-!
# What each change does to a tree

The operations on a tree, one after the other: when each is accepted, and what the accepted one
leaves of the order, of the stored nodes and of their premises.  Everything that is said about
histories elsewhere starts from these statements, so none of it looks into an operation again.

The ids of new nodes come from outside.  `ProofTree.Unused` is what is expected of them: they differ
from each other and from the ids that are in use.
-/

set_option autoImplicit false

namespace Sequitur

namespace ProofTree

variable {t t' : ProofTree} {a p id target parent : NodeId} {n : Node} {rule : Rule}
  {leaves : List (NodeId × Sequent)} {removed : List NodeId}

/-! ## Stored nodes -/

theorem contains_iff : t.contains id ↔ ∃ n, t.find? id = some n :=
  Option.isSome_iff_exists

theorem premisesOf_eq (h : t.find? id = some n) : t.premisesOf id = n.premises := by
  rw [premisesOf, h]; rfl

/-- A goal is open at an id when the node that is stored there has neither a rule nor premises. -/
theorem isOpenAt_iff :
    t.isOpenAt id ↔ ∃ n, t.find? id = some n ∧ n.rule = none ∧ n.premises = [] := by
  rw [isOpenAt, Option.any_eq_true]
  simp only [Node.isOpen_iff]

theorem contains_of_isOpenAt (h : t.isOpenAt id) : t.contains id := by
  obtain ⟨n, hn, -⟩ := isOpenAt_iff.1 h
  exact contains_iff.2 ⟨n, hn⟩

theorem premisesOf_eq_nil (h : t.contains id = false) : t.premisesOf id = [] := by
  have hnone : t.find? id = none := Option.isSome_eq_false_iff.1 h |> Option.isNone_iff_eq_none.1
  rw [premisesOf, hnone]; rfl

/-! ## A single goal -/

theorem order_seed (goal : Sequent) : (t.seed goal).order = [t.root] := rfl

theorem find?_seed (goal : Sequent) :
    (t.seed goal).find? id = if id = t.root then some (.leaf t.root goal) else none := rfl

/-! ## New leaves -/

/-- Ids that differ from each other and from all that are in use. -/
def Unused (t : ProofTree) (ids : List NodeId) : Prop :=
  ids.Nodup ∧ ∀ id ∈ ids, t.contains id = false

instance (t : ProofTree) (ids : List NodeId) : Decidable (t.Unused ids) :=
  inferInstanceAs (Decidable (_ ∧ _))

/-- What is stored is not new. -/
theorem Unused.notMem {ids : List NodeId} (h : t.Unused ids) (hid : t.contains id) : id ∉ ids := by
  intro hmem
  simp [h.2 id hmem] at hid

theorem root_addLeaves : (t.addLeaves leaves).root = t.root := by
  rw [addLeaves]
  induction leaves generalizing t with
  | nil => rfl
  | cons leaf leaves ih => exact ih

theorem focus_addLeaves : (t.addLeaves leaves).focus = t.focus := by
  rw [addLeaves]
  induction leaves generalizing t with
  | nil => rfl
  | cons leaf leaves ih => exact ih

theorem order_addLeaves : (t.addLeaves leaves).order = t.order ++ leaves.map Prod.fst := by
  rw [addLeaves]
  induction leaves generalizing t with
  | nil => simp
  | cons leaf leaves ih =>
    rw [List.foldl_cons, ih, List.map_cons]
    exact List.append_assoc t.order [leaf.1] (leaves.map Prod.fst)

theorem find?_addLeaves_of_notMem (h : id ∉ leaves.map Prod.fst) :
    (t.addLeaves leaves).find? id = t.find? id := by
  rw [addLeaves]
  induction leaves generalizing t with
  | nil => rfl
  | cons leaf leaves ih =>
    rw [List.map_cons, List.mem_cons, not_or] at h
    rw [List.foldl_cons, ih h.2]
    exact if_neg h.1

theorem find?_addLeaves_of_mem (h : id ∈ leaves.map Prod.fst) :
    ∃ sequent, (id, sequent) ∈ leaves ∧
      (t.addLeaves leaves).find? id = some (.leaf id sequent) := by
  induction leaves generalizing t with
  | nil => simp at h
  | cons leaf leaves ih =>
    by_cases hlater : id ∈ leaves.map Prod.fst
    · obtain ⟨sequent, hmem, hfind⟩ := ih (t := t.insert (.leaf leaf.1 leaf.2)) hlater
      exact ⟨sequent, List.mem_cons_of_mem leaf hmem, hfind⟩
    · have hid : id = leaf.1 := by simpa [hlater] using h
      subst hid
      refine ⟨leaf.2, List.mem_cons_self, ?_⟩
      exact (find?_addLeaves_of_notMem hlater).trans (if_pos rfl)

/-! ## Grafting -/

/-- A graft is accepted on a stored node without a rule. -/
theorem graft_eq_ok_iff :
    t.graft target rule leaves = .ok t' ↔
      (∃ n, t.find? target = some n ∧ n.rule = none) ∧ t' = t.grafted target rule leaves := by
  rw [graft]
  cases hfind : t.find? target with
  | none => simp
  | some n =>
    cases hrule : n.rule with
    | none => simp [hrule, eq_comm]
    | some existing => simp [hrule]

theorem graft_of_unruled (hfind : t.find? target = some n) (hrule : n.rule = none) :
    t.graft target rule leaves = .ok (t.grafted target rule leaves) :=
  graft_eq_ok_iff.2 ⟨⟨n, hfind, hrule⟩, rfl⟩

theorem root_grafted : (t.grafted target rule leaves).root = t.root := root_addLeaves

theorem focus_grafted : (t.grafted target rule leaves).focus = t.focus := focus_addLeaves

theorem order_grafted :
    (t.grafted target rule leaves).order = t.order ++ leaves.map Prod.fst := order_addLeaves

/-- The target is closed. -/
theorem find?_grafted_target (hfind : t.find? target = some n)
    (hunused : t.Unused (leaves.map Prod.fst)) :
    (t.grafted target rule leaves).find? target =
      some (n.close rule (leaves.map Prod.fst)) := by
  have hnew : target ∉ leaves.map Prod.fst := hunused.notMem (contains_iff.2 ⟨n, hfind⟩)
  have h : (t.addLeaves leaves).find? target = some n :=
    (find?_addLeaves_of_notMem hnew).trans hfind
  simp [grafted, modify, h]

/-- The leaves are open nodes. -/
theorem find?_grafted_leaf (rule : Rule) (htarget : t.contains target)
    (hunused : t.Unused (leaves.map Prod.fst)) (hmem : id ∈ leaves.map Prod.fst) :
    ∃ sequent, (id, sequent) ∈ leaves ∧
      (t.grafted target rule leaves).find? id = some (.leaf id sequent) := by
  have hne : id ≠ target := by
    rintro rfl
    exact hunused.notMem htarget hmem
  obtain ⟨sequent, hleaf, hfind⟩ := find?_addLeaves_of_mem (t := t) hmem
  exact ⟨sequent, hleaf, by simp [grafted, modify, hne, hfind]⟩

/-- Each leaf is an open node with its own sequent. -/
theorem find?_grafted_leaf_of_mem (rule : Rule) (htarget : t.contains target)
    (hunused : t.Unused (leaves.map Prod.fst)) {leaf : NodeId × Sequent} (hleaf : leaf ∈ leaves) :
    (t.grafted target rule leaves).find? leaf.1 = some (.leaf leaf.1 leaf.2) := by
  obtain ⟨sequent, hmem, hfind⟩ :=
    find?_grafted_leaf rule htarget hunused (List.mem_map_of_mem hleaf)
  -- no other leaf has this id
  have hsame : leaf = (leaf.1, sequent) := List.inj_on_of_nodup_map hunused.1 hleaf hmem rfl
  rw [hfind, congrArg Prod.snd hsame]

/-- All other nodes stay as they are. -/
theorem find?_grafted_of_ne (hne : id ≠ target) (hnew : id ∉ leaves.map Prod.fst) :
    (t.grafted target rule leaves).find? id = t.find? id := by
  simp [grafted, modify, hne, find?_addLeaves_of_notMem hnew]

/-- What is stored after a graft is the closed target, a leaf, or was stored before. -/
theorem find?_grafted_cases {m : Node} (hfind : t.find? target = some n)
    (hunused : t.Unused (leaves.map Prod.fst))
    (h : (t.grafted target rule leaves).find? id = some m) :
    (id = target ∧ m = n.close rule (leaves.map Prod.fst)) ∨
      (∃ sequent, m = .leaf id sequent) ∨ t.find? id = some m := by
  by_cases hid : id = target
  · subst hid
    rw [find?_grafted_target hfind hunused] at h
    exact .inl ⟨rfl, (Option.some.inj h).symm⟩
  · by_cases hmem : id ∈ leaves.map Prod.fst
    · obtain ⟨sequent, -, hleaf⟩ :=
        find?_grafted_leaf rule (contains_iff.2 ⟨n, hfind⟩) hunused hmem
      rw [hleaf] at h
      exact .inr (.inl ⟨sequent, (Option.some.inj h).symm⟩)
    · rw [find?_grafted_of_ne hid hmem] at h
      exact .inr (.inr h)

theorem contains_grafted (htarget : t.contains target) (hunused : t.Unused (leaves.map Prod.fst)) :
    (t.grafted target rule leaves).contains id ↔
      t.contains id ∨ id ∈ leaves.map Prod.fst := by
  obtain ⟨n, hn⟩ := contains_iff.1 htarget
  by_cases hmem : id ∈ leaves.map Prod.fst
  · obtain ⟨sequent, -, hfind⟩ := find?_grafted_leaf rule htarget hunused hmem
    simp [contains, hfind, hmem]
  · by_cases hid : id = target
    · subst hid
      simp [contains, find?_grafted_target hn hunused, hn]
    · simp only [contains, find?_grafted_of_ne hid hmem, hmem, or_false]

/-- The leaves are the premises of the target, and no other premises change. -/
theorem premisesOf_grafted (htarget : t.contains target)
    (hunused : t.Unused (leaves.map Prod.fst)) :
    (t.grafted target rule leaves).premisesOf id =
      if id = target then leaves.map Prod.fst else t.premisesOf id := by
  obtain ⟨n, hn⟩ := contains_iff.1 htarget
  by_cases hid : id = target
  · subst hid
    rw [if_pos rfl, premisesOf_eq (find?_grafted_target hn hunused)]
    rfl
  · rw [if_neg hid]
    by_cases hmem : id ∈ leaves.map Prod.fst
    · obtain ⟨sequent, -, hfind⟩ := find?_grafted_leaf rule htarget hunused hmem
      rw [premisesOf_eq hfind, premisesOf_eq_nil (hunused.2 id hmem)]
      rfl
    · rw [premisesOf, premisesOf, find?_grafted_of_ne hid hmem]

/-- The steps after a graft: from the target to the leaves, and the old ones from other nodes. -/
theorem lists_grafted (htarget : t.contains target) (hunused : t.Unused (leaves.map Prod.fst)) :
    (t.grafted target rule leaves).Lists a p ↔
      (a = target ∧ p ∈ leaves.map Prod.fst) ∨ (a ≠ target ∧ t.Lists a p) := by
  rw [Lists, Lists, premisesOf_grafted htarget hunused]
  by_cases ha : a = target
  · simp [ha]
  · simp [ha]

/-- The steps after a graft on a node that listed nothing: from the target to the leaves, and all
old ones. -/
theorem lists_grafted_of_bare (htarget : t.contains target)
    (hunused : t.Unused (leaves.map Prod.fst)) (hbare : t.premisesOf target = []) :
    (t.grafted target rule leaves).Lists a p ↔
      (a = target ∧ p ∈ leaves.map Prod.fst) ∨ t.Lists a p := by
  have hne : t.Lists a p → a ≠ target := by
    rintro hp rfl
    simp [Lists, hbare] at hp
  rw [lists_grafted htarget hunused, and_iff_right_of_imp hne]

/-! ## Deleting -/

/-- A deletion is accepted for a stored node that is neither the root nor in focus and that some
node lists. -/
theorem delete_eq_ok_iff :
    t.delete id = .ok (removed, t') ↔
      id ≠ t.root ∧ id ≠ t.focus ∧ t.contains id ∧
        ∃ parent, t.parent? id = some parent ∧ removed = t.descendants parent ∧
          t' = t.reopen parent removed := by
  rw [delete]
  by_cases hroot : id = t.root
  · simp [hroot]
  by_cases hfocus : id = t.focus
  · rw [if_neg hroot, if_pos hfocus]
    simp [hfocus]
  cases hstored : t.contains id with
  | false => simp [hroot, hfocus]
  | true =>
    cases hparent : t.parent? id with
    | none => simp [hroot, hfocus]
    | some parent => grind

theorem mem_nodes_iff : n ∈ t.nodes ↔ ∃ id ∈ t.order, t.find? id = some n :=
  List.mem_filterMap

/-- The parent of an id lists it. -/
theorem lists_of_parent? (hid : ∀ id n, t.find? id = some n → n.id = id)
    (h : t.parent? id = some parent) : t.Lists parent id := by
  rw [parent?, Option.map_eq_some_iff] at h
  obtain ⟨n, hn, rfl⟩ := h
  obtain ⟨i, -, hi⟩ := mem_nodes_iff.1 (List.mem_of_find?_eq_some hn)
  have hpremise : id ∈ n.premises := by simpa using List.find?_some hn
  exact lists_iff_find?.2 ⟨n, hid i n hi ▸ hi, hpremise⟩

/-- In a rooted collection the parent of an id is the node that lists it. -/
theorem Rooted.parent?_eq_some_iff (h : t.Rooted) :
    t.parent? id = some a ↔ t.Lists a id := by
  refine ⟨lists_of_parent? h.id_eq, fun ha ↦ ?_⟩
  obtain ⟨n, hn, hid⟩ := lists_iff_find?.1 ha
  cases hparent : t.parent? id with
  | some b => rw [h.parent_unique (lists_of_parent? h.id_eq hparent) ha]
  | none =>
    have hnode : n ∈ t.nodes := mem_nodes_iff.2 ⟨a, (h.mem_order a).2 ha.contains, hn⟩
    rw [parent?, Option.map_eq_none_iff, List.find?_eq_none] at hparent
    exact absurd hid (by simpa using hparent n hnode)

theorem root_reopen : (t.reopen parent removed).root = t.root := rfl

theorem order_reopen :
    (t.reopen parent removed).order = t.order.filter fun id ↦ id ∉ removed := rfl

theorem focus_reopen :
    (t.reopen parent removed).focus = if t.focus ∈ removed then parent else t.focus := rfl

theorem find?_reopen :
    (t.reopen parent removed).find? id =
      if id ∈ removed then none
      else if id = parent then (t.find? id).map .reopen else t.find? id := by
  by_cases hid : id = parent <;> by_cases hmem : id ∈ removed <;>
    simp_all [reopen, modify, remove]

/-- What is stored after a deletion was stored before, up to the reopening of one node. -/
theorem find?_reopen_cases {m : Node} (h : (t.reopen parent removed).find? id = some m) :
    ∃ n, t.find? id = some n ∧ (m = n.reopen ∨ m = n) := by
  rw [find?_reopen] at h
  split at h
  · cases h
  · split at h
    · obtain ⟨n, hn, rfl⟩ := Option.map_eq_some_iff.1 h
      exact ⟨n, hn, .inl rfl⟩
    · exact ⟨m, h, .inr rfl⟩

theorem contains_reopen :
    (t.reopen parent removed).contains id ↔ t.contains id ∧ id ∉ removed := by
  rw [contains, contains, find?_reopen]
  by_cases hmem : id ∈ removed
  · simp [hmem]
  · by_cases hid : id = parent <;> simp_all

theorem premisesOf_reopen :
    (t.reopen parent removed).premisesOf id =
      if id ∈ removed ∨ id = parent then [] else t.premisesOf id := by
  rw [premisesOf, premisesOf, find?_reopen]
  by_cases hmem : id ∈ removed
  · simp [hmem]
  · by_cases hid : id = parent
    · subst hid
      cases t.find? id <;> simp [hmem, Node.reopen]
    · simp [hmem, hid]

/-- The steps after a deletion: the old ones from nodes that stay, except those from the parent. -/
theorem lists_reopen :
    (t.reopen parent removed).Lists a p ↔ t.Lists a p ∧ a ∉ removed ∧ a ≠ parent := by
  rw [Lists, Lists, premisesOf_reopen]
  by_cases ha : a ∈ removed ∨ a = parent
  · rw [if_pos ha]
    simp only [List.not_mem_nil, false_iff]
    tauto
  · rw [if_neg ha]
    tauto

/-! ## Moving the view -/

theorem setFocus_eq_ok_iff :
    t.setFocus id = .ok t' ↔ t.contains id ∧ t' = { t with focus := id } := by
  rw [setFocus]
  cases t.contains id <;> simp [eq_comm]

/-! ## Putting in an answer -/

/-- An answer that is put into a tree is put in by a graft. -/
theorem graft_of_commit {pending : Pending} (h : t.commit pending leaves = .ok t') :
    t.graft pending.target pending.application.rule leaves = .ok t' := by
  rw [commit] at h
  split at h
  · split at h
    · cases h
    · rename_i hgraft
      cases h
      exact hgraft
  · cases h

end ProofTree

end Sequitur
