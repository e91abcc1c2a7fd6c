import Sequitur.Proofs.Tree.Forest

/-!
# What grafting and deleting keep

Both operations that change the structure of a tree keep it rooted, for opposite reasons.  A graft
adds leaves under a node that listed nothing, so no premise gets a second parent and none is lost
(`Rooted.grafted`).  A deletion takes away all that a node stands over, so nothing that stays loses
a premise or its way up (`Rooted.reopen`).  What they keep of any forest, `ProofTree.Forest` has;
what is added here are the ways down from the root.

A tree that began as a single goal has more to it than being rooted: `ProofTree.Grown` adds where
the root and the focus are, that premises were added after the node that lists them, and that a node
without a rule lists none.  The last is what makes grafting harmless, which looks only at the rule.
-/

set_option autoImplicit false

namespace Sequitur

namespace ProofTree

variable {t t' : ProofTree} {id target parent : NodeId} {rule : Rule}
  {leaves : List (NodeId × Sequent)} {removed : List NodeId}

namespace Rooted

/-! ## Grafting -/

section Grafted

variable (h : t.Rooted) (htarget : t.contains target) (hbare : t.premisesOf target = [])
  (hunused : t.Unused (leaves.map Prod.fst))

include h hunused

theorem nodup_order_grafted : (t.grafted target rule leaves).order.Nodup := by
  rw [order_grafted, List.nodup_append']
  exact ⟨h.order_nodup, hunused.1,
    fun id hid ↦ hunused.notMem ((h.mem_order id).1 hid)⟩

include htarget

theorem premises_nodup_grafted (id : NodeId) :
    ((t.grafted target rule leaves).premisesOf id).Nodup := by
  rw [premisesOf_grafted htarget hunused]
  split
  · exact hunused.1
  · exact h.premises_nodup id

include hbare

/-- The old ways down remain, and one step more leads to the leaves. -/
theorem reached_grafted (hid : (t.grafted target rule leaves).contains id) :
    (t.grafted target rule leaves).Reaches (t.grafted target rule leaves).root id := by
  have hlists : ∀ a p, (t.grafted target rule leaves).Lists a p ↔
      (a = target ∧ p ∈ leaves.map Prod.fst) ∨ t.Lists a p :=
    fun _ _ ↦ lists_grafted_of_bare htarget hunused hbare
  have hold : ∀ id, t.contains id → (t.grafted target rule leaves).Reaches t.root id :=
    fun id hid ↦ Relation.ReflTransGen.mono (fun a p hp ↦ (hlists a p).2 (.inr hp)) _ _
      (h.reached id hid)
  rw [root_grafted]
  rcases (contains_grafted htarget hunused).1 hid with hid | hnew
  · exact hold id hid
  · exact (hold target htarget).tail ((hlists target id).2 (.inl ⟨rfl, hnew⟩))

/-- **A graft on a node that lists nothing keeps a collection rooted.** -/
theorem grafted : (t.grafted target rule leaves).Rooted := by
  have hforest : (t.grafted target rule leaves).Forest := h.forest.grafted htarget hunused
  have horder : (t.grafted target rule leaves).order.Nodup := h.nodup_order_grafted hunused
  exact {
    id_eq := fun id m hm ↦ by
      obtain ⟨n, hn⟩ := contains_iff.1 htarget
      rcases find?_grafted_cases hn hunused hm with ⟨rfl, rfl⟩ | ⟨sequent, rfl⟩ | hm
      · exact h.id_eq id n hn
      · rfl
      · exact h.id_eq id m hm
    order_nodup := horder
    mem_order := hforest.mem_order
    contains_root := hforest.contains_root
    contains_premise := hforest.contains_premise
    count_premises := fun _ hid ↦
      count_premises_of_parent_unique horder hforest.mem_order hforest.root_unlisted
        (h.premises_nodup_grafted htarget hunused) hforest.parent_unique
        (fun _ ↦ h.reached_grafted htarget hbare hunused) hid
    reached := fun _ ↦ h.reached_grafted htarget hbare hunused }

end Grafted

/-! ## Reopening -/

section Reopen

variable (h : t.Rooted) (hremoved : ∀ id, id ∈ removed ↔ t.Over parent id)

include h

theorem premises_nodup_reopen (id : NodeId) :
    ((t.reopen parent removed).premisesOf id).Nodup := by
  rw [premisesOf_reopen]
  split
  · exact List.nodup_nil
  · exact h.premises_nodup id

include hremoved

theorem parent_notMem_removed : parent ∉ removed := fun hmem ↦
  h.acyclic parent ((hremoved parent).1 hmem)

/-- A way down to a node that stays is made of nodes that stay, and does not lead through the
parent. -/
theorem reached_reopen (hid : (t.reopen parent removed).contains id) :
    (t.reopen parent removed).Reaches t.root id := by
  obtain ⟨hstored, hstays⟩ := contains_reopen.1 hid
  have hreach := h.reached id hstored
  clear hid hstored
  induction hreach with
  | refl => exact .refl
  | @tail b c _ hbc ih =>
    have hb : b ∉ removed := fun hmem ↦ hstays ((hremoved c).2 (((hremoved b).1 hmem).tail hbc))
    have hne : b ≠ parent := fun hb ↦ hstays ((hremoved c).2 (.single (hb ▸ hbc)))
    exact (ih hb).tail (lists_reopen.2 ⟨hbc, hb, hne⟩)

/-- **Reopening a node keeps a collection rooted**, when what is removed is what the node stands
over. -/
theorem reopen : (t.reopen parent removed).Rooted := by
  have hforest : (t.reopen parent removed).Forest := h.forest.reopen hremoved
  have horder : (t.reopen parent removed).order.Nodup := h.order_nodup.filter _
  exact {
    id_eq := fun id m hm ↦ by
      obtain ⟨n, hn, rfl | rfl⟩ := find?_reopen_cases hm
      · exact h.id_eq id n hn
      · exact h.id_eq id m hn
    order_nodup := horder
    mem_order := hforest.mem_order
    contains_root := hforest.contains_root
    contains_premise := hforest.contains_premise
    count_premises := fun _ hid ↦
      count_premises_of_parent_unique horder hforest.mem_order hforest.root_unlisted
        h.premises_nodup_reopen hforest.parent_unique (fun _ ↦ h.reached_reopen hremoved) hid
    reached := fun _ ↦ h.reached_reopen hremoved }

end Reopen

end Rooted

/-! ## Trees that began as a single goal -/

/-- A rooted collection whose root is first, whose focus is stored, in which premises were added
after the node that lists them, and whose nodes without a rule list nothing. -/
structure Grown (t : ProofTree) : Prop extends Rooted t where
  /-- The root is first in the order. -/
  head_order : t.order.head? = some t.root
  /-- The focus is stored. -/
  contains_focus : t.contains t.focus
  /-- A premise stands behind the node that lists it. -/
  listed_later : ∀ a p, t.Lists a p → [a, p].Sublist t.order
  /-- Without a rule there are no premises. -/
  premises_of_unruled : ∀ id n, t.find? id = some n → n.rule = none → n.premises = []

/-- A tree that has just been started. -/
theorem grown_seed (t : ProofTree) (goal : Sequent) : (t.seed goal).Grown := by
  have hfind : ∀ id n, (t.seed goal).find? id = some n → id = t.root ∧ n = .leaf t.root goal := by
    intro id n hn
    rw [find?_seed] at hn
    split at hn
    · exact ⟨‹_›, (Option.some.inj hn).symm⟩
    · cases hn
  have hcontains : ∀ id, (t.seed goal).contains id ↔ id = t.root := by
    intro id
    rw [contains, find?_seed]
    by_cases hid : id = t.root <;> simp [hid]
  have hlists : ∀ a p, ¬ (t.seed goal).Lists a p := by
    intro a p h
    obtain ⟨n, hn, hp⟩ := lists_iff_find?.1 h
    obtain ⟨-, rfl⟩ := hfind a n hn
    simp [Node.leaf] at hp
  have hmem : ∀ id, id ∈ (t.seed goal).order ↔ (t.seed goal).contains id := fun id ↦ by
    rw [hcontains, order_seed, List.mem_singleton]
  have hreached : ∀ id, (t.seed goal).contains id → (t.seed goal).Reaches t.root id :=
    fun id hid ↦ by rw [(hcontains id).1 hid]; exact .refl
  exact {
    id_eq := fun id n hn ↦ by obtain ⟨rfl, rfl⟩ := hfind id n hn; rfl
    order_nodup := List.nodup_singleton _
    mem_order := hmem
    contains_root := (hcontains _).2 rfl
    contains_premise := fun a p h ↦ absurd h (hlists a p)
    count_premises := fun id hid ↦
      count_premises_of_parent_unique (List.nodup_singleton _) hmem (fun a ↦ hlists a _)
        (fun a ↦ by rw [List.eq_nil_iff_forall_not_mem.2 (hlists a)]; exact List.nodup_nil)
        (fun a _ p h ↦ absurd h (hlists a p)) hreached hid
    reached := hreached
    head_order := rfl
    contains_focus := (hcontains _).2 rfl
    listed_later := fun a p h ↦ absurd h (hlists a p)
    premises_of_unruled := fun id n hn _ ↦ by obtain ⟨-, rfl⟩ := hfind id n hn; rfl }

/-- The view may be moved to any stored node. -/
theorem Grown.focus (h : t.Grown) (hid : t.contains id) :
    ({ t with focus := id } : ProofTree).Grown :=
  { h with contains_focus := hid }

/-- **Grafting keeps the shape of a grown tree.** -/
theorem Grown.graft (h : t.Grown) (hgraft : t.graft target rule leaves = .ok t')
    (hunused : t.Unused (leaves.map Prod.fst)) : t'.Grown := by
  obtain ⟨⟨n, hn, hrule⟩, rfl⟩ := graft_eq_ok_iff.1 hgraft
  have htarget : t.contains target := contains_iff.2 ⟨n, hn⟩
  have hbare : t.premisesOf target = [] :=
    (premisesOf_eq hn).trans (h.premises_of_unruled target n hn hrule)
  exact {
    h.toRooted.grafted htarget hbare hunused with
    head_order := by
      rw [order_grafted, root_grafted, List.head?_append, h.head_order]
      rfl
    contains_focus := by
      rw [focus_grafted, contains_grafted htarget hunused]
      exact .inl h.contains_focus
    listed_later := fun a p hp ↦ by
      rw [order_grafted]
      rcases (lists_grafted_of_bare htarget hunused hbare).1 hp with ⟨rfl, hnew⟩ | hp
      · exact List.Sublist.append (List.singleton_sublist.2 ((h.mem_order a).2 htarget))
          (List.singleton_sublist.2 hnew)
      · exact (h.listed_later a p hp).trans (List.sublist_append_left _ _)
    premises_of_unruled := fun id m hm hrule ↦ by
      rcases find?_grafted_cases hn hunused hm with ⟨rfl, rfl⟩ | ⟨sequent, rfl⟩ | hm
      · cases hrule
      · rfl
      · exact h.premises_of_unruled id m hm hrule }

/-- **Deleting keeps the shape of a grown tree.** -/
theorem Grown.delete (h : t.Grown) (hdelete : t.delete id = .ok (removed, t')) : t'.Grown := by
  obtain ⟨-, -, -, parent, hparent, rfl, rfl⟩ := delete_eq_ok_iff.1 hdelete
  have hremoved : ∀ id, id ∈ t.descendants parent ↔ t.Over parent id := fun _ ↦ h.mem_descendants
  have hrooted := h.toRooted.reopen hremoved
  exact {
    hrooted with
    head_order := by
      obtain ⟨rest, hrest⟩ := List.head?_eq_some_iff.1 h.head_order
      have hroot : t.root ∉ t.descendants parent := h.forest.root_notMem_removed hremoved
      rw [order_reopen, List.head?_filter, hrest, List.find?_cons_of_pos (by simpa using hroot),
        root_reopen]
    contains_focus := by
      rw [focus_reopen]
      split
      · exact contains_reopen.2 ⟨(lists_of_parent? h.id_eq hparent).contains,
          h.parent_notMem_removed hremoved⟩
      · exact contains_reopen.2 ⟨h.contains_focus, ‹_›⟩
    listed_later := fun a p hp ↦ by
      have hkept : ∀ id, (t.reopen parent (t.descendants parent)).contains id →
          id ∉ t.descendants parent := fun _ hid ↦ (contains_reopen.1 hid).2
      have hfilter := (h.listed_later a p (lists_reopen.1 hp).1).filter
        fun id ↦ id ∉ t.descendants parent
      simpa [order_reopen, List.filter_cons, hkept a hp.contains,
        hkept p (hrooted.contains_premise a p hp)] using hfilter
    premises_of_unruled := fun id m hm hrule ↦ by
      obtain ⟨n, hn, rfl | rfl⟩ := find?_reopen_cases hm
      · rfl
      · exact h.premises_of_unruled id m hn hrule }

end ProofTree

end Sequitur
