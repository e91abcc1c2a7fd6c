import Sequitur.Proofs.Tree.Pending
import Sequitur.Proofs.Tree.Renaming

/-!
# Answers in any order

Several applications may be on their way at once.  When they were prepared for different goals of
one tree, it does not matter in which order their answers arrive: all of them are put in, although
every one after the first finds another revision, and the nodes are the same in the end
(`commitAll_perm`).  Only the order of insertion shows which answer came first.

The reason is that an answer changes nothing but its own target and adds nothing but its own leaves,
so what is stored in the end can be said without mentioning the order (`ProofTree.Merged`).  The
walks read nothing but the nodes and how many there are (`ProofTree.SameNodes`).
-/

set_option autoImplicit false

namespace Sequitur

namespace ProofTree

variable {t t' : ProofTree} {root : NodeId} {goal : Sequent}

/-! ## Answers that have arrived -/

/-- The answer to an application, with an id for each premise. -/
structure Arrival where
  pending : Pending
  leaves : List (NodeId × Sequent)
  deriving DecidableEq

/-- The new ids of an answer. -/
def Arrival.ids (a : Arrival) : List NodeId :=
  a.leaves.map Prod.fst

/-- Answers put in one after the other, as far as the first refusal. -/
def commitAll (t : ProofTree) (arrivals : List Arrival) : Except ApplyError ProofTree :=
  arrivals.foldlM (fun t a ↦ t.commit a.pending a.leaves) t

/-- Answers to applications that are current, for different targets, with ids that differ from each
other and from all that are in use. -/
structure Awaited (t : ProofTree) (arrivals : List Arrival) : Prop where
  /-- Every application is current. -/
  current : ∀ a ∈ arrivals, t.isCurrent a.pending
  /-- The targets are different. -/
  targets_nodup : (arrivals.map fun a ↦ a.pending.target).Nodup
  /-- The ids are new. -/
  unused : t.Unused (arrivals.flatMap Arrival.ids)

/-- What is stored when all answers have been put in: the targets are closed, the leaves are there,
and everything else is as it was. -/
structure Merged (t : ProofTree) (arrivals : List Arrival) (t' : ProofTree) : Prop where
  /-- The new ids come last, in the order in which the answers arrived. -/
  order_eq : t'.order = t.order ++ arrivals.flatMap Arrival.ids
  /-- The targets are closed. -/
  find?_target : ∀ a ∈ arrivals, t'.find? a.pending.target =
    (t.find? a.pending.target).map (.close a.pending.application.rule a.ids)
  /-- The leaves are open nodes. -/
  find?_leaf : ∀ a ∈ arrivals, ∀ leaf ∈ a.leaves, t'.find? leaf.1 = some (.leaf leaf.1 leaf.2)
  /-- Everything else is as it was. -/
  find?_other : ∀ id, (∀ a ∈ arrivals, id ≠ a.pending.target ∧ id ∉ a.ids) →
    t'.find? id = t.find? id

/-! ## Putting in all answers -/

section Arrivals

variable {a : Arrival} {xs ys : List Arrival}

/-- The order of arrival does not matter to what is expected of the answers. -/
theorem Awaited.perm (h : t.Awaited xs) (hperm : xs.Perm ys) : t.Awaited ys where
  current a ha := h.current a (hperm.mem_iff.2 ha)
  targets_nodup := (hperm.map _).nodup_iff.1 h.targets_nodup
  unused := by
    have hids : (xs.flatMap Arrival.ids).Perm (ys.flatMap Arrival.ids) := hperm.flatMap_right _
    exact ⟨hids.nodup_iff.1 h.unused.1, fun id hid ↦ h.unused.2 id (hids.mem_iff.2 hid)⟩

/-- The target of an application that is awaited is stored. -/
theorem Awaited.contains_target (h : t.Awaited xs) (ha : a ∈ xs) : t.contains a.pending.target := by
  obtain ⟨n, hn, -⟩ := isCurrent_iff.1 (h.current a ha)
  exact contains_iff.2 ⟨n, hn⟩

/-- The ids of one of the answers are new. -/
theorem Awaited.unused_ids (h : t.Awaited xs) (ha : a ∈ xs) : t.Unused a.ids :=
  ⟨(List.nodup_flatMap.1 h.unused.1).1 a ha,
    fun id hid ↦ h.unused.2 id (List.mem_flatMap.2 ⟨a, ha, hid⟩)⟩

/-- The first answer is put in. -/
theorem Awaited.commit_head (h : t.Awaited (a :: xs)) :
    t.commit a.pending a.leaves =
      .ok (t.grafted a.pending.target a.pending.application.rule a.leaves) :=
  commit_of_isCurrent (h.current a List.mem_cons_self)

/-- The targets of later answers are not touched by the first. -/
theorem Awaited.find?_grafted_target_of_mem (h : t.Awaited (a :: xs)) {b : Arrival} (hb : b ∈ xs) :
    (t.grafted a.pending.target a.pending.application.rule a.leaves).find? b.pending.target =
      t.find? b.pending.target := by
  have hne : b.pending.target ≠ a.pending.target := fun heq ↦
    (List.nodup_cons.1 h.targets_nodup).1 (List.mem_map.2 ⟨b, hb, heq⟩)
  have hnew : b.pending.target ∉ a.ids :=
    (h.unused_ids List.mem_cons_self).notMem (h.contains_target (List.mem_cons_of_mem a hb))
  exact find?_grafted_of_ne hne hnew

/-- When the first answer has been put in, the others are still awaited. -/
theorem Awaited.tail (h : t.Awaited (a :: xs)) :
    (t.grafted a.pending.target a.pending.application.rule a.leaves).Awaited xs where
  current b hb := by
    rw [isCurrent, h.find?_grafted_target_of_mem hb]
    exact h.current b (List.mem_cons_of_mem a hb)
  targets_nodup := (List.nodup_cons.1 h.targets_nodup).2
  unused := by
    obtain ⟨-, hnodup, hdisjoint⟩ := List.nodup_append'.1 (List.flatMap_cons ▸ h.unused.1)
    refine ⟨hnodup, fun id hid ↦ Bool.eq_false_iff.2 fun hstored ↦ ?_⟩
    rcases (contains_grafted (h.contains_target List.mem_cons_self)
      (h.unused_ids List.mem_cons_self)).1 hstored with hold | hnew
    · exact h.unused.notMem hold (List.mem_append_right _ hid)
    · exact hdisjoint hnew hid

/-- The first answer and then the others. -/
theorem Merged.cons (hawaited : t.Awaited (a :: xs))
    (h : (t.grafted a.pending.target a.pending.application.rule a.leaves).Merged xs t') :
    t.Merged (a :: xs) t' := by
  have htarget : t.contains a.pending.target := hawaited.contains_target List.mem_cons_self
  have hunused : t.Unused a.ids := hawaited.unused_ids List.mem_cons_self
  obtain ⟨-, -, hdisjoint⟩ := List.nodup_append'.1 (List.flatMap_cons ▸ hawaited.unused.1)
  refine ⟨?_, ?_, ?_, ?_⟩
  · rw [h.order_eq, order_grafted, List.flatMap_cons, List.append_assoc]
    rfl
  · intro b hb
    rcases List.mem_cons.1 hb with rfl | hb
    · -- the later answers have other targets, and no new id is that of a stored target
      have hother := h.find?_other b.pending.target fun c hc ↦ ⟨fun heq ↦
        (List.nodup_cons.1 hawaited.targets_nodup).1 (List.mem_map.2 ⟨c, hc, heq.symm⟩),
        (hawaited.unused_ids (List.mem_cons_of_mem b hc)).notMem htarget⟩
      obtain ⟨n, hn⟩ := contains_iff.1 htarget
      rw [hother, find?_grafted_target hn hunused, hn]
      rfl
    · rw [h.find?_target b hb, hawaited.find?_grafted_target_of_mem hb]
  · intro b hb leaf hleaf
    rcases List.mem_cons.1 hb with rfl | hb
    · have hid : leaf.1 ∈ b.ids := List.mem_map_of_mem hleaf
      rw [h.find?_other leaf.1 fun c hc ↦ ⟨?_, fun hmem ↦ ?_⟩,
        find?_grafted_leaf_of_mem _ htarget hunused hleaf]
      · rintro heq
        exact hunused.notMem (hawaited.contains_target (List.mem_cons_of_mem b hc)) (heq ▸ hid)
      · exact hdisjoint hid (List.mem_flatMap.2 ⟨c, hc, hmem⟩)
    · exact h.find?_leaf b hb leaf hleaf
  · intro id hid
    obtain ⟨⟨hne, hnew⟩, hrest⟩ := List.forall_mem_cons.1 hid
    rw [h.find?_other id hrest, find?_grafted_of_ne hne hnew]

/-- **All awaited answers are put in**, and the result has a history. -/
theorem Awaited.exists_commitAll (h : t.Awaited xs) (hreach : Reachable root goal t) :
    ∃ t', t.commitAll xs = .ok t' ∧ t.Merged xs t' ∧ Reachable root goal t' := by
  induction xs generalizing t with
  | nil => exact ⟨t, rfl, ⟨by simp, by simp, by simp, by simp⟩, hreach⟩
  | cons a xs ih =>
    have hgrown : t.change (.commit a.pending a.leaves) =
        t.grafted a.pending.target a.pending.application.rule a.leaves := by
      rw [change, h.commit_head]
      rfl
    have hnext := hgrown ▸ hreach.change (.commit a.pending a.leaves)
      (h.unused_ids List.mem_cons_self)
    obtain ⟨t', hcommit, hmerged, hreach'⟩ := ih h.tail hnext
    refine ⟨t', ?_, .cons h hmerged, hreach'⟩
    rw [commitAll, List.foldlM_cons, h.commit_head]
    exact hcommit

/-! ## The order of arrival -/

/-- What is stored in the end does not depend on the order of arrival. -/
theorem Merged.find?_eq {tx ty : ProofTree} (hx : t.Merged xs tx) (hy : t.Merged ys ty)
    (hperm : xs.Perm ys) : tx.find? = ty.find? := by
  funext id
  by_cases htarget : ∃ a ∈ xs, id = a.pending.target
  · obtain ⟨a, ha, rfl⟩ := htarget
    rw [hx.find?_target a ha, hy.find?_target a (hperm.mem_iff.1 ha)]
  · by_cases hleaf : ∃ a ∈ xs, id ∈ a.ids
    · obtain ⟨a, ha, hid⟩ := hleaf
      obtain ⟨leaf, hleaf, rfl⟩ := List.mem_map.1 hid
      rw [hx.find?_leaf a ha leaf hleaf, hy.find?_leaf a (hperm.mem_iff.1 ha) leaf hleaf]
    · have hother : ∀ a ∈ xs, id ≠ a.pending.target ∧ id ∉ a.ids := fun a ha ↦
        ⟨fun heq ↦ htarget ⟨a, ha, heq⟩, fun hid ↦ hleaf ⟨a, ha, hid⟩⟩
      rw [hx.find?_other id hother,
        hy.find?_other id fun a ha ↦ hother a (hperm.mem_iff.2 ha)]

/-- Two orders of arrival lead to the same nodes. -/
theorem Merged.sameNodes {tx ty : ProofTree} (hx : t.Merged xs tx) (hy : t.Merged ys ty)
    (hperm : xs.Perm ys) : tx.SameNodes ty where
  find?_eq := hx.find?_eq hy hperm
  size_eq := by
    have hids : (xs.flatMap Arrival.ids).Perm (ys.flatMap Arrival.ids) := hperm.flatMap_right _
    rw [size, size, hx.order_eq, hy.order_eq, List.length_append, List.length_append,
      hids.length_eq]

/-- **The order in which answers arrive does not matter.**  Applications were prepared on a tree
with a history, for different targets, and the ids of their answers are new.  In any two orders all
answers are put in, and the two trees have the same nodes, the same descendants, open goals and
completeness at every node, and the same document; the new ids come after the old ones, one answer
after the other. -/
theorem commitAll_perm (h : Reachable root goal t)
    (hprepared : ∀ a ∈ xs, ∃ target bindings, t.prepare target bindings = .ok a.pending)
    (htargets : (xs.map fun a ↦ a.pending.target).Nodup)
    (hunused : t.Unused (xs.flatMap Arrival.ids)) (hperm : xs.Perm ys) :
    ∃ tx ty, t.commitAll xs = .ok tx ∧ t.commitAll ys = .ok ty ∧
      Reachable root goal tx ∧ Reachable root goal ty ∧ tx.find? = ty.find? ∧
      (∀ id, tx.descendants id = ty.descendants id ∧ tx.openGoals id = ty.openGoals id ∧
        tx.isComplete id = ty.isComplete id ∧ tx.typeset id = ty.typeset id) ∧
      tx.order = t.order ++ xs.flatMap Arrival.ids ∧
      ty.order = t.order ++ ys.flatMap Arrival.ids := by
  have hcurrent : ∀ a ∈ xs, t.isCurrent a.pending := by
    intro a ha
    obtain ⟨target, bindings, hprepare⟩ := hprepared a ha
    exact (prepare_eq_ok hprepare).2
  have hawaited : t.Awaited xs := ⟨hcurrent, htargets, hunused⟩
  obtain ⟨tx, htx, hx, hreachx⟩ := hawaited.exists_commitAll h
  obtain ⟨ty, hty, hy, hreachy⟩ := (hawaited.perm hperm).exists_commitAll h
  have hsame := hx.sameNodes hy hperm
  refine ⟨tx, ty, htx, hty, hreachx, hreachy, hsame.find?_eq, fun id ↦ ?_, hx.order_eq,
    hy.order_eq⟩
  rw [hsame.descendants_eq, hsame.openGoals_eq, hsame.isComplete_eq, hsame.typeset_eq]
  exact ⟨rfl, rfl, rfl, rfl⟩

end Arrivals

/-- A goal split into three. -/
def threefold : ProofTree :=
  (ProofTree.new (.ofNat 1) conjunction).change (.graft (.ofNat 1) .andIntro
    [(.ofNat 2, conjunction), (.ofNat 3, conjunction), (.ofNat 4, conjunction)])

/-- A rule asked for at one of the three. -/
def askedThere (target : NodeId) (rule : Rule) : Pending where
  target := target
  revision := 2
  application := { rule := rule, sequent := conjunction, formulas := [], elements := [] }

/-- The answers for the three goals. -/
def threeArrivals : List Arrival :=
  [⟨askedThere (.ofNat 2) .andIntro, [(.ofNat 5, conjunction), (.ofNat 6, conjunction)]⟩,
    ⟨askedThere (.ofNat 3) .axiomatic, []⟩,
    ⟨askedThere (.ofNat 4) .andIntro, [(.ofNat 7, conjunction)]⟩]

/-- The answers arrive in their order or the other way round: the nodes are the same, the order of
insertion is not. -/
theorem commitAll_perm_reverse :
    Reachable (.ofNat 1) conjunction threefold ∧
      (∀ a ∈ threeArrivals,
        ∃ target bindings, threefold.prepare target bindings = .ok a.pending) ∧
      (threeArrivals.map fun a ↦ a.pending.target).Nodup ∧
      threefold.Unused (threeArrivals.flatMap Arrival.ids) ∧
      threeArrivals.Perm threeArrivals.reverse ∧
      ∃ tx ty, threefold.commitAll threeArrivals = .ok tx ∧
        threefold.commitAll threeArrivals.reverse = .ok ty ∧ tx.find? = ty.find? ∧
        tx.order ≠ ty.order := by
  have h : Reachable (.ofNat 1) conjunction threefold := Reachable.new.change _ (by decide)
  have hprepared : ∀ a ∈ threeArrivals,
      ∃ target bindings, threefold.prepare target bindings = .ok a.pending := by
    intro a ha
    let bindings : Bindings :=
      { rule := a.pending.application.rule, formulaSlots := [], elementSlots := [] }
    refine ⟨a.pending.target, bindings, ?_⟩
    simp only [threeArrivals, List.mem_cons, List.not_mem_nil, or_false] at ha
    rcases ha with rfl | rfl | rfl <;> rfl
  have htargets : (threeArrivals.map fun a ↦ a.pending.target).Nodup := by decide
  have hunused : threefold.Unused (threeArrivals.flatMap Arrival.ids) := by decide
  have hperm : threeArrivals.Perm threeArrivals.reverse := (List.reverse_perm _).symm
  obtain ⟨tx, ty, htx, hty, -, -, hfind, -, hx, hy⟩ :=
    commitAll_perm h hprepared htargets hunused hperm
  refine ⟨h, hprepared, htargets, hunused, hperm, tx, ty, htx, hty, hfind, ?_⟩
  rw [hx, hy]
  decide

end ProofTree

end Sequitur
