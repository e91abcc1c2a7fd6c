import Sequitur.Proofs.Tree.Ancestry
import Sequitur.Tree.Walk

/-!
# What the walks find

The walks of `Sequitur.Tree.Walk` are given a bound on the length of a path, and one of them also
carries the list of what it has seen.  Neither shows in a rooted collection.

* `ProofTree.mem_descendants` — the descendants of a node are the ids it stands over;
  `ProofTree.Rooted.depthFirst_descendants` says in which order they come.
* `ProofTree.isComplete_iff` — a node is complete when everything it reaches has a rule;
  `ProofTree.isRootComplete_iff` says the same of the root and all nodes.

The plain walk `ProofTree.preorder`, which keeps no list of what it has seen, is what the first is
proved with: as long as it repeats nothing, `ProofTree.visit` finds the same.
-/

set_option autoImplicit false

namespace Sequitur

namespace ProofTree

variable {t : ProofTree} {a b c id : NodeId}

/-! ## The plain walk -/

/-- A node and what lies below it, down at most `bound` steps, parents before premises and premises
from left to right. -/
def preorder (t : ProofTree) : Nat → NodeId → List NodeId
  | 0, id => [id]
  | bound + 1, id => id :: (t.premisesOf id).flatMap (preorder t bound)

theorem mem_preorder {bound : Nat} :
    b ∈ t.preorder bound a ↔ ∃ n, n ≤ bound ∧ t.Descends n a b := by
  induction bound generalizing a with
  | zero =>
    rw [preorder, List.mem_singleton]
    constructor
    · rintro rfl
      exact ⟨0, Nat.le_refl 0, rfl⟩
    · rintro ⟨n, hn, h⟩
      obtain rfl := Nat.le_zero.1 hn
      exact h.symm
  | succ bound ih =>
    rw [preorder, List.mem_cons, List.mem_flatMap]
    constructor
    · rintro (rfl | ⟨p, hp, hb⟩)
      · exact ⟨0, Nat.zero_le _, rfl⟩
      · obtain ⟨n, hn, h⟩ := ih.1 hb
        exact ⟨n + 1, Nat.succ_le_succ hn, p, hp, h⟩
    · rintro ⟨n, hn, h⟩
      cases n with
      | zero => exact .inl h.symm
      | succ n =>
        obtain ⟨p, hp, h⟩ := h
        exact .inr ⟨p, hp, ih.2 ⟨n, Nat.le_of_succ_le_succ hn, h⟩⟩

theorem reaches_of_mem_preorder {bound : Nat} (h : b ∈ t.preorder bound a) : t.Reaches a b := by
  obtain ⟨n, -, h⟩ := mem_preorder.1 h
  exact reaches_iff_descends.2 ⟨n, h⟩

/-- In a rooted collection the plain walk meets no node twice: it never comes back to where it
started, and what lies below different premises is different. -/
theorem Rooted.nodup_preorder (h : t.Rooted) (bound : Nat) : (t.preorder bound a).Nodup := by
  induction bound generalizing a with
  | zero => exact List.nodup_singleton a
  | succ bound ih =>
    rw [preorder, List.nodup_cons, List.nodup_flatMap]
    refine ⟨?_, fun p _ ↦ ih, ?_⟩
    · intro ha
      obtain ⟨p, hp, ha⟩ := List.mem_flatMap.1 ha
      exact h.acyclic a (over_iff_lists.2 ⟨p, hp, reaches_of_mem_preorder ha⟩)
    · refine (h.premises_nodup a).imp_of_mem ?_
      intro p q hp hq hne x hxp hxq
      exact hne (h.eq_of_reaches hp hq (reaches_of_mem_preorder hxp) (reaches_of_mem_preorder hxq))

/-! ## The walk that remembers -/

/-- Visits in a row add up, as long as each of them adds a list that is new to it. -/
theorem foldl_visit_eq {bound : Nat} {ids seen : List NodeId}
    (hvisit : ∀ id ∈ ids, ∀ seen, seen.Disjoint (t.preorder bound id) →
      t.visit bound seen id = seen ++ t.preorder bound id)
    (hnodup : (ids.flatMap (t.preorder bound)).Nodup)
    (hseen : seen.Disjoint (ids.flatMap (t.preorder bound))) :
    ids.foldl (t.visit bound) seen = seen ++ ids.flatMap (t.preorder bound) := by
  induction ids generalizing seen with
  | nil => simp
  | cons id ids ih =>
    rw [List.flatMap_cons] at hnodup hseen
    obtain ⟨-, hrest, hapart⟩ := List.nodup_append'.1 hnodup
    obtain ⟨hid, hids⟩ := List.disjoint_append_right.1 hseen
    rw [List.foldl_cons, hvisit id List.mem_cons_self seen hid,
      ih (fun i hi ↦ hvisit i (List.mem_cons_of_mem id hi)) hrest
        (List.disjoint_append_left.2 ⟨hids, hapart⟩),
      List.flatMap_cons, List.append_assoc]

/-- Where the plain walk meets no node twice and nothing that has been seen, remembering what has
been seen makes no difference. -/
theorem visit_eq_append_preorder {bound : Nat} {seen : List NodeId}
    (hnodup : (t.preorder bound id).Nodup) (hseen : seen.Disjoint (t.preorder bound id)) :
    t.visit bound seen id = seen ++ t.preorder bound id := by
  induction bound generalizing id seen with
  | zero =>
    have hid : id ∉ seen := fun hid ↦ hseen hid (by simp [preorder])
    simp [visit, preorder, hid]
  | succ bound ih =>
    rw [preorder] at hnodup hseen ⊢
    obtain ⟨hid, hbelow⟩ := List.nodup_cons.1 hnodup
    have hnew : id ∉ seen := fun hid ↦ hseen hid List.mem_cons_self
    have hapart : (seen ++ [id]).Disjoint ((t.premisesOf id).flatMap (t.preorder bound)) :=
      List.disjoint_append_left.2
        ⟨(List.disjoint_cons_right.1 hseen).2, List.singleton_disjoint.2 hid⟩
    rw [visit, if_neg hnew,
      foldl_visit_eq (fun p hp s hs ↦ ih ((List.nodup_flatMap.1 hbelow).1 p hp) hs) hbelow hapart,
      List.append_assoc, List.singleton_append]

/-- Visits in a row add nothing but what each of them adds. -/
theorem mem_foldl_visit {bound : Nat} {ids seen : List NodeId}
    (hvisit : ∀ id seen, a ∈ t.visit bound seen id → a ∈ seen ∨ t.Reaches id a)
    (h : a ∈ ids.foldl (t.visit bound) seen) : a ∈ seen ∨ ∃ id ∈ ids, t.Reaches id a := by
  induction ids generalizing seen with
  | nil => exact .inl h
  | cons id ids ih =>
    rcases ih h with hseen | ⟨i, hi, hreach⟩
    · exact (hvisit id seen hseen).imp_right fun hreach ↦ ⟨id, List.mem_cons_self, hreach⟩
    · exact .inr ⟨i, List.mem_cons_of_mem id hi, hreach⟩

/-- Whatever the shape of a collection, a visit adds nothing but what is reached from the node that
is visited. -/
theorem mem_visit {bound : Nat} {seen : List NodeId} (h : a ∈ t.visit bound seen id) :
    a ∈ seen ∨ t.Reaches id a := by
  induction bound generalizing seen id with
  | zero =>
    rw [visit] at h
    split at h
    · exact .inl h
    · refine (List.mem_append.1 h).imp_right fun hid ↦ ?_
      obtain rfl := List.mem_singleton.1 hid
      exact .refl
  | succ bound ih =>
    rw [visit] at h
    split at h
    · exact .inl h
    · rcases mem_foldl_visit (fun _ _ ↦ ih) h with hseen | ⟨p, hp, hreach⟩
      · refine (List.mem_append.1 hseen).imp_right fun hid ↦ ?_
        obtain rfl := List.mem_singleton.1 hid
        exact .refl
      · exact .inr (over_iff_lists.2 ⟨p, hp, hreach⟩).reaches

/-- Whatever the shape of a collection, a node stands over its descendants. -/
theorem over_of_mem_descendants (h : b ∈ t.descendants a) : t.Over a b :=
  over_iff_lists.2 ((mem_foldl_visit (fun _ _ ↦ mem_visit) h).resolve_left List.not_mem_nil)

/-- A list that visits of some ids make of what has been seen: it holds what has been seen and the
ids, and the premises of whatever else it holds. -/
structure Closes (t : ProofTree) (ids seen result : List NodeId) : Prop where
  /-- What has been seen is there. -/
  seen_subset : seen ⊆ result
  /-- The ids are there. -/
  ids_subset : ids ⊆ result
  /-- With everything that is new its premises are there. -/
  lists_mem : ∀ a ∈ result, a ∈ seen ∨ ∀ p, t.Lists a p → p ∈ result

/-- Visits in a row make such a list when each of them does. -/
theorem closes_foldl_visit {bound : Nat} {ids seen : List NodeId}
    (hvisit : ∀ id ∈ ids, ∀ seen, t.Closes [id] seen (t.visit bound seen id)) :
    t.Closes ids seen (ids.foldl (t.visit bound) seen) := by
  induction ids generalizing seen with
  | nil => exact ⟨List.Subset.refl _, List.nil_subset _, fun _ ha ↦ .inl ha⟩
  | cons id ids ih =>
    have hfirst := hvisit id List.mem_cons_self seen
    have hrest : t.Closes ids (t.visit bound seen id) (ids.foldl (t.visit bound)
        (t.visit bound seen id)) := ih fun i hi ↦ hvisit i (List.mem_cons_of_mem id hi)
    rw [List.foldl_cons]
    refine ⟨List.Subset.trans hfirst.seen_subset hrest.seen_subset, List.cons_subset.2
      ⟨hrest.seen_subset (hfirst.ids_subset (List.mem_singleton_self id)), hrest.ids_subset⟩,
      fun a ha ↦ ?_⟩
    rcases hrest.lists_mem a ha with hmem | hlists
    · exact (hfirst.lists_mem a hmem).imp_right fun hlists p hp ↦ hrest.seen_subset (hlists p hp)
    · exact .inr hlists

/-- Within a bound that no way down exceeds, a visit leaves nothing out. -/
theorem Shallow.closes_visit {bound : Nat} {seen : List NodeId} (h : t.Shallow bound id) :
    t.Closes [id] seen (t.visit bound seen id) := by
  induction bound generalizing id seen with
  | zero => exact absurd h.pos (Nat.lt_irrefl 0)
  | succ bound ih =>
    rw [visit]
    split
    · next hid =>
      exact ⟨List.Subset.refl _, List.cons_subset.2 ⟨hid, List.nil_subset _⟩, fun _ ha ↦ .inl ha⟩
    · have hbelow : t.Closes (t.premisesOf id) (seen ++ [id])
          ((t.premisesOf id).foldl (t.visit bound) (seen ++ [id])) :=
        closes_foldl_visit fun p hp seen ↦ ih (h.premise hp)
      obtain ⟨hseen, hid⟩ := List.append_subset.1 hbelow.seen_subset
      refine ⟨hseen, hid, fun a ha ↦ ?_⟩
      rcases hbelow.lists_mem a ha with hmem | hlists
      · refine (List.mem_append.1 hmem).imp_right fun ha p hp ↦ hbelow.ids_subset ?_
        exact List.mem_singleton.1 ha ▸ hp
      · exact .inr hlists

/-- Where no way down from the premises of a node exceeds the bound, the descendants of the node are
the ids it stands over, whatever else the collection looks like. -/
theorem mem_descendants_of_shallow (h : ∀ p, t.Lists a p → t.Shallow t.size p) :
    b ∈ t.descendants a ↔ t.Over a b := by
  refine ⟨over_of_mem_descendants, fun hover ↦ ?_⟩
  have hcloses : t.Closes (t.premisesOf a) [] (t.descendants a) :=
    closes_foldl_visit fun p hp seen ↦ (h p hp).closes_visit
  obtain ⟨p, hp, hreach⟩ := over_iff_lists.1 hover
  induction hreach with
  | refl => exact hcloses.ids_subset hp
  | @tail b c hpb hbc ih =>
    have hb := ih (over_iff_lists.2 ⟨p, hp, hpb⟩)
    exact (hcloses.lists_mem b hb).resolve_left List.not_mem_nil c hbc

/-- In a rooted collection the plain walks from the premises of a node meet no node twice. -/
theorem Rooted.nodup_flatMap_preorder (h : t.Rooted) (bound : Nat) (a : NodeId) :
    ((t.premisesOf a).flatMap (t.preorder bound)).Nodup :=
  (List.nodup_cons.1 (h.nodup_preorder (bound + 1))).2

/-- In a rooted collection the descendants of a node are what the plain walk finds below it. -/
theorem Rooted.descendants_eq (h : t.Rooted) (a : NodeId) :
    t.descendants a = (t.premisesOf a).flatMap (t.preorder t.size) := by
  rw [descendants, descendantsWithin,
    foldl_visit_eq (fun p _ s hs ↦ visit_eq_append_preorder (h.nodup_preorder _) hs)
      (h.nodup_flatMap_preorder t.size a) (List.disjoint_nil_left _),
    List.nil_append]

/-- In a rooted collection no descendant is met twice. -/
theorem Rooted.nodup_descendants (h : t.Rooted) (a : NodeId) : (t.descendants a).Nodup :=
  h.descendants_eq a ▸ h.nodup_flatMap_preorder t.size a

/-- **The descendants of a node are the ids it stands over.** -/
theorem Rooted.mem_descendants (h : t.Rooted) : b ∈ t.descendants a ↔ t.Over a b :=
  mem_descendants_of_shallow fun p hp ↦ h.shallow (h.contains_premise a p hp)

/-- What a node reaches is the node itself and its descendants. -/
theorem Rooted.reaches_iff (h : t.Rooted) : t.Reaches a b ↔ b ∈ a :: t.descendants a := by
  rw [List.mem_cons, h.mem_descendants, eq_comm]
  exact ⟨Reaches.eq_or_over, fun hab ↦ hab.elim (fun hab ↦ hab ▸ .refl) Over.reaches⟩

/-! ## Depth-first order -/

/-- The ids that a depth-first walk meets from some roots on: each id, then what lies below it, then
what comes from the roots after it. -/
inductive DepthFirst (t : ProofTree) : List NodeId → List NodeId → Prop
  | nil : DepthFirst t [] []
  | cons {id : NodeId} {ids below after : List NodeId}
      (hbelow : DepthFirst t (t.premisesOf id) below) (hafter : DepthFirst t ids after) :
    DepthFirst t (id :: ids) (id :: below ++ after)

/-- Within a bound that no way down exceeds, plain walks in a row are depth-first. -/
theorem depthFirst_flatMap_preorder {bound : Nat} {ids : List NodeId}
    (h : ∀ id ∈ ids, t.Shallow bound id) : t.DepthFirst ids (ids.flatMap (t.preorder bound)) := by
  induction bound generalizing ids with
  | zero =>
    have hnone : ids = [] := List.eq_nil_iff_forall_not_mem.2 fun id hid ↦
      Nat.lt_irrefl 0 (h id hid).pos
    rw [hnone]
    exact .nil
  | succ bound ih =>
    induction ids with
    | nil => exact .nil
    | cons id ids ihs =>
      obtain ⟨hid, hids⟩ := List.forall_mem_cons.1 h
      rw [List.flatMap_cons, preorder]
      exact .cons (ih fun p hp ↦ hid.premise hp) (ihs hids)

/-- **The descendants of a node come in depth-first order.** -/
theorem Rooted.depthFirst_descendants (h : t.Rooted) (a : NodeId) :
    t.DepthFirst (t.premisesOf a) (t.descendants a) := by
  rw [h.descendants_eq]
  exact depthFirst_flatMap_preorder fun p hp ↦ h.shallow (h.contains_premise a p hp)

/-- A node and what lies below it come in depth-first order. -/
theorem Rooted.depthFirst_subtree (h : t.Rooted) (a : NodeId) :
    t.DepthFirst [a] (a :: t.descendants a) := by
  have hwalk := DepthFirst.cons (h.depthFirst_descendants a) .nil
  rwa [List.append_nil] at hwalk

/-- In a rooted collection a node and what lies below it are all different. -/
theorem Rooted.nodup_subtree (h : t.Rooted) (a : NodeId) : (a :: t.descendants a).Nodup :=
  List.nodup_cons.2 ⟨fun ha ↦ h.acyclic a (h.mem_descendants.1 ha), h.nodup_descendants a⟩

namespace DepthFirst

variable {ids l l' : List NodeId}

/-- There is only one depth-first order. -/
theorem unique (h : t.DepthFirst ids l) (h' : t.DepthFirst ids l') : l = l' := by
  induction h generalizing l' with
  | nil =>
    cases h'
    rfl
  | cons _ _ ihbelow ihafter =>
    cases h' with
    | cons hbelow hafter => rw [ihbelow hbelow, ihafter hafter]

/-- What is met is reached from one of the roots. -/
theorem exists_reaches (h : t.DepthFirst ids l) (ha : a ∈ l) : ∃ id ∈ ids, t.Reaches id a := by
  induction h with
  | nil => cases ha
  | @cons id ids below after _ _ ihbelow ihafter =>
    rcases List.mem_append.1 ha with hsubtree | hrest
    · refine ⟨id, List.mem_cons_self, ?_⟩
      rcases List.mem_cons.1 hsubtree with rfl | hbelow
      · exact .refl
      · obtain ⟨p, hp, hreach⟩ := ihbelow hbelow
        exact (over_iff_lists.2 ⟨p, hp, hreach⟩).reaches
    · obtain ⟨i, hi, hreach⟩ := ihafter hrest
      exact ⟨i, List.mem_cons_of_mem id hi, hreach⟩

/-- Roots without premises are all that is met from them. -/
theorem of_bare (h : ∀ id ∈ ids, t.premisesOf id = []) : t.DepthFirst ids ids := by
  induction ids with
  | nil => exact .nil
  | cons id ids ih =>
    obtain ⟨hid, hids⟩ := List.forall_mem_cons.1 h
    have hbelow : t.DepthFirst (t.premisesOf id) [] := by
      rw [hid]
      exact .nil
    exact .cons hbelow (ih hids)

/-- Behind a node that is met stands what lies below it, in one piece. -/
theorem exists_eq_append (h : t.DepthFirst ids l) (ha : a ∈ l) :
    ∃ before below after, l = before ++ (a :: below) ++ after ∧
      t.DepthFirst (t.premisesOf a) below := by
  induction h with
  | nil => cases ha
  | @cons id ids below after hbelow _ ihbelow ihafter =>
    rcases List.mem_append.1 ha with hsubtree | hrest
    · rcases List.mem_cons.1 hsubtree with rfl | hinside
      · exact ⟨[], below, after, rfl, hbelow⟩
      · obtain ⟨b, c, d, rfl, hwalk⟩ := ihbelow hinside
        exact ⟨id :: b, c, d ++ after, by simp, hwalk⟩
    · obtain ⟨b, c, d, rfl, hwalk⟩ := ihafter hrest
      exact ⟨id :: below ++ b, c, d, by simp, hwalk⟩

end DepthFirst

/-! ## Completeness -/

/-- There is a node of this id and it has a rule. -/
def Ruled (t : ProofTree) (id : NodeId) : Prop :=
  ∃ n, t.find? id = some n ∧ n.rule.isSome

/-- Within a bound that no way down exceeds, a node is complete when all it reaches has a rule. -/
theorem isCompleteWithin_iff {bound : Nat} (h : t.Shallow bound a) :
    t.isCompleteWithin bound a = true ↔ ∀ b, t.Reaches a b → t.Ruled b := by
  induction bound generalizing a with
  | zero => exact absurd h.pos (Nat.lt_irrefl 0)
  | succ bound ih =>
    have hpremise : ∀ p, t.Lists a p →
        (t.isCompleteWithin bound p = true ↔ ∀ b, t.Reaches p b → t.Ruled b) :=
      fun p hp ↦ ih (h.premise hp)
    rw [isCompleteWithin]
    cases hfind : t.find? a with
    | none =>
      have hnot : ¬ t.Ruled a := by simp [Ruled, hfind]
      simpa using ⟨a, .refl, hnot⟩
    | some n =>
      have hlists : ∀ p, p ∈ n.premises ↔ t.Lists a p := by simp [lists_iff_find?, hfind]
      simp only [Bool.and_eq_true, List.all_eq_true]
      constructor
      · rintro ⟨hrule, hall⟩ b hb
        rcases hb.eq_or_over with rfl | hover
        · exact ⟨n, hfind, hrule⟩
        · obtain ⟨p, hp, hpb⟩ := over_iff_lists.1 hover
          exact (hpremise p hp).1 (hall p ((hlists p).2 hp)) b hpb
      · intro hall
        obtain ⟨m, hm, hrule⟩ := hall a .refl
        obtain rfl : n = m := Option.some.inj (hfind.symm.trans hm)
        refine ⟨hrule, fun p hp ↦ (hpremise p ((hlists p).1 hp)).2 fun b hb ↦ hall b ?_⟩
        exact (over_iff_lists.2 ⟨p, (hlists p).1 hp, hb⟩).reaches

/-- **A node is complete when everything it reaches has a rule.** -/
theorem Rooted.isComplete_iff (h : t.Rooted) (ha : t.contains a) :
    t.isComplete a = true ↔ ∀ b, t.Reaches a b → t.Ruled b :=
  isCompleteWithin_iff (h.shallow ha)

/-- **The root is complete when every node has a rule.** -/
theorem Rooted.isRootComplete_iff (h : t.Rooted) :
    t.isRootComplete = true ↔ ∀ id n, t.find? id = some n → n.rule.isSome := by
  rw [isRootComplete, h.isComplete_iff h.contains_root]
  constructor
  · intro hall id n hn
    obtain ⟨m, hm, hrule⟩ := hall id (h.reached id (by simp [contains, hn]))
    rw [hn] at hm
    exact Option.some.inj hm ▸ hrule
  · intro hall b hb
    obtain ⟨n, hn⟩ := Option.isSome_iff_exists.1 (h.contains_of_reaches h.contains_root hb)
    exact ⟨n, hn, hall b n hn⟩

end ProofTree

end Sequitur
