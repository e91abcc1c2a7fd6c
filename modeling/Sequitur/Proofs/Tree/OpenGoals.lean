import Sequitur.Proofs.Tree.History

/-!
# Open goals keep their places

The open goals of a node are listed from left to right by a walk over its whole subtree, and every
change has them listed anew.  All the same a change moves none of them.  A graft puts its leaves in
the place of its target, and a deletion puts the reopened node in the place of the goals that were
open below it, which may have been none: `openGoals_inPlace`.

Both follow from what a change does to a walk.  A graft puts the leaves right behind the target
(`DepthFirst.grafted`); a deletion leaves out what lies below the parent
(`Rooted.depthFirst_reopen`), and that stands in one piece right behind the parent
(`Rooted.exists_subtree_eq`).  As there is only one depth-first order, these are the walks of the
changed tree.
-/

set_option autoImplicit false

namespace Sequitur

namespace ProofTree

variable {t t' : ProofTree} {root n id target parent : NodeId} {goal : Sequent} {rule : Rule}
  {ids l : List NodeId} {leaves : List (NodeId × Sequent)} {removed : List NodeId}

/-! ## The place of a subtree -/

/-- A node that is reached and what lies below it stand in one piece in the walk. -/
theorem Rooted.exists_subtree_eq (h : t.Rooted) (hreach : t.Reaches n id) :
    ∃ before after, n :: t.descendants n = before ++ (id :: t.descendants id) ++ after := by
  obtain ⟨before, below, after, heq, hwalk⟩ :=
    (h.depthFirst_subtree n).exists_eq_append (h.reaches_iff.1 hreach)
  rw [hwalk.unique (h.depthFirst_descendants id)] at heq
  exact ⟨before, after, heq⟩

/-! ## Grafting -/

/-- Ids with others in the place of one of them. -/
def inPlaceOf (target : NodeId) (new ids : List NodeId) : List NodeId :=
  ids.flatMap fun id ↦ if id = target then new else [id]

section InPlaceOf

variable {new : List NodeId}

theorem inPlaceOf_append (target : NodeId) (new ids rest : List NodeId) :
    inPlaceOf target new (ids ++ rest) = inPlaceOf target new ids ++ inPlaceOf target new rest :=
  List.flatMap_append

theorem inPlaceOf_cons_self (new ids : List NodeId) :
    inPlaceOf target new (target :: ids) = new ++ inPlaceOf target new ids := by
  rw [inPlaceOf, List.flatMap_cons, if_pos rfl, inPlaceOf]

theorem inPlaceOf_cons_of_ne (h : id ≠ target) :
    inPlaceOf target new (id :: ids) = id :: inPlaceOf target new ids := by
  rw [inPlaceOf, List.flatMap_cons, if_neg h, List.singleton_append, inPlaceOf]

theorem inPlaceOf_of_notMem (h : target ∉ ids) : inPlaceOf target new ids = ids := by
  induction ids with
  | nil => rfl
  | cons id ids ih =>
    obtain ⟨hne, hrest⟩ := not_or.1 (mt List.mem_cons.2 h)
    rw [inPlaceOf_cons_of_ne (Ne.symm hne), ih hrest]

/-- What stands on either side of an id that occurs once stays where it is. -/
theorem inPlaceOf_split {before after : List NodeId} (h : (before ++ target :: after).Nodup) :
    inPlaceOf target new (before ++ target :: after) = before ++ new ++ after := by
  obtain ⟨-, hrest, hapart⟩ := List.nodup_append'.1 h
  have hbefore : target ∉ before := fun hmem ↦ hapart hmem List.mem_cons_self
  rw [inPlaceOf_append, inPlaceOf_of_notMem hbefore, inPlaceOf_cons_self,
    inPlaceOf_of_notMem (List.nodup_cons.1 hrest).1, List.append_assoc]

end InPlaceOf

section Grafted

variable (htarget : t.contains target) (hunused : t.Unused (leaves.map Prod.fst))

include htarget hunused

/-- A walk meets the leaves of a graft right behind its target. -/
theorem DepthFirst.grafted (hbare : t.premisesOf target = []) (h : t.DepthFirst ids l) :
    (t.grafted target rule leaves).DepthFirst ids
      (inPlaceOf target (target :: leaves.map Prod.fst) l) := by
  induction h with
  | nil => exact .nil
  | @cons id ids below after hbelow _ ihbelow ihafter =>
    rw [List.cons_append]
    have hpremises : (t.grafted target rule leaves).premisesOf id =
        if id = target then leaves.map Prod.fst else t.premisesOf id :=
      premisesOf_grafted htarget hunused
    by_cases hid : id = target
    · subst hid
      obtain rfl : below = [] := hbelow.unique (by rw [hbare]; exact .nil)
      have hleaves : (t.grafted id rule leaves).DepthFirst (leaves.map Prod.fst)
          (leaves.map Prod.fst) := by
        refine .of_bare fun leaf hleaf ↦ ?_
        have hne : leaf ≠ id := fun heq ↦ hunused.notMem htarget (heq ▸ hleaf)
        rw [premisesOf_grafted htarget hunused, if_neg hne,
          premisesOf_eq_nil (hunused.2 leaf hleaf)]
      rw [if_pos rfl] at hpremises
      rw [List.nil_append, inPlaceOf_cons_self]
      exact .cons (hpremises ▸ hleaves) ihafter
    · rw [if_neg hid] at hpremises
      rw [inPlaceOf_cons_of_ne hid, inPlaceOf_append]
      exact .cons (hpremises ▸ ihbelow) ihafter

/-- The target of a graft is not open afterwards. -/
theorem isOpenAt_grafted_target : (t.grafted target rule leaves).isOpenAt target = false := by
  obtain ⟨m, hm⟩ := contains_iff.1 htarget
  rw [isOpenAt, find?_grafted_target hm hunused]
  rfl

/-- The leaves of a graft are open. -/
theorem isOpenAt_grafted_leaf (hid : id ∈ leaves.map Prod.fst) :
    (t.grafted target rule leaves).isOpenAt id = true := by
  obtain ⟨sequent, -, hfind⟩ := find?_grafted_leaf rule htarget hunused hid
  rw [isOpenAt, hfind]
  rfl

/-- Of a walk with the leaves behind the target, the leaves are open and the target is not; other
nodes are as open as they were. -/
theorem filter_isOpenAt_grafted (hopen : t.isOpenAt target) (hstored : ∀ id ∈ l, t.contains id) :
    (inPlaceOf target (target :: leaves.map Prod.fst) l).filter
        (t.grafted target rule leaves).isOpenAt =
      inPlaceOf target (leaves.map Prod.fst) (l.filter t.isOpenAt) := by
  induction l with
  | nil => rfl
  | cons id l ih =>
    obtain ⟨hcontains, hrest⟩ := List.forall_mem_cons.1 hstored
    by_cases hid : id = target
    · subst hid
      have hclosed : ¬ (t.grafted id rule leaves).isOpenAt id := by
        rw [isOpenAt_grafted_target htarget hunused]
        exact Bool.false_ne_true
      have hleaves : (leaves.map Prod.fst).filter (t.grafted id rule leaves).isOpenAt =
          leaves.map Prod.fst :=
        List.filter_eq_self.2 fun leaf hleaf ↦ isOpenAt_grafted_leaf htarget hunused hleaf
      rw [inPlaceOf_cons_self, List.cons_append, List.filter_cons_of_neg hclosed,
        List.filter_append, hleaves, ih hrest, List.filter_cons_of_pos hopen, inPlaceOf_cons_self]
    · have hsame : (t.grafted target rule leaves).isOpenAt id = t.isOpenAt id := by
        rw [isOpenAt, find?_grafted_of_ne hid (hunused.notMem hcontains), isOpenAt]
      rw [inPlaceOf_cons_of_ne hid, List.filter_cons, List.filter_cons, hsame, ih hrest]
      split
      · rw [inPlaceOf_cons_of_ne hid]
      · rfl

end Grafted

/-- **The leaves of a graft come into the place of its target** among the open goals of every
node. -/
theorem Grown.openGoals_graft (h : t.Grown) (hgraft : t.graft target rule leaves = .ok t')
    (hunused : t.Unused (leaves.map Prod.fst)) (hn : t.contains n) :
    t'.openGoals n = inPlaceOf target (leaves.map Prod.fst) (t.openGoals n) := by
  have hgrown := h.graft hgraft hunused
  obtain ⟨⟨m, hm, hrule⟩, rfl⟩ := graft_eq_ok_iff.1 hgraft
  have htarget : t.contains target := contains_iff.2 ⟨m, hm⟩
  have hpremises : m.premises = [] := h.premises_of_unruled target m hm hrule
  have hwalk := (hgrown.depthFirst_subtree n).unique
    ((h.depthFirst_subtree n).grafted htarget hunused ((premisesOf_eq hm).trans hpremises))
  rw [openGoals, hwalk]
  exact filter_isOpenAt_grafted htarget hunused (isOpenAt_iff.2 ⟨m, hm, hrule, hpremises⟩)
    fun id hid ↦ h.contains_of_reaches hn (h.reaches_iff.2 hid)

/-! ## Deleting -/

section Reopen

variable (h : t.Rooted) (hremoved : ∀ id, id ∈ removed ↔ t.Over parent id)

include h hremoved

/-- A walk after a deletion meets what has not been removed, in the same order. -/
theorem Rooted.depthFirst_reopen (hwalk : t.DepthFirst ids l) (hids : ∀ id ∈ ids, id ∉ removed) :
    (t.reopen parent removed).DepthFirst ids (l.filter fun id ↦ id ∉ removed) := by
  induction hwalk with
  | nil => exact .nil
  | @cons id ids below after hbelow _ ihbelow ihafter =>
    obtain ⟨hid, hrest⟩ := List.forall_mem_cons.1 hids
    have hpremises : (t.reopen parent removed).premisesOf id =
        if id ∈ removed ∨ id = parent then [] else t.premisesOf id := premisesOf_reopen
    have hlater := ihafter hrest
    rw [List.cons_append, List.filter_cons_of_pos (by simpa using hid), List.filter_append]
    refine .cons ?_ hlater
    by_cases hparent : id = parent
    · subst hparent
      -- all that lies below the parent has been removed
      have hgone : below.filter (fun id ↦ id ∉ removed) = [] := by
        refine List.filter_eq_nil_iff.2 fun a ha ↦ ?_
        obtain ⟨p, hp, hreach⟩ := hbelow.exists_reaches ha
        simpa using (hremoved a).2 (over_iff_lists.2 ⟨p, hp, hreach⟩)
      rw [hpremises, if_pos (.inr rfl), hgone]
      exact .nil
    · rw [hpremises, if_neg (not_or.2 ⟨hid, hparent⟩)]
      exact ihbelow fun p hp ↦ h.forest.premise_notMem_removed hremoved hp hid hparent

/-- What is left of a subtree that stays is in the same order. -/
theorem Rooted.subtree_reopen (hn : n ∉ removed) :
    n :: (t.reopen parent removed).descendants n =
      (n :: t.descendants n).filter fun id ↦ id ∉ removed :=
  ((h.reopen hremoved).depthFirst_subtree n).unique
    (h.depthFirst_reopen hremoved (h.depthFirst_subtree n) fun _ hid ↦ by
      rwa [List.mem_singleton.1 hid])

omit h hremoved in
/-- Where nothing has been removed and the reopened node is not, the open nodes are the same. -/
theorem filter_isOpenAt_reopen (hids : ∀ id ∈ ids, id ∉ removed ∧ id ≠ parent) :
    (ids.filter fun id ↦ id ∉ removed).filter (t.reopen parent removed).isOpenAt =
      ids.filter t.isOpenAt := by
  have hkept : ids.filter (fun id ↦ id ∉ removed) = ids :=
    List.filter_eq_self.2 fun id hid ↦ by simpa using (hids id hid).1
  rw [hkept]
  refine List.filter_congr fun id hid ↦ ?_
  obtain ⟨hstays, hne⟩ := hids id hid
  rw [isOpenAt, find?_reopen, if_neg hstays, if_neg hne, isOpenAt]

/-- Of the subtree of the reopened node only the node itself is left, and it is open. -/
theorem Rooted.filter_isOpenAt_reopened (hparent : t.contains parent) :
    ((parent :: t.descendants parent).filter fun id ↦ id ∉ removed).filter
      (t.reopen parent removed).isOpenAt = [parent] := by
  have hstays := h.parent_notMem_removed hremoved
  have hbelow : (t.descendants parent).filter (fun id ↦ id ∉ removed) = [] :=
    List.filter_eq_nil_iff.2 fun id hid ↦ by
      simpa using (hremoved id).2 (h.mem_descendants.1 hid)
  have hopen : (t.reopen parent removed).isOpenAt parent := by
    obtain ⟨m, hm⟩ := contains_iff.1 hparent
    rw [isOpenAt, find?_reopen, if_neg hstays, if_pos rfl, hm]
    rfl
  rw [List.filter_cons_of_pos (by simpa using hstays), hbelow, List.filter_cons_of_pos hopen,
    List.filter_nil]

/-- **A reopened node comes into the place of the goals below it.** -/
theorem Rooted.openGoals_reopen_of_reaches (hparent : t.contains parent)
    (hreach : t.Reaches n parent) :
    ∃ before after,
      n :: t.descendants n = before ++ (parent :: t.descendants parent) ++ after ∧
      t.openGoals n =
        before.filter t.isOpenAt ++ t.openGoals parent ++ after.filter t.isOpenAt ∧
      (t.reopen parent removed).openGoals n =
        before.filter t.isOpenAt ++ [parent] ++ after.filter t.isOpenAt := by
  obtain ⟨before, after, hsplit⟩ := h.exists_subtree_eq hreach
  have hnodup := h.nodup_subtree n
  rw [hsplit, List.nodup_append', List.nodup_append'] at hnodup
  obtain ⟨⟨-, -, hbefore⟩, -, hafter⟩ := hnodup
  have hn : n ∉ removed := fun hmem ↦ h.acyclic parent (((hremoved n).1 hmem).trans_left hreach)
  -- on either side of the reopened node nothing has changed
  have hstays : ∀ id, id ∉ parent :: t.descendants parent → id ∉ removed ∧ id ≠ parent := by
    intro id hid
    rw [List.mem_cons, not_or, h.mem_descendants, ← hremoved] at hid
    exact hid.symm
  have hfirst := filter_isOpenAt_reopen (t := t) fun id hid ↦ hstays id (hbefore hid)
  have hlast := filter_isOpenAt_reopen (t := t) fun id hid ↦
    hstays id fun hmem ↦ hafter (List.mem_append_right _ hmem) hid
  refine ⟨before, after, hsplit, ?_, ?_⟩
  · rw [openGoals, hsplit, List.filter_append, List.filter_append, openGoals]
  · rw [openGoals, h.subtree_reopen hremoved hn, hsplit]
    simp only [List.filter_append, hfirst, hlast, h.filter_isOpenAt_reopened hremoved hparent]

/-- Where the reopened node is not reached, the goals stay as they are. -/
theorem Rooted.openGoals_reopen_of_not_reaches (hn : n ∉ removed)
    (hreach : ¬ t.Reaches n parent) :
    (t.reopen parent removed).openGoals n = t.openGoals n := by
  rw [openGoals, h.subtree_reopen hremoved hn, filter_isOpenAt_reopen, openGoals]
  intro id hid
  have hbelow := h.reaches_iff.2 hid
  refine ⟨fun hmem ↦ ?_, fun heq ↦ hreach (heq ▸ hbelow)⟩
  -- a node below both `n` and the parent puts one of them below the other
  have hover := (hremoved id).1 hmem
  rcases h.reaches_total hbelow hover.reaches with hdown | hup
  · exact hreach hdown
  · rcases hup.eq_or_over with rfl | hover
    · exact hreach .refl
    · exact hn ((hremoved n).2 hover)

end Reopen

/-! ## Both -/

/-- **A change keeps the open goals in their order.**  A graft puts its leaves in the place of its
target, in the goals of every node that had the target among them, and leaves the goals of every
other node as they are.  A deletion of a premise of `p` puts `p` in the place of the goals below
`p`, at `p` and every node above it, also where there were none; where these stood is told by the
nodes that stand before and behind the subtree of `p` in the walk.  The goals of every other node
that stays are as they were. -/
theorem openGoals_inPlace (h : Reachable root goal t) :
    (∀ target rule leaves t', t.Unused (leaves.map Prod.fst) →
      t.graft target rule leaves = .ok t' → ∀ n, t.contains n →
        (∀ pre post, t.openGoals n = pre ++ target :: post →
          t'.openGoals n = pre ++ leaves.map Prod.fst ++ post) ∧
        (target ∉ t.openGoals n → t'.openGoals n = t.openGoals n)) ∧
    ∀ p id removed t', t.Lists p id → t.delete id = .ok (removed, t') →
      (∀ n, t.Reaches n p → ∃ before after,
        n :: t.descendants n = before ++ (p :: t.descendants p) ++ after ∧
        t.openGoals n = before.filter t.isOpenAt ++ t.openGoals p ++ after.filter t.isOpenAt ∧
        t'.openGoals n = before.filter t.isOpenAt ++ [p] ++ after.filter t.isOpenAt) ∧
      ∀ n, t'.contains n → ¬ t.Reaches n p → t'.openGoals n = t.openGoals n := by
  have hgrown := h.grown
  refine ⟨fun target rule leaves t' hunused hgraft n hn ↦ ?_,
    fun p id removed t' hlists hdelete ↦ ?_⟩
  · have hplace := hgrown.openGoals_graft hgraft hunused hn
    refine ⟨fun pre post hgoals ↦ ?_, fun hgoals ↦ hplace.trans (inPlaceOf_of_notMem hgoals)⟩
    have hnodup : (t.openGoals n).Nodup := (hgrown.nodup_subtree n).filter _
    rw [hgoals] at hplace hnodup
    exact hplace.trans (inPlaceOf_split hnodup)
  · obtain ⟨-, -, -, parent, hparent, rfl, rfl⟩ := delete_eq_ok_iff.1 hdelete
    obtain rfl := hgrown.parent_unique hlists (hgrown.parent?_eq_some_iff.1 hparent)
    have hremoved : ∀ id, id ∈ t.descendants p ↔ t.Over p id := fun _ ↦ hgrown.mem_descendants
    exact ⟨fun n ↦ hgrown.openGoals_reopen_of_reaches hremoved hlists.contains,
      fun n hn ↦ hgrown.openGoals_reopen_of_not_reaches hremoved (contains_reopen.1 hn).2⟩

/-- A conjunction is split, and so is its right part, whose own parts are closed. -/
def closedRight : List Change :=
  [.graft (.ofNat 1) .andIntro [(.ofNat 2, conjunction), (.ofNat 3, conjunction)],
    .graft (.ofNat 3) .andIntro [(.ofNat 4, conjunction), (.ofNat 5, conjunction)],
    .graft (.ofNat 4) .axiomatic [], .graft (.ofNat 5) .axiomatic []]

theorem openGoals_inPlace_closedRight :
    let t := (ProofTree.new (.ofNat 1) conjunction).changes closedRight
    Reachable (.ofNat 1) conjunction t ∧ t.openGoals (.ofNat 3) = [] ∧
      (∃ t', t.graft (.ofNat 2) .andIntro [(.ofNat 6, conjunction), (.ofNat 7, conjunction)] =
          .ok t' ∧
        t'.openGoals (.ofNat 1) = [.ofNat 6, .ofNat 7] ∧ t'.openGoals (.ofNat 3) = []) ∧
      ∃ t', t.delete (.ofNat 4) = .ok ([.ofNat 4, .ofNat 5], t') ∧
        t'.openGoals (.ofNat 2) = [.ofNat 2] ∧
        ∃ before after,
          [.ofNat 1, .ofNat 2, .ofNat 3, .ofNat 4, .ofNat 5] =
            before ++ [.ofNat 3, .ofNat 4, .ofNat 5] ++ after ∧
          [.ofNat 2] = before.filter t.isOpenAt ++ [] ++ after.filter t.isOpenAt ∧
          t'.openGoals (.ofNat 1) =
            before.filter t.isOpenAt ++ [.ofNat 3] ++ after.filter t.isOpenAt := by
  intro t
  have h : Reachable (.ofNat 1) conjunction t := Reachable.new.changes (by decide)
  have hdescendants : .ofNat 1 :: t.descendants (.ofNat 1) =
      [.ofNat 1, .ofNat 2, .ofNat 3, .ofNat 4, .ofNat 5] := by decide
  have hbelow : .ofNat 3 :: t.descendants (.ofNat 3) = [.ofNat 3, .ofNat 4, .ofNat 5] := by decide
  have hgoals : t.openGoals (.ofNat 1) = [.ofNat 2] := by decide
  have hclosed : t.openGoals (.ofNat 3) = [] := by decide
  obtain ⟨hgraft, hdelete⟩ := openGoals_inPlace h
  refine ⟨h, hclosed, ?_, ?_⟩
  · have hdone : t.graft (.ofNat 2) .andIntro [(.ofNat 6, conjunction), (.ofNat 7, conjunction)] =
        .ok (t.grafted (.ofNat 2) .andIntro [(.ofNat 6, conjunction), (.ofNat 7, conjunction)]) :=
      graft_eq_ok_iff.2 ⟨⟨.leaf (.ofNat 2) conjunction, rfl, rfl⟩, rfl⟩
    have hgoals' := hgraft _ _ _ _ (by decide) hdone
    exact ⟨_, hdone, (hgoals' (.ofNat 1) (by decide)).1 [] [] hgoals,
      ((hgoals' (.ofNat 3) (by decide)).2 (by decide)).trans hclosed⟩
  · have hlists : .ofNat 4 ∈ t.premisesOf (.ofNat 3) := by decide
    have hpremise : .ofNat 3 ∈ t.premisesOf (.ofNat 1) := by decide
    have hdone : t.delete (.ofNat 4) =
        .ok ([.ofNat 4, .ofNat 5], t.reopen (.ofNat 3) [.ofNat 4, .ofNat 5]) :=
      delete_eq_ok_iff.2 ⟨by decide, by decide, by decide, .ofNat 3, by decide, by decide, rfl⟩
    obtain ⟨habove, hbeside⟩ := hdelete _ _ _ _ hlists hdone
    have hnot : ¬ t.Reaches (.ofNat 2) (.ofNat 3) := by
      rw [h.grown.reaches_iff]
      decide
    obtain ⟨before, after, hwalk, hold, hnew⟩ := habove _ (.single hpremise)
    rw [hdescendants, hbelow] at hwalk
    rw [hgoals, hclosed] at hold
    exact ⟨_, hdone, (hbeside (.ofNat 2) (by decide) hnot).trans (by decide), before, after, hwalk,
      hold, hnew⟩

end ProofTree

end Sequitur
