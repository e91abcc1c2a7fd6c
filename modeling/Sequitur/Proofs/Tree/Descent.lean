import Sequitur.Proofs.Tree.Deletion

/-!
# The way up and the way down

A node does not say where it hangs.  Its parent is found by a search through all nodes, and what
lies below it by a walk that follows premises and remembers what it has met.  In a tree with a
history the two describe the same relation: `ancestry_agrees`.

What the walk remembers makes no difference there.  It is needed where a node could be met twice,
and `ProofTree.MeetsAgain` says that this happens on a visit; the lists of premises that a rooted
collection holds below different nodes are disjoint, so it never does (`Rooted.not_meetsAgain`).
Hence the walk is the plain recursion: a premise and what lies below it, then the next premise
(`Rooted.descendants_eq_flatMap`).
-/

set_option autoImplicit false

namespace Sequitur

namespace ProofTree

variable {t : ProofTree} {root p x y id : NodeId} {goal : Sequent}
  {ids seen before after : List NodeId} {bound : Nat}

/-! ## Up -/

/-- The search for the parent of a stored node finds nothing exactly at the root. -/
theorem Rooted.parent?_eq_none_iff (h : t.Rooted) (hx : t.contains x) :
    t.parent? x = none ↔ x = t.root := by
  constructor
  · intro hnone
    by_contra hne
    obtain ⟨p, hp⟩ := h.exists_parent? hx hne
    rw [hnone] at hp
    cases hp
  · rintro rfl
    refine Option.eq_none_iff_forall_ne_some.2 fun p hp ↦ ?_
    exact h.root_unlisted p (h.parent?_eq_some_iff.1 hp)

/-- Searching for parents again and again leads to the nodes that stand over an id. -/
theorem Rooted.transGen_parent?_iff (h : t.Rooted) :
    Relation.TransGen (fun a b ↦ t.parent? a = some b) x y ↔ t.Over y x := by
  have hswap : (fun a b ↦ t.parent? a = some b) = Function.swap t.Lists := by
    funext a b
    exact propext h.parent?_eq_some_iff
  rw [hswap, Relation.transGen_swap, Over]

/-! ## Down -/

/-- Subtrees in a row are in depth-first order. -/
theorem Rooted.depthFirst_flatMap (h : t.Rooted) (ids : List NodeId) :
    t.DepthFirst ids (ids.flatMap fun id ↦ id :: t.descendants id) := by
  induction ids with
  | nil => exact .nil
  | cons id ids ih =>
    rw [List.flatMap_cons]
    exact .cons (h.depthFirst_descendants id) ih

/-- The descendants of a node are its premises, each followed by its own descendants. -/
theorem Rooted.descendants_eq_flatMap (h : t.Rooted) (y : NodeId) :
    t.descendants y = (t.premisesOf y).flatMap fun p ↦ p :: t.descendants p :=
  (h.depthFirst_descendants y).unique (h.depthFirst_flatMap (t.premisesOf y))

/-- The walk from the root meets all nodes. -/
theorem Rooted.subtree_root_perm (h : t.Rooted) :
    (t.root :: t.descendants t.root).Perm t.order := by
  refine (List.perm_ext_iff_of_nodup (h.nodup_subtree t.root) h.order_nodup).2 fun id ↦ ?_
  rw [← h.reaches_iff, h.mem_order]
  exact ⟨h.contains_of_reaches h.contains_root, h.reached id⟩

/-! ## What has been seen -/

/-- A visit comes upon an id that has been seen: the one that is visited, or, when the premises
before it have been visited, one that is visited from there. -/
inductive MeetsAgain (t : ProofTree) : Nat → List NodeId → NodeId → Prop
  | here {bound : Nat} {seen : List NodeId} {id : NodeId} (hseen : id ∈ seen) :
    MeetsAgain t bound seen id
  | inside {bound : Nat} {seen before after : List NodeId} {id p : NodeId} (hnew : id ∉ seen)
      (hpremises : t.premisesOf id = before ++ p :: after)
      (h : MeetsAgain t bound (before.foldl (t.visit bound) (seen ++ [id])) p) :
    MeetsAgain t (bound + 1) seen id

/-- When the ids before it have been visited, an id is visited with nothing seen of what lies below
it, as long as the plain walks meet nothing twice and nothing that has been seen. -/
theorem disjoint_foldl_visit (hids : ids = before ++ p :: after)
    (hnodup : (ids.flatMap (t.preorder bound)).Nodup)
    (hseen : seen.Disjoint (ids.flatMap (t.preorder bound))) :
    (before.foldl (t.visit bound) seen).Disjoint (t.preorder bound p) := by
  rw [hids, List.flatMap_append, List.flatMap_cons] at hnodup hseen
  obtain ⟨hbefore, -, hapart⟩ := List.nodup_append'.1 hnodup
  obtain ⟨hseenBefore, hseenRest⟩ := List.disjoint_append_right.1 hseen
  have hvisited : before.foldl (t.visit bound) seen =
      seen ++ before.flatMap (t.preorder bound) :=
    foldl_visit_eq
      (fun q hq s ↦ visit_eq_append_preorder ((List.nodup_flatMap.1 hbefore).1 q hq)) hbefore
      hseenBefore
  rw [hvisited]
  exact List.disjoint_append_left.2 ⟨(List.disjoint_append_right.1 hseenRest).1,
    (List.disjoint_append_right.1 hapart).1⟩

/-- Where the plain walk meets nothing twice and nothing that has been seen, neither does a
visit. -/
theorem not_meetsAgain (hnodup : (t.preorder bound id).Nodup)
    (hseen : seen.Disjoint (t.preorder bound id)) : ¬ t.MeetsAgain bound seen id := by
  intro hagain
  induction hagain with
  | @here bound seen id hmem => exact hseen hmem (by cases bound <;> simp [preorder])
  | @inside bound seen before after id p hnew hpremises _ ih =>
    rw [preorder] at hnodup hseen
    obtain ⟨hid, hbelow⟩ := List.nodup_cons.1 hnodup
    have hp : p ∈ t.premisesOf id := by simp [hpremises]
    refine ih ((List.nodup_flatMap.1 hbelow).1 p hp) (disjoint_foldl_visit hpremises hbelow ?_)
    exact List.disjoint_append_left.2
      ⟨(List.disjoint_cons_right.1 hseen).2, List.singleton_disjoint.2 hid⟩

/-- In a rooted collection the walk below a node comes upon nothing that it has seen. -/
theorem Rooted.not_meetsAgain (h : t.Rooted) (hpremises : t.premisesOf y = before ++ p :: after) :
    ¬ t.MeetsAgain t.size (before.foldl (t.visit t.size) []) p :=
  ProofTree.not_meetsAgain (h.nodup_preorder t.size)
    (disjoint_foldl_visit hpremises (h.nodup_flatMap_preorder t.size y) (List.disjoint_nil_left _))

/-! ## Both ways -/

/-- **The search up and the walk down agree.**  Whatever was done to a tree, the search for a parent
finds nothing at the root, and at every other stored node the only node that lists it.  A node is
among the descendants of another one when searching for parents once or more leads from the one to
the other.  The descendants of a node are its premises in their order, each followed by its own
descendants, nothing is among them twice, and the walk that finds them never comes upon an id that
it has seen.  The root and its descendants are all nodes, in some other order. -/
theorem ancestry_agrees (h : Reachable root goal t) :
    (∀ x, t.contains x →
      (t.parent? x = none ↔ x = t.root) ∧
      ∀ p, t.parent? x = some p → ∀ a, t.Lists a x ↔ a = p) ∧
    (∀ x y, t.contains x → t.contains y →
      (x ∈ t.descendants y ↔ Relation.TransGen (fun a b ↦ t.parent? a = some b) x y)) ∧
    (∀ y, t.contains y →
      t.descendants y = ((t.premisesOf y).flatMap fun p ↦ p :: t.descendants p) ∧
      (t.descendants y).Nodup ∧
      ∀ before p after, t.premisesOf y = before ++ p :: after →
        ¬ t.MeetsAgain t.size (before.foldl (t.visit t.size) []) p) ∧
    (t.root :: t.descendants t.root).Perm t.order := by
  have hrooted := h.grown.toRooted
  refine ⟨fun x hx ↦ ⟨hrooted.parent?_eq_none_iff hx, fun p hp ↦ ?_⟩, fun x y _ _ ↦ ?_,
    fun y _ ↦ ⟨hrooted.descendants_eq_flatMap y, hrooted.nodup_descendants y,
      fun _ _ _ ↦ hrooted.not_meetsAgain⟩, hrooted.subtree_root_perm⟩
  · exact hrooted.lists_iff_eq (hrooted.parent?_eq_some_iff.1 hp)
  · rw [hrooted.mem_descendants, hrooted.transGen_parent?_iff]

/-- A conjunction is split, then its second part, and only then its first one. -/
def secondFirst : List Change :=
  [.graft (.ofNat 1) .andIntro [(.ofNat 2, conjunction), (.ofNat 3, conjunction)],
    .graft (.ofNat 3) .andIntro [(.ofNat 4, conjunction), (.ofNat 5, conjunction)],
    .graft (.ofNat 2) .andIntro [(.ofNat 6, conjunction)]]

theorem ancestry_agrees_secondFirst :
    let t := (ProofTree.new (.ofNat 1) conjunction).changes secondFirst
    Reachable (.ofNat 1) conjunction t ∧ t.contains (.ofNat 5) ∧ t.contains (.ofNat 1) ∧
      t.parent? (.ofNat 1) = none ∧ t.parent? (.ofNat 5) = some (.ofNat 3) ∧
      (∀ a, t.Lists a (.ofNat 5) ↔ a = .ofNat 3) ∧
      Relation.TransGen (fun a b ↦ t.parent? a = some b) (.ofNat 5) (.ofNat 1) ∧
      t.premisesOf (.ofNat 1) = [.ofNat 2] ++ .ofNat 3 :: [] ∧
      ¬ t.MeetsAgain t.size ([.ofNat 2].foldl (t.visit t.size) []) (.ofNat 3) ∧
      ([.ofNat 1, .ofNat 2, .ofNat 6, .ofNat 3, .ofNat 4, .ofNat 5] : List NodeId).Perm
        [.ofNat 1, .ofNat 2, .ofNat 3, .ofNat 4, .ofNat 5, .ofNat 6] := by
  intro t
  have h : Reachable (.ofNat 1) conjunction t := Reachable.new.changes (by decide)
  have hfive : t.contains (.ofNat 5) := by decide
  have hone : t.contains (.ofNat 1) := by decide
  have hparent : t.parent? (.ofNat 5) = some (.ofNat 3) := by decide
  have hpremises : t.premisesOf (.ofNat 1) = [.ofNat 2] ++ .ofNat 3 :: [] := by decide
  have hbelow : t.descendants (.ofNat 1) = [.ofNat 2, .ofNat 6, .ofNat 3, .ofNat 4, .ofNat 5] := by
    decide
  have horder : t.order = [.ofNat 1, .ofNat 2, .ofNat 3, .ofNat 4, .ofNat 5, .ofNat 6] := by decide
  obtain ⟨hup, hagree, hdown, hperm⟩ := ancestry_agrees h
  have hroot : t.root = .ofNat 1 := h.root_eq
  rw [hroot, hbelow, horder] at hperm
  exact ⟨h, hfive, hone, (hup _ hone).1.2 hroot.symm, hparent, (hup _ hfive).2 _ hparent,
    (hagree _ _ hfive hone).1 (by rw [hbelow]; decide), hpremises,
    (hdown _ hone).2.2 _ _ _ hpremises, hperm⟩

end ProofTree

end Sequitur
