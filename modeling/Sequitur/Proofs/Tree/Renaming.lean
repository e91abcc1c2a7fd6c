import Mathlib.Data.Set.Function
import Sequitur.Proofs.Tree.History
import Sequitur.Proofs.Tree.Snapshot
import Sequitur.Tree.Typeset

/-!
# Ids are only names

Ids are thought up at random, and a proof is the same proof under other ids.  What the walks find in
a tree and what is typeset of it follows the premises from node to node and reads sequents and
rules, so under other ids the walks find the renamed nodes, and the document is the same text.

`ProofTree.Renames` is what the proofs need: on a set of ids that holds every premise, one tree
holds what the other one does under other names, and both have as many nodes, which is the bound
that the walks are given.  There is one lemma for each reader of a tree, by induction on that bound.

* `ProofTree.SameProof` — a one-to-one correspondence between the nodes of two trees that respects
  the root, the sequents, the rules and the order of premises.
* `sameProof_reads` — **two trees with such a correspondence read the same**, however their ids, the
  order of their nodes, their focus and their revision differ.
-/

set_option autoImplicit false

namespace Sequitur

/-- A node under another id, with other ids for its premises. -/
def Node.rename (f : NodeId → NodeId) (n : Node) : Node :=
  { n with id := f n.id, premises := n.premises.map f }

@[simp]
theorem Node.isOpen_rename (f : NodeId → NodeId) (n : Node) : (n.rename f).isOpen = n.isOpen := by
  simp [isOpen, rename]

namespace ProofTree

variable {t t' : ProofTree} {f : NodeId → NodeId} {ids : Set NodeId} {a : NodeId} {n : Node}

/-! ## Other names -/

/-- On a set of ids that holds every premise, another tree holds the same nodes under other names;
and it is as large. -/
structure Renames (t : ProofTree) (f : NodeId → NodeId) (ids : Set NodeId) (t' : ProofTree) :
    Prop where
  /-- Different ids have different names. -/
  injOn : Set.InjOn f ids
  /-- Every premise is among the ids. -/
  premise_mem : ∀ a p, t.Lists a p → p ∈ ids
  /-- What is found under an id is found under its name. -/
  find?_eq : ∀ a ∈ ids, t'.find? (f a) = (t.find? a).map (.rename f)
  /-- There are as many nodes. -/
  size_eq : t'.size = t.size

namespace Renames

variable (h : t.Renames f ids t')

include h

theorem premisesOf_eq (ha : a ∈ ids) : t'.premisesOf (f a) = (t.premisesOf a).map f := by
  rw [premisesOf, premisesOf, h.find?_eq a ha]
  cases t.find? a <;> rfl

theorem mem_of_mem_premises (hn : t.find? a = some n) : ∀ p ∈ n.premises, p ∈ ids :=
  fun p hp ↦ h.premise_mem a p (lists_iff_find?.2 ⟨n, hn, hp⟩)

/-- A name is among names when its id is among the ids. -/
theorem mem_map_iff (ha : a ∈ ids) {seen : List NodeId} (hseen : ∀ x ∈ seen, x ∈ ids) :
    f a ∈ seen.map f ↔ a ∈ seen := by
  refine ⟨fun hmem ↦ ?_, List.mem_map_of_mem⟩
  obtain ⟨b, hb, heq⟩ := List.mem_map.1 hmem
  exact h.injOn (hseen b hb) ha heq ▸ hb

/-! ## Descendants -/

/-- Visits in a row stay within the ids. -/
theorem foldl_visit_subset {bound : Nat} {ps seen : List NodeId} (hps : ∀ p ∈ ps, p ∈ ids)
    (hseen : ∀ x ∈ seen, x ∈ ids) : ∀ x ∈ ps.foldl (t.visit bound) seen, x ∈ ids := by
  intro x hx
  rcases mem_foldl_visit (fun _ _ ↦ mem_visit) hx with hx | ⟨p, hp, hreach⟩
  · exact hseen x hx
  · rcases hreach.eq_or_over with rfl | hover
    · exact hps p hp
    · obtain ⟨b, -, hb⟩ := over_iff_listed.1 hover
      exact h.premise_mem b x hb

/-- Visits in a row see the renamed nodes when each of them does. -/
theorem foldl_visit_map {bound : Nat} {ps seen : List NodeId}
    (hvisit : ∀ p ∈ ids, ∀ seen : List NodeId, (∀ x ∈ seen, x ∈ ids) →
      t'.visit bound (seen.map f) (f p) = (t.visit bound seen p).map f)
    (hps : ∀ p ∈ ps, p ∈ ids) (hseen : ∀ x ∈ seen, x ∈ ids) :
    (ps.map f).foldl (t'.visit bound) (seen.map f) = (ps.foldl (t.visit bound) seen).map f := by
  induction ps generalizing seen with
  | nil => rfl
  | cons p ps ih =>
    obtain ⟨hp, hrest⟩ := List.forall_mem_cons.1 hps
    have hvisited : ∀ x ∈ t.visit bound seen p, x ∈ ids :=
      h.foldl_visit_subset (List.forall_mem_singleton.2 hp) hseen
    rw [List.map_cons, List.foldl_cons, hvisit p hp seen hseen, ih hrest hvisited, List.foldl_cons]

/-- A visit under other names sees the renamed nodes. -/
theorem visit_map {bound : Nat} (ha : a ∈ ids) {seen : List NodeId} (hseen : ∀ x ∈ seen, x ∈ ids) :
    t'.visit bound (seen.map f) (f a) = (t.visit bound seen a).map f := by
  induction bound generalizing a seen with
  | zero =>
    simp only [visit, h.mem_map_iff ha hseen]
    split
    · rfl
    · rw [List.map_append, List.map_singleton]
  | succ bound ih =>
    simp only [visit, h.mem_map_iff ha hseen]
    split
    · rfl
    · have hnext : ∀ x ∈ seen ++ [a], x ∈ ids :=
        List.forall_mem_append.2 ⟨hseen, List.forall_mem_singleton.2 ha⟩
      rw [h.premisesOf_eq ha, ← List.map_singleton, ← List.map_append,
        h.foldl_visit_map (fun p hp seen hseen ↦ ih hp hseen) (h.premise_mem a) hnext]

theorem descendants_eq (ha : a ∈ ids) : t'.descendants (f a) = (t.descendants a).map f := by
  rw [descendants, descendants, descendantsWithin, descendantsWithin, h.size_eq,
    h.premisesOf_eq ha]
  exact h.foldl_visit_map (fun p hp seen hseen ↦ h.visit_map hp hseen) (h.premise_mem a)
    (List.forall_mem_nil _)

theorem descendants_subset (a : NodeId) : ∀ x ∈ t.descendants a, x ∈ ids :=
  h.foldl_visit_subset (h.premise_mem a) (List.forall_mem_nil _)

/-! ## Completeness and open goals -/

theorem isCompleteWithin_eq {bound : Nat} (ha : a ∈ ids) :
    t'.isCompleteWithin bound (f a) = t.isCompleteWithin bound a := by
  induction bound generalizing a with
  | zero => rfl
  | succ bound ih =>
    rw [isCompleteWithin, isCompleteWithin, h.find?_eq a ha]
    cases hn : t.find? a with
    | none => rfl
    | some n =>
      have hall : (n.premises.map f).all (t'.isCompleteWithin bound) =
          n.premises.all (t.isCompleteWithin bound) := by
        rw [Bool.eq_iff_iff, List.all_map, List.all_eq_true, List.all_eq_true]
        exact forall₂_congr fun p hp ↦ by rw [Function.comp, ih (h.mem_of_mem_premises hn p hp)]
      exact congrArg (n.rule.isSome && ·) hall

theorem isComplete_eq (ha : a ∈ ids) : t'.isComplete (f a) = t.isComplete a := by
  rw [isComplete, isComplete, h.size_eq, h.isCompleteWithin_eq ha]

theorem isOpenAt_eq (ha : a ∈ ids) : t'.isOpenAt (f a) = t.isOpenAt a := by
  rw [isOpenAt, isOpenAt, h.find?_eq a ha]
  cases t.find? a <;> simp

theorem openGoals_eq (ha : a ∈ ids) : t'.openGoals (f a) = (t.openGoals a).map f := by
  have hids : ∀ x ∈ a :: t.descendants a, x ∈ ids :=
    List.forall_mem_cons.2 ⟨ha, h.descendants_subset a⟩
  rw [openGoals, openGoals, h.descendants_eq ha, ← List.map_cons, List.filter_map]
  exact congrArg (List.map f) (List.filter_congr fun x hx ↦ h.isOpenAt_eq (hids x hx))

/-! ## Typesetting -/

/-- The premises of a node are found under their names. -/
theorem filterMap_find? {ps : List NodeId} (hps : ∀ p ∈ ps, p ∈ ids) :
    (ps.map f).filterMap t'.find? = (ps.filterMap t.find?).map (.rename f) := by
  rw [List.filterMap_map, List.map_filterMap]
  exact List.filterMap_congr fun p hp ↦ h.find?_eq p (hps p hp)

theorem eliminatedVariable?_eq (hn : ∀ p ∈ n.premises, p ∈ ids) :
    t'.eliminatedVariable? (n.rename f) = t.eliminatedVariable? n := by
  have hfind : ∀ p ∈ n.premises,
      ((t'.find? (f p)).bind fun m ↦ m.sequent.goal.existentialVariable?) =
        (t.find? p).bind fun m ↦ m.sequent.goal.existentialVariable? := by
    intro p hp
    rw [h.find?_eq p (hn p hp)]
    cases t.find? p <;> rfl
  rw [eliminatedVariable?, eliminatedVariable?, ← List.head?_filterMap, ← List.head?_filterMap,
    ← List.filterMap_congr hfind, Node.rename, List.filterMap_map]
  rfl

theorem footnote?_eq (hn : ∀ p ∈ n.premises, p ∈ ids) :
    t'.footnote? (n.rename f) = t.footnote? n := by
  simp only [footnote?, footnoteVariable, h.eliminatedVariable?_eq hn]
  rfl

omit h in
/-- Subtrees in a row are typeset alike when each of them is. -/
theorem typesetAll_map {typesetOne typesetOne' : Node → Nat → Typesetting} {ns : List Node}
    (hone : ∀ n ∈ ns, ∀ number, typesetOne' (n.rename f) number = typesetOne n number)
    (number : Nat) :
    typesetAll typesetOne' (ns.map (.rename f)) number = typesetAll typesetOne ns number := by
  induction ns generalizing number with
  | nil => rfl
  | cons n ns ih =>
    obtain ⟨hn, hns⟩ := List.forall_mem_cons.1 hone
    rw [List.map_cons, typesetAll, typesetAll, hn, ih hns]

theorem typesetWithin_eq {bound : Nat} (hn : ∀ p ∈ n.premises, p ∈ ids) (number : Nat) :
    t'.typesetWithin bound (n.rename f) number = t.typesetWithin bound n number := by
  induction bound generalizing n number with
  | zero => rfl
  | succ bound ih =>
    have hone : ∀ m ∈ n.premises.filterMap t.find?, ∀ number,
        t'.typesetWithin bound (m.rename f) number = t.typesetWithin bound m number := by
      intro m hm number
      obtain ⟨p, -, hp⟩ := List.mem_filterMap.1 hm
      exact ih (h.mem_of_mem_premises hp) number
    have hpremises : (n.rename f).premises.filterMap t'.find? =
        (n.premises.filterMap t.find?).map (.rename f) := h.filterMap_find? hn
    simp only [typesetWithin, h.footnote?_eq hn, hpremises, typesetAll_map hone]
    rfl

theorem typesetNode_eq (hn : t.find? a = some n) (number : Nat) :
    t'.typesetNode (n.rename f) number = t.typesetNode n number := by
  rw [typesetNode, typesetNode, h.size_eq, h.typesetWithin_eq (h.mem_of_mem_premises hn)]

theorem typeset_eq (ha : a ∈ ids) (hn : t.find? a = some n) : t'.typeset (f a) = t.typeset a := by
  have hn' : t'.find? (f a) = some (n.rename f) := by rw [h.find?_eq a ha, hn]; rfl
  simp only [typeset, hn, hn', h.typesetNode_eq hn]
  rfl

end Renames

/-! ## The same ids -/

/-- Two trees have the same nodes, and as many ids in the order. -/
structure SameNodes (t t' : ProofTree) : Prop where
  /-- The nodes are the same. -/
  find?_eq : t.find? = t'.find?
  /-- There are as many. -/
  size_eq : t.size = t'.size

namespace SameNodes

variable (h : t.SameNodes t')

include h

theorem renames : t.Renames id Set.univ t' where
  injOn := Set.injOn_id _
  premise_mem _ _ _ := trivial
  find?_eq a _ := by
    have hrename : Node.rename id = id := funext fun n ↦ by simp [Node.rename]
    rw [id, h.find?_eq, hrename, Option.map_id, id]
  size_eq := h.size_eq.symm

theorem descendants_eq : t.descendants = t'.descendants := by
  funext a
  rw [← List.map_id (t.descendants a), ← h.renames.descendants_eq trivial, id]

theorem isComplete_eq : t.isComplete = t'.isComplete := by
  funext a
  rw [← h.renames.isComplete_eq trivial, id]

theorem openGoals_eq : t.openGoals = t'.openGoals := by
  funext a
  rw [← List.map_id (t.openGoals a), ← h.renames.openGoals_eq trivial, id]

theorem typeset_eq : t.typeset = t'.typeset := by
  funext a
  cases hn : t.find? a with
  | none => simp only [typeset, ← h.find?_eq, hn]
  | some n => rw [← h.renames.typeset_eq trivial hn, id]

end SameNodes

/-! ## The same proof -/

/-- Trees that the program comes to hold: those with a history from a single goal, and those that
are accepted from outside. -/
def Admitted (t : ProofTree) : Prop :=
  (∃ root goal, Reachable root goal t) ∨ ∃ root ns, ofSnapshot root ns = .ok t

theorem Admitted.rooted (h : t.Admitted) : t.Rooted := by
  rcases h with ⟨root, goal, h⟩ | ⟨root, ns, h⟩
  · exact h.grown.toRooted
  · obtain ⟨htree, rfl⟩ := ofSnapshot_eq_ok_iff.1 h
    exact htree.rooted

/-- A one-to-one correspondence between the nodes of two trees, given by their ids, that respects
what a proof consists of: the root, and at every node the sequent, the rule and the premises in
their order. -/
structure SameProof (t : ProofTree) (f : NodeId → NodeId) (t' : ProofTree) : Prop where
  /-- The correspondence is one-to-one. -/
  bijOn : Set.BijOn f {a | t.contains a} {a | t'.contains a}
  /-- The root corresponds to the root. -/
  root_eq : f t.root = t'.root
  /-- Nodes that correspond say the same. -/
  node_eq : ∀ a n n', t.find? a = some n → t'.find? (f a) = some n' →
    n'.sequent = n.sequent ∧ n'.rule = n.rule ∧ n'.premises = n.premises.map f

/-- What corresponds to a stored node is stored, and is the node under other names. -/
theorem SameProof.find?_eq (h : t.SameProof f t') (ht : t.Rooted) (ht' : t'.Rooted)
    (hn : t.find? a = some n) : t'.find? (f a) = some (n.rename f) := by
  obtain ⟨n', hn'⟩ := contains_iff.1 (h.bijOn.mapsTo (contains_iff.2 ⟨n, hn⟩))
  have hid := ht.id_eq a n hn
  have hid' := ht'.id_eq (f a) n' hn'
  obtain ⟨hsequent, hrule, hpremises⟩ := h.node_eq a n n' hn hn'
  cases n'
  simp_all [Node.rename]

/-- Trees with such a correspondence are as large as each other. -/
theorem SameProof.size_eq (h : t.SameProof f t') (ht : t.Rooted) (ht' : t'.Rooted) :
    t'.size = t.size := by
  have hnodup : (t.order.map f).Nodup := ht.order_nodup.map_on fun a ha b hb heq ↦
    h.bijOn.injOn ((ht.mem_order a).1 ha) ((ht.mem_order b).1 hb) heq
  have hmem : ∀ b, b ∈ t'.order ↔ b ∈ t.order.map f := by
    intro b
    rw [ht'.mem_order, List.mem_map]
    constructor
    · intro hb
      obtain ⟨a, ha, heq⟩ := h.bijOn.surjOn hb
      exact ⟨a, (ht.mem_order a).2 ha, heq⟩
    · rintro ⟨a, ha, rfl⟩
      exact h.bijOn.mapsTo ((ht.mem_order a).1 ha)
  have hperm := (List.perm_ext_iff_of_nodup ht'.order_nodup hnodup).2 hmem
  rw [size, hperm.length_eq, List.length_map, size]

theorem SameProof.renames (h : t.SameProof f t') (ht : t.Rooted) (ht' : t'.Rooted) :
    t.Renames f {a | t.contains a} t' where
  injOn := h.bijOn.injOn
  premise_mem := ht.contains_premise
  find?_eq a ha := by
    obtain ⟨n, hn⟩ := contains_iff.1 ha
    rw [h.find?_eq ht ht' hn, hn]
    rfl
  size_eq := h.size_eq ht ht'

/-- A correspondence can be checked along the orders of two trees. -/
theorem Rooted.sameProof (ht : t.Rooted) (ht' : t'.Rooted) (hroot : f t.root = t'.root)
    (horder : (t.order.map f).Perm t'.order)
    (hnodes : ∀ a ∈ t.order, t'.find? (f a) = (t.find? a).map (.rename f)) : t.SameProof f t' where
  bijOn := by
    refine ⟨fun a ha ↦ ?_, fun a ha b hb heq ↦ ?_, fun b hb ↦ ?_⟩
    · exact (ht'.mem_order _).1 (horder.mem_iff.1 (List.mem_map_of_mem ((ht.mem_order a).2 ha)))
    · exact List.inj_on_of_nodup_map (horder.nodup_iff.2 ht'.order_nodup) ((ht.mem_order a).2 ha)
        ((ht.mem_order b).2 hb) heq
    · obtain ⟨a, ha, heq⟩ := List.mem_map.1 (horder.mem_iff.2 ((ht'.mem_order b).2 hb))
      exact ⟨a, (ht.mem_order a).1 ha, heq⟩
  root_eq := hroot
  node_eq a n n' hn hn' := by
    have hnode := hnodes a ((ht.mem_order a).2 (contains_iff.2 ⟨n, hn⟩))
    rw [hn, hn'] at hnode
    obtain rfl : n' = n.rename f := Option.some.inj hnode
    exact ⟨rfl, rfl, rfl⟩

/-- **Two trees with the same proof read the same.**  Where the nodes of two trees correspond one to
one, with the same sequents, rules and premises in order, and the root to the root, the documents of
corresponding nodes are the same text, and so are their typeset subtrees, with the same footnotes
and the same next number whatever the first one is; one is complete when the other is, and the
descendants and the open goals of one are those that correspond to the other's, in the same order.
Nothing is asked of the ids, the orders, the focuses and the revisions. -/
theorem sameProof_reads (ht : t.Admitted) (ht' : t'.Admitted) (h : t.SameProof f t') :
    t'.isRootComplete = t.isRootComplete ∧
    ∀ a n, t.find? a = some n → ∃ n', t'.find? (f a) = some n' ∧
      (∃ text, t.typeset a = .ok text ∧ t'.typeset (f a) = .ok text) ∧
      (∀ number, t'.typesetNode n' number = t.typesetNode n number) ∧
      t'.isComplete (f a) = t.isComplete a ∧
      t'.descendants (f a) = (t.descendants a).map f ∧
      t'.openGoals (f a) = (t.openGoals a).map f := by
  have hnames := h.renames ht.rooted ht'.rooted
  refine ⟨?_, fun a n hn ↦ ?_⟩
  · rw [isRootComplete, isRootComplete, ← h.root_eq]
    exact hnames.isComplete_eq ht.rooted.contains_root
  · have ha : t.contains a := contains_iff.2 ⟨n, hn⟩
    have htext : ∃ text, t.typeset a = .ok text := by
      rw [typeset, hn]
      exact ⟨_, rfl⟩
    obtain ⟨text, htext⟩ := htext
    exact ⟨n.rename f, h.find?_eq ht.rooted ht'.rooted hn,
      ⟨text, htext, (hnames.typeset_eq ha hn).trans htext⟩, hnames.typesetNode_eq hn,
      hnames.isComplete_eq ha, hnames.descendants_eq ha, hnames.openGoals_eq ha⟩

/-- A generalised conjunction is proved from the conjunction, and this is split. -/
def generalised : List Change :=
  [.graft (.ofNat 1) .forallIntro [(.ofNat 2, conjunction)],
    .graft (.ofNat 2) .andIntro [(.ofNat 3, conjunction), (.ofNat 4, conjunction)],
    .graft (.ofNat 4) .axiomatic [], .focus (.ofNat 3)]

/-- The goal of that proof. -/
def generalisation : Sequent :=
  { conjunction with goal := .all (.element "y") conjunction.goal }

/-- The same proof from outside: other ids, and the premises before the nodes that list them. -/
def generalisedElsewhere : List Node :=
  [{ id := .ofNat 8, sequent := conjunction, rule := some .axiomatic },
    .leaf (.ofNat 7) conjunction,
    { id := .ofNat 9, sequent := generalisation, rule := some .forallIntro,
      premises := [.ofNat 5] },
    { id := .ofNat 5, sequent := conjunction, rule := some .andIntro,
      premises := [.ofNat 7, .ofNat 8] }]

/-- Which node is which. -/
def elsewhere (a : NodeId) : NodeId :=
  if a = .ofNat 1 then .ofNat 9
  else if a = .ofNat 2 then .ofNat 5
  else if a = .ofNat 3 then .ofNat 7
  else .ofNat 8

theorem sameProof_reads_elsewhere :
    let t := (ProofTree.new (.ofNat 1) generalisation).changes generalised
    let t' := ofNodes (.ofNat 9) generalisedElsewhere
    Reachable (.ofNat 1) generalisation t ∧
      ofSnapshot (.ofNat 9) generalisedElsewhere = .ok t' ∧ t.SameProof elsewhere t' ∧
      t'.order ≠ t.order.map elsewhere ∧ t'.focus ≠ elsewhere t.focus ∧
      t'.revision ≠ t.revision ∧
      (∃ text, t.typeset (.ofNat 1) = .ok text ∧ t'.typeset (.ofNat 9) = .ok text) ∧
      t.openGoals (.ofNat 1) = [.ofNat 3] ∧ t'.openGoals (.ofNat 9) = [.ofNat 7] := by
  intro t t'
  have ht : Reachable (.ofNat 1) generalisation t := Reachable.new.changes (by decide)
  have ht' : ofSnapshot (.ofNat 9) generalisedElsewhere = .ok t' := rfl
  have hadmitted : t.Admitted := .inl ⟨_, _, ht⟩
  have hadmitted' : t'.Admitted := .inr ⟨_, _, ht'⟩
  have h : t.SameProof elsewhere t' :=
    hadmitted.rooted.sameProof hadmitted'.rooted (by decide) (by decide) (by decide)
  have hopen : t.openGoals (.ofNat 1) = [.ofNat 3] := by decide
  obtain ⟨-, hall⟩ := sameProof_reads hadmitted hadmitted' h
  obtain ⟨-, -, htext, -, -, -, hgoals⟩ := hall (.ofNat 1) _ rfl
  refine ⟨ht, ht', h, by decide, by decide, by decide, htext, hopen, ?_⟩
  rw [hopen] at hgoals
  exact hgoals

end ProofTree

end Sequitur
