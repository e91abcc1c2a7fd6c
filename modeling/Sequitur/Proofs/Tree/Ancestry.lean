import Mathlib.Data.List.Nodup
import Mathlib.Data.List.Pairwise
import Mathlib.Data.List.Perm.Subperm
import Mathlib.Logic.Relation
import Sequitur.Tree.Basic

/-!
# Ancestry in a proof tree

What the collection of nodes says about its shape, as relations between ids.  `ProofTree.Lists` is a
single step from a node to one of its premises, `ProofTree.Reaches` any number of steps,
`ProofTree.Over` at least one, and `ProofTree.Descends` counts them.  `ProofTree.Way` names the ids
that are met.

A collection is *rooted* when it is a tree: `ProofTree.Rooted`.  That no node has two parents is
said there by counting through all lists of premises at once;
`count_premises_of_parent_unique` gets the count from what can be said node by node, which is the
form that operations can be checked against.  Two facts about rooted collections carry
all that is said about walks elsewhere.

* No node stands over itself (`Rooted.acyclic`), so a walk that follows premises is shorter than
  the number of nodes (`Rooted.shallow`).
* Two premises of one node never reach the same node (`Rooted.eq_of_reaches`), so no walk meets a
  node twice.
-/

set_option autoImplicit false

namespace Sequitur

namespace ProofTree

variable {t : ProofTree} {a b c p q : NodeId}

/-! ## Steps -/

/-- A node lists an id among its premises. -/
def Lists (t : ProofTree) (a p : NodeId) : Prop :=
  p ∈ t.premisesOf a

/-- An id is reached from another one by following premises. -/
def Reaches (t : ProofTree) : NodeId → NodeId → Prop :=
  Relation.ReflTransGen t.Lists

/-- An id is reached from another one by following premises at least once. -/
def Over (t : ProofTree) : NodeId → NodeId → Prop :=
  Relation.TransGen t.Lists

/-- An id is reached from another one by following premises a number of times. -/
def Descends (t : ProofTree) : Nat → NodeId → NodeId → Prop
  | 0, a, b => a = b
  | n + 1, a, b => ∃ p, t.Lists a p ∧ t.Descends n p b

theorem lists_iff_find? :
    t.Lists a p ↔ ∃ n, t.find? a = some n ∧ p ∈ n.premises := by
  rw [Lists, premisesOf]
  cases t.find? a <;> simp

theorem Lists.contains (h : t.Lists a p) : t.contains a := by
  obtain ⟨n, hn, -⟩ := lists_iff_find?.1 h
  simp [ProofTree.contains, hn]

/-- Steps can be counted from the far end as well. -/
theorem descends_succ_iff {n : Nat} :
    t.Descends (n + 1) a c ↔ ∃ b, t.Descends n a b ∧ t.Lists b c := by
  induction n generalizing a with
  | zero => simp [Descends]
  | succ n ih =>
    constructor
    · rintro ⟨p, hp, h⟩
      obtain ⟨b, hb, hc⟩ := ih.1 h
      exact ⟨b, ⟨p, hp, hb⟩, hc⟩
    · rintro ⟨b, ⟨p, hp, hb⟩, hc⟩
      exact ⟨p, hp, ih.2 ⟨b, hb, hc⟩⟩

theorem reaches_iff_descends : t.Reaches a b ↔ ∃ n, t.Descends n a b := by
  constructor
  · intro h
    induction h with
    | refl => exact ⟨0, rfl⟩
    | tail _ hbc ih =>
      obtain ⟨n, hn⟩ := ih
      exact ⟨n + 1, descends_succ_iff.2 ⟨_, hn, hbc⟩⟩
  · rintro ⟨n, hn⟩
    induction n generalizing b with
    | zero => exact hn ▸ .refl
    | succ n ih =>
      obtain ⟨c, hc, hcb⟩ := descends_succ_iff.1 hn
      exact (ih hc).tail hcb

theorem Over.reaches (h : t.Over a b) : t.Reaches a b :=
  h.to_reflTransGen

/-- The first step of a way down leads to a premise. -/
theorem over_iff_lists : t.Over a b ↔ ∃ p, t.Lists a p ∧ t.Reaches p b :=
  Relation.TransGen.head'_iff

/-- The last step of a way down comes from a node that lists the end. -/
theorem over_iff_listed : t.Over a b ↔ ∃ c, t.Reaches a c ∧ t.Lists c b :=
  Relation.TransGen.tail'_iff

theorem Reaches.eq_or_over (h : t.Reaches a b) : a = b ∨ t.Over a b :=
  (Relation.reflTransGen_iff_eq_or_transGen.1 h).imp_left Eq.symm

/-- What is reached from another id is some node's premise. -/
theorem Reaches.exists_lists (h : t.Reaches a b) (hne : b ≠ a) : ∃ c, t.Lists c b := by
  rcases h.eq_or_over with rfl | hover
  · exact absurd rfl hne
  · obtain ⟨c, -, hc⟩ := over_iff_listed.1 hover
    exact ⟨c, hc⟩

/-! ## Ways down -/

/-- The ids that are met on the way down from one node to another, the second one included. -/
def Way (t : ProofTree) : NodeId → List NodeId → NodeId → Prop
  | a, [], b => a = b
  | a, p :: path, b => t.Lists a p ∧ t.Way p path b

theorem descends_iff_way {n : Nat} :
    t.Descends n a b ↔ ∃ path : List NodeId, path.length = n ∧ t.Way a path b := by
  induction n generalizing a with
  | zero => simp [Descends, Way, List.length_eq_zero_iff]
  | succ n ih =>
    constructor
    · rintro ⟨p, hp, h⟩
      obtain ⟨path, hlength, hway⟩ := ih.1 h
      exact ⟨p :: path, by rw [List.length_cons, hlength], hp, hway⟩
    · rintro ⟨path, hlength, hway⟩
      obtain ⟨p, path, rfl⟩ := List.exists_cons_of_length_eq_add_one hlength
      exact ⟨p, hway.1, ih.2 ⟨path, Nat.succ.inj hlength, hway.2⟩⟩

/-- What is met on a way down is reached from where it starts. -/
theorem Way.reaches_of_mem {path : List NodeId} (h : t.Way a path b) (hc : c ∈ a :: path) :
    t.Reaches a c := by
  induction path generalizing a with
  | nil =>
    rw [List.mem_singleton.1 hc]
    exact .refl
  | cons p path ih =>
    rcases List.mem_cons.1 hc with rfl | hc
    · exact .refl
    · exact Relation.ReflTransGen.head h.1 (ih h.2 hc)

theorem Way.reaches {path : List NodeId} (h : t.Way a path b) : t.Reaches a b :=
  reaches_iff_descends.2 ⟨path.length, descends_iff_way.2 ⟨path, rfl, h⟩⟩

/-- A way down meets nothing twice when nothing on it stands over itself. -/
theorem Way.nodup {path : List NodeId} (h : t.Way a path b)
    (hacyclic : ∀ c, t.Reaches a c → ¬ t.Over c c) : (a :: path).Nodup := by
  induction path generalizing a with
  | nil => exact List.nodup_singleton a
  | cons p path ih =>
    have hover : ∀ c, t.Reaches p c → t.Over a c := fun c hc ↦ over_iff_lists.2 ⟨p, h.1, hc⟩
    refine List.nodup_cons.2 ⟨fun ha ↦ ?_, ih h.2 fun c hc ↦ hacyclic c (hover c hc).reaches⟩
    exact hacyclic a .refl (hover a (h.2.reaches_of_mem ha))

/-! ## Finite depth -/

/-- No node stands over itself. -/
def Acyclic (t : ProofTree) : Prop :=
  ∀ a, ¬ t.Over a a

/-- Every way down from an id has fewer steps than a bound. -/
def Shallow (t : ProofTree) (bound : Nat) (a : NodeId) : Prop :=
  ∀ n b, t.Descends n a b → n < bound

theorem Shallow.pos {bound : Nat} (h : t.Shallow bound a) : 0 < bound :=
  h 0 a rfl

theorem Shallow.premise {bound : Nat} (h : t.Shallow (bound + 1) a) (hp : t.Lists a p) :
    t.Shallow bound p :=
  fun n b hb ↦ Nat.lt_of_succ_lt_succ (h (n + 1) b ⟨p, hp, hb⟩)

/-- Without cycles a way down has fewer steps than there are nodes: it meets none of them twice. -/
theorem shallow_size (hacyclic : t.Acyclic) (hpremise : ∀ a p, t.Lists a p → p ∈ t.order)
    (ha : a ∈ t.order) : t.Shallow t.size a := by
  intro n b h
  obtain ⟨path, rfl, hway⟩ := descends_iff_way.1 h
  have hnodup : (a :: path).Nodup := hway.nodup fun c _ ↦ hacyclic c
  have hsubset : a :: path ⊆ t.order := by
    intro x hx
    rcases (hway.reaches_of_mem hx).eq_or_over with rfl | hover
    · exact ha
    · obtain ⟨c, -, hc⟩ := over_iff_listed.1 hover
      exact hpremise c x hc
  calc path.length < (a :: path).length := Nat.lt_succ_self _
    _ ≤ t.order.length := (hnodup.subperm hsubset).length_le

/-! ## Rooted collections -/

/-- The nodes make a tree: they are stored under their own ids, the order lists them once each,
every premise is stored, all lists of premises together name every node but the root exactly once,
and every node is reached from the root. -/
structure Rooted (t : ProofTree) : Prop where
  /-- A node is stored under its own id. -/
  id_eq : ∀ id n, t.find? id = some n → n.id = id
  /-- The order repeats no id. -/
  order_nodup : t.order.Nodup
  /-- The order lists what is stored and nothing else. -/
  mem_order : ∀ id, id ∈ t.order ↔ t.contains id
  /-- The root is stored. -/
  contains_root : t.contains t.root
  /-- Every premise is stored. -/
  contains_premise : ∀ a p, t.Lists a p → t.contains p
  /-- The root is nobody's premise, and every other node is a premise exactly once. -/
  count_premises : ∀ id, t.contains id →
    (t.nodes.flatMap Node.premises).count id = if id = t.root then 0 else 1
  /-- Every node is reached from the root. -/
  reached : ∀ id, t.contains id → t.Reaches t.root id

/-- The lists of premises of all nodes, read off by ids. -/
theorem flatMap_premises (t : ProofTree) :
    t.nodes.flatMap Node.premises = t.order.flatMap t.premisesOf := by
  rw [nodes]
  induction t.order with
  | nil => rfl
  | cons id ids ih =>
    rw [List.flatMap_cons, ← ih, premisesOf]
    cases hfind : t.find? id with
    | none => rw [List.filterMap_cons_none hfind]; rfl
    | some n => rw [List.filterMap_cons_some hfind, List.flatMap_cons]; rfl

/-- Where the order lists all that is stored, the premises are what some node lists. -/
theorem mem_flatMap_premises (hmem : ∀ id, id ∈ t.order ↔ t.contains id) :
    p ∈ t.nodes.flatMap Node.premises ↔ ∃ a, t.Lists a p := by
  rw [flatMap_premises, List.mem_flatMap]
  exact ⟨fun ⟨a, _, hp⟩ ↦ ⟨a, hp⟩, fun ⟨a, hp⟩ ↦ ⟨a, (hmem a).2 (Lists.contains hp), hp⟩⟩

namespace Rooted

theorem nodup_premises (h : t.Rooted) : (t.nodes.flatMap Node.premises).Nodup := by
  refine List.nodup_iff_count_le_one.2 fun p ↦ ?_
  by_cases hp : p ∈ t.nodes.flatMap Node.premises
  · obtain ⟨a, ha⟩ := (mem_flatMap_premises h.mem_order).1 hp
    rw [h.count_premises p (h.contains_premise a p ha)]
    split <;> omega
  · rw [List.count_eq_zero_of_not_mem hp]
    omega

/-- The root is nobody's premise. -/
theorem root_unlisted (h : t.Rooted) (a : NodeId) : ¬ t.Lists a t.root := by
  intro ha
  have hcount := h.count_premises t.root h.contains_root
  rw [if_pos rfl, List.count_eq_zero] at hcount
  exact hcount ((mem_flatMap_premises h.mem_order).2 ⟨a, ha⟩)

/-- No node lists a premise twice. -/
theorem premises_nodup (h : t.Rooted) (a : NodeId) : (t.premisesOf a).Nodup := by
  by_cases ha : a ∈ t.order
  · exact (List.nodup_flatMap.1 (flatMap_premises t ▸ h.nodup_premises)).1 a ha
  · have hnil : t.premisesOf a = [] := List.eq_nil_iff_forall_not_mem.2 fun p hp ↦
      ha ((h.mem_order a).2 (Lists.contains hp))
    rw [hnil]
    exact List.nodup_nil

/-- No two nodes list the same premise. -/
theorem parent_unique (h : t.Rooted) (ha : t.Lists a p) (hb : t.Lists b p) : a = b := by
  have hdisjoint := (List.nodup_flatMap.1 (flatMap_premises t ▸ h.nodup_premises)).2
  have : Std.Symm (Function.onFun List.Disjoint t.premisesOf) :=
    ⟨fun _ _ hab ↦ List.disjoint_symm hab⟩
  by_contra hne
  exact hdisjoint.forall ((h.mem_order a).2 ha.contains) ((h.mem_order b).2 hb.contains) hne ha hb

end Rooted

/-- The count of a rooted collection, from what can be said node by node. -/
theorem count_premises_of_parent_unique (hnodup : t.order.Nodup)
    (hmem : ∀ id, id ∈ t.order ↔ t.contains id) (hroot : ∀ a, ¬ t.Lists a t.root)
    (hpremises : ∀ a, (t.premisesOf a).Nodup)
    (hparent : ∀ a b p, t.Lists a p → t.Lists b p → a = b)
    (hreached : ∀ id, t.contains id → t.Reaches t.root id) {id : NodeId} (hid : t.contains id) :
    (t.nodes.flatMap Node.premises).count id = if id = t.root then 0 else 1 := by
  by_cases hne : id = t.root
  · subst hne
    rw [if_pos rfl, List.count_eq_zero]
    intro h
    obtain ⟨a, ha⟩ := (mem_flatMap_premises hmem).1 h
    exact hroot a ha
  · rw [if_neg hne]
    have hall : (t.nodes.flatMap Node.premises).Nodup := by
      rw [flatMap_premises, List.nodup_flatMap]
      refine ⟨fun a _ ↦ hpremises a, hnodup.imp fun hab p ha hb ↦ ?_⟩
      exact hab (hparent _ _ p ha hb)
    exact List.count_eq_one_of_mem hall
      ((mem_flatMap_premises hmem).2 ((hreached id hid).exists_lists hne))

/-- What is reached from a node that nobody lists is on no cycle, where no two nodes list the same
premise: the node itself is on none, and one whose only parent is on none is on none. -/
theorem not_over_of_unlisted (hunlisted : ∀ b, ¬ t.Lists b a)
    (hparent : ∀ b c p, t.Lists b p → t.Lists c p → b = c) (hac : t.Reaches a c) :
    ¬ t.Over c c := by
  induction hac with
  | refl =>
    intro hover
    obtain ⟨d, -, hd⟩ := over_iff_listed.1 hover
    exact hunlisted d hd
  | @tail b c _ hbc ih =>
    intro hover
    obtain ⟨d, hcd, hdc⟩ := over_iff_listed.1 hover
    obtain rfl := hparent d b c hdc hbc
    exact ih (over_iff_lists.2 ⟨c, hbc, hcd⟩)

namespace Rooted

/-- **A rooted collection has no cycle.** -/
theorem acyclic (h : t.Rooted) : t.Acyclic := by
  intro a hover
  obtain ⟨c, -, hc⟩ := over_iff_listed.1 hover
  exact not_over_of_unlisted h.root_unlisted (fun _ _ _ ↦ h.parent_unique)
    (h.reached a (h.contains_premise c a hc)) hover

/-- What is reached from a stored node is stored. -/
theorem contains_of_reaches (h : t.Rooted) (ha : t.contains a) (hab : t.Reaches a b) :
    t.contains b := by
  rcases hab.eq_or_over with rfl | hover
  · exact ha
  · obtain ⟨c, -, hc⟩ := over_iff_listed.1 hover
    exact h.contains_premise c b hc

/-- A way down from a node has fewer steps than there are nodes. -/
theorem shallow (h : t.Rooted) (ha : t.contains a) : t.Shallow t.size a :=
  shallow_size h.acyclic (fun b p hp ↦ (h.mem_order p).2 (h.contains_premise b p hp))
    ((h.mem_order a).2 ha)

/-- Of two ids that reach the same one, one reaches the other. -/
theorem reaches_total (h : t.Rooted) (hac : t.Reaches a c) (hbc : t.Reaches b c) :
    t.Reaches a b ∨ t.Reaches b a := by
  have hunique : Relator.RightUnique (Function.swap t.Lists) :=
    fun _ _ _ ha hb ↦ h.parent_unique ha hb
  have htotal := Relation.ReflTransGen.total_of_right_unique hunique
    (Relation.reflTransGen_swap.2 hac) (Relation.reflTransGen_swap.2 hbc)
  exact (htotal.imp Relation.reflTransGen_swap.1 Relation.reflTransGen_swap.1).symm

/-- The premises of one node lead to different nodes. -/
theorem eq_of_reaches (h : t.Rooted) (hp : t.Lists a p) (hq : t.Lists a q) (hpc : t.Reaches p c)
    (hqc : t.Reaches q c) : p = q := by
  -- a way from one premise to the other would come back to `a`, which lists the other
  have hback : ∀ {p q}, t.Lists a p → t.Lists a q → t.Reaches p q → p = q := by
    intro p q hp hq hpq
    rcases hpq.eq_or_over with rfl | hover
    · rfl
    · obtain ⟨b, hpb, hbq⟩ := over_iff_listed.1 hover
      obtain rfl := h.parent_unique hq hbq
      exact absurd (over_iff_lists.2 ⟨p, hp, hpb⟩) (h.acyclic a)
  rcases h.reaches_total hpc hqc with hpq | hqp
  · exact hback hp hq hpq
  · exact (hback hq hp hqp).symm

/-- The nodes are listed under their own ids, in their order. -/
theorem map_id_nodes (h : t.Rooted) : t.nodes.map Node.id = t.order := by
  have hids : ∀ ids : List NodeId, (∀ id ∈ ids, t.contains id) →
      (ids.filterMap t.find?).map Node.id = ids := by
    intro ids hids
    induction ids with
    | nil => rfl
    | cons id ids ih =>
      obtain ⟨n, hn⟩ := Option.isSome_iff_exists.1 (hids id List.mem_cons_self)
      rw [List.filterMap_cons_some hn, List.map_cons, h.id_eq id n hn,
        ih fun i hi ↦ hids i (List.mem_cons_of_mem id hi)]
  exact hids t.order fun id hid ↦ (h.mem_order id).1 hid

end Rooted

end ProofTree

end Sequitur
