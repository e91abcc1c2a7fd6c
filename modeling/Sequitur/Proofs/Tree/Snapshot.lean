import Sequitur.Proofs.Tree.Growth
import Sequitur.Tree.Snapshot

/-!
# Which lists of nodes are trees

A list of nodes may be anything, and `ProofTree.ofSnapshot` accepts it or not.  `ProofTree.IsTree`
says what it is to be a tree in terms of the list alone, and `ofSnapshot_accepts_iff` that these are
the lists that are accepted.

The checks are taken one after the other.  `firstRepeated?` finds a repeated id when there is one;
`linkNodes` goes through exactly when every premise is named, none is the root and none occurs
twice, and its table then holds the steps of the collection the other way round
(`lookup_of_linkNodes`).  The way up along the table has as many steps as the way down, and a way
down from a root that nobody lists meets nothing twice, so the limit on the way up never turns away
a node that is reached (`climbs_iff_reaches`).
-/

set_option autoImplicit false

namespace Sequitur

namespace ProofTree

variable {root id : NodeId} {ids : List NodeId} {ns : List Node} {table table' : ParentTable}

/-! ## The collection of a list -/

theorem order_foldl_insert (t : ProofTree) (ns : List Node) :
    (ns.foldl insert t).order = t.order ++ ns.map Node.id := by
  induction ns generalizing t with
  | nil => simp
  | cons n ns ih =>
    rw [List.foldl_cons, ih, List.map_cons]
    exact List.append_assoc t.order [n.id] (ns.map Node.id)

theorem root_foldl_insert (t : ProofTree) (ns : List Node) :
    (ns.foldl insert t).root = t.root := by
  induction ns generalizing t with
  | nil => rfl
  | cons n ns ih => exact ih (t.insert n)

theorem focus_foldl_insert (t : ProofTree) (ns : List Node) :
    (ns.foldl insert t).focus = t.focus := by
  induction ns generalizing t with
  | nil => rfl
  | cons n ns ih => exact ih (t.insert n)

theorem find?_foldl_insert_of_notMem (t : ProofTree) (h : id ∉ ns.map Node.id) :
    (ns.foldl insert t).find? id = t.find? id := by
  induction ns generalizing t with
  | nil => rfl
  | cons n ns ih =>
    rw [List.map_cons, List.mem_cons, not_or] at h
    exact (ih (t.insert n) h.2).trans (if_neg h.1)

theorem find?_foldl_insert_of_mem (t : ProofTree) (hnodup : (ns.map Node.id).Nodup) {n : Node}
    (hn : n ∈ ns) : (ns.foldl insert t).find? n.id = some n := by
  induction ns generalizing t with
  | nil => cases hn
  | cons m ns ih =>
    rw [List.map_cons, List.nodup_cons] at hnodup
    rcases List.mem_cons.1 hn with rfl | hn
    · exact (find?_foldl_insert_of_notMem (t.insert n) hnodup.1).trans (if_pos rfl)
    · exact ih (t.insert m) hnodup.2 hn

theorem root_ofNodes (root : NodeId) (ns : List Node) : (ofNodes root ns).root = root :=
  root_foldl_insert (empty root) ns

theorem order_ofNodes (root : NodeId) (ns : List Node) :
    (ofNodes root ns).order = ns.map Node.id :=
  order_foldl_insert (empty root) ns

/-- Without repetitions an id stands for the node of that id in the list. -/
theorem find?_ofNodes (hnodup : (ns.map Node.id).Nodup) {n : Node} :
    (ofNodes root ns).find? id = some n ↔ n ∈ ns ∧ n.id = id := by
  constructor
  · intro h
    by_cases hid : id ∈ ns.map Node.id
    · obtain ⟨m, hm, rfl⟩ := List.mem_map.1 hid
      have hfind := find?_foldl_insert_of_mem (empty root) hnodup hm
      obtain rfl : m = n := Option.some.inj (hfind.symm.trans h)
      exact ⟨hm, rfl⟩
    · exact absurd ((find?_foldl_insert_of_notMem (empty root) hid).symm.trans h) (by simp [empty])
  · rintro ⟨hn, rfl⟩
    exact find?_foldl_insert_of_mem (empty root) hnodup hn

theorem contains_ofNodes (hnodup : (ns.map Node.id).Nodup) :
    (ofNodes root ns).contains id ↔ id ∈ ns.map Node.id := by
  rw [contains_iff, List.mem_map]
  exact exists_congr fun n ↦ find?_ofNodes hnodup

theorem nodes_ofNodes (hnodup : (ns.map Node.id).Nodup) : (ofNodes root ns).nodes = ns := by
  have hfind : ∀ ms, ms ⊆ ns → (ms.map Node.id).filterMap (ofNodes root ns).find? = ms := by
    intro ms hms
    induction ms with
    | nil => rfl
    | cons m ms ih =>
      obtain ⟨hm, hms⟩ := List.cons_subset.1 hms
      rw [List.map_cons, List.filterMap_cons_some ((find?_ofNodes hnodup).2 ⟨hm, rfl⟩), ih hms]
  rw [nodes, order_ofNodes, hfind ns (List.Subset.refl ns)]

/-! ## Trees among the lists of nodes -/

/-- A node of a list, given by its id, lists another id as a premise. -/
def LeadsTo (ns : List Node) (a p : NodeId) : Prop :=
  ∃ n ∈ ns, n.id = a ∧ p ∈ n.premises

/-- A list of nodes is a tree with a root: no id is repeated, the root is among them, every premise
names a node, all lists of premises together name every node but the root exactly once, and every
node is reached from the root by following premises. -/
structure IsTree (root : NodeId) (ns : List Node) : Prop where
  /-- No id is repeated. -/
  ids_nodup : (ns.map Node.id).Nodup
  /-- The root is among the nodes. -/
  root_mem : root ∈ ns.map Node.id
  /-- Every premise names a node. -/
  premise_mem : ∀ n ∈ ns, ∀ p ∈ n.premises, p ∈ ns.map Node.id
  /-- The root is nobody's premise, and every other node is a premise exactly once. -/
  count_premises : ∀ id ∈ ns.map Node.id,
    (ns.flatMap Node.premises).count id = if id = root then 0 else 1
  /-- Every node is reached from the root. -/
  reached : ∀ id ∈ ns.map Node.id, Relation.ReflTransGen (LeadsTo ns) root id

theorem lists_ofNodes (hnodup : (ns.map Node.id).Nodup) :
    (ofNodes root ns).Lists = LeadsTo ns := by
  ext a p
  rw [lists_iff_find?, LeadsTo]
  simp only [find?_ofNodes hnodup, and_assoc]

/-- The collection of a tree is rooted. -/
theorem IsTree.rooted (h : IsTree root ns) : (ofNodes root ns).Rooted where
  id_eq id n hn := ((find?_ofNodes h.ids_nodup).1 hn).2
  order_nodup := order_ofNodes root ns ▸ h.ids_nodup
  mem_order id := by rw [order_ofNodes, contains_ofNodes h.ids_nodup]
  contains_root := by
    rw [root_ofNodes, contains_ofNodes h.ids_nodup]
    exact h.root_mem
  contains_premise a p hp := by
    rw [lists_ofNodes h.ids_nodup] at hp
    obtain ⟨n, hn, -, hp⟩ := hp
    rw [contains_ofNodes h.ids_nodup]
    exact h.premise_mem n hn p hp
  count_premises id hid := by
    rw [nodes_ofNodes h.ids_nodup, root_ofNodes]
    exact h.count_premises id ((contains_ofNodes h.ids_nodup).1 hid)
  reached id hid := by
    rw [Reaches, lists_ofNodes h.ids_nodup, root_ofNodes]
    exact h.reached id ((contains_ofNodes h.ids_nodup).1 hid)

/-! ## Repeated ids -/

theorem firstRepeated?_eq_none_iff {seen : List NodeId} :
    firstRepeated? seen ids = none ↔ ids.Nodup ∧ ∀ id ∈ ids, id ∉ seen := by
  induction ids generalizing seen with
  | nil => simp [firstRepeated?]
  | cons i ids ih =>
    rw [firstRepeated?, List.nodup_cons]
    by_cases hi : i ∈ seen
    · simp [hi]
    · rw [if_neg hi, ih]
      grind

/-! ## Linking premises to parents -/

/-- The premises of a node are linked when each is named, none is the root, and none has been linked
before. -/
theorem linkPremises_eq_ok_iff {ps : List NodeId} :
    linkPremises root ids id ps table = .ok table' ↔
      (∀ p ∈ ps, p ∈ ids ∧ p ≠ root) ∧ ps.Nodup ∧ ps.Disjoint (table.map Prod.fst) ∧
        table' = (ps.map fun p ↦ (p, id)).reverse ++ table := by
  induction ps generalizing table with
  | nil => simp [linkPremises, eq_comm]
  | cons p ps ih =>
    have hlookup : (table.lookup p).isSome ↔ p ∈ table.map Prod.fst := by
      rw [List.lookup_isSome_iff]
      simp
    rw [linkPremises]
    by_cases hid : p ∈ ids
    · by_cases hlinked : p = root ∨ (table.lookup p).isSome
      · rw [if_neg (not_not.2 hid), if_pos hlinked]
        rw [hlookup] at hlinked
        constructor
        · intro h
          cases h
        · rintro ⟨hall, -, hdisjoint, -⟩
          rcases hlinked with hroot | hmem
          · exact absurd hroot (hall p List.mem_cons_self).2
          · exact absurd hmem (hdisjoint List.mem_cons_self)
      · rw [if_neg (not_not.2 hid), if_neg hlinked, ih]
        rw [hlookup, not_or] at hlinked
        simp only [List.map_cons, List.reverse_cons, List.append_assoc, List.singleton_append,
          List.mem_cons, forall_eq_or_imp, List.nodup_cons, List.disjoint_cons_left,
          List.disjoint_cons_right]
        tauto
    · rw [if_pos hid]
      constructor
      · intro h
        cases h
      · rintro ⟨hall, -⟩
        exact absurd (hall p List.mem_cons_self).1 hid

/-- Linking is refused for a premise that is not named or for one that cannot hang there. -/
theorem linkPremises_eq_error {ps : List NodeId} {e : TreeError}
    (h : linkPremises root ids id ps table = .error e) :
    (∃ a p, e = .danglingPremise a p) ∨ ∃ p, e = .disconnected p := by
  induction ps generalizing table with
  | nil => cases h
  | cons p ps ih =>
    rw [linkPremises] at h
    split at h
    · cases h
      exact .inl ⟨id, p, rfl⟩
    · split at h
      · cases h
        exact .inr ⟨p, rfl⟩
      · exact ih h

/-- The steps of a list of nodes: pairs of a premise and the node that lists it. -/
def links (ns : List Node) : ParentTable :=
  ns.flatMap fun n ↦ n.premises.map fun p ↦ (p, n.id)

theorem map_fst_links (ns : List Node) : (links ns).map Prod.fst = ns.flatMap Node.premises := by
  rw [links, List.map_flatMap]
  simp [Function.comp_def]

theorem mem_links {p a : NodeId} : (p, a) ∈ links ns ↔ LeadsTo ns a p := by
  simp only [links, LeadsTo, List.mem_flatMap, List.mem_map, Prod.mk.injEq]
  grind

/-- The nodes one after the other: all their premises are linked as those of one node would be. -/
theorem foldlM_linkPremises_eq_ok_iff :
    ns.foldlM (fun table n ↦ linkPremises root ids n.id n.premises table) table = .ok table' ↔
      (∀ p ∈ ns.flatMap Node.premises, p ∈ ids ∧ p ≠ root) ∧ (ns.flatMap Node.premises).Nodup ∧
        (ns.flatMap Node.premises).Disjoint (table.map Prod.fst) ∧
          table' = (links ns).reverse ++ table := by
  induction ns generalizing table with
  | nil => simp [links, pure, Except.pure, eq_comm]
  | cons n ns ih =>
    have hlinks : links (n :: ns) = n.premises.map (fun p ↦ (p, n.id)) ++ links ns := rfl
    rw [List.foldlM_cons, List.flatMap_cons, hlinks]
    cases hn : linkPremises root ids n.id n.premises table with
    | error e =>
      constructor
      · intro h
        cases h
      · rintro ⟨hall, hnodup, hdisjoint, -⟩
        have hok : ∃ middle, linkPremises root ids n.id n.premises table = .ok middle :=
          ⟨_, linkPremises_eq_ok_iff.2 ⟨fun p hp ↦ hall p (List.mem_append_left _ hp),
            (List.nodup_append.1 hnodup).1, (List.disjoint_append_left.1 hdisjoint).1, rfl⟩⟩
        obtain ⟨middle, hok⟩ := hok
        rw [hn] at hok
        cases hok
    | ok middle =>
      obtain ⟨hall, hnodup, hdisjoint, rfl⟩ := linkPremises_eq_ok_iff.1 hn
      refine Iff.trans ih ?_
      simp only [List.map_append, List.map_reverse, List.map_map, Function.comp_def, List.map_id',
        List.disjoint_append_right, List.disjoint_append_left, List.mem_append, List.nodup_append',
        List.reverse_append, List.append_assoc, List.disjoint_reverse_right]
      have hcomm : (ns.flatMap Node.premises).Disjoint n.premises ↔
          n.premises.Disjoint (ns.flatMap Node.premises) :=
        ⟨List.disjoint_symm, List.disjoint_symm⟩
      grind

/-- **Linking goes through when every premise is named, none is the root and none occurs twice**,
and the table then holds the steps of the list. -/
theorem linkNodes_eq_ok_iff :
    linkNodes root ns = .ok table ↔
      (∀ p ∈ ns.flatMap Node.premises, p ∈ ns.map Node.id ∧ p ≠ root) ∧
        (ns.flatMap Node.premises).Nodup ∧ table = (links ns).reverse := by
  rw [linkNodes, foldlM_linkPremises_eq_ok_iff]
  simp

theorem linkNodes_eq_error {e : TreeError} (h : linkNodes root ns = .error e) :
    (∃ a p, e = .danglingPremise a p) ∨ ∃ p, e = .disconnected p := by
  have hall : ∀ (ms : List Node) (table : ParentTable),
      ms.foldlM (fun table n ↦ linkPremises root (ns.map Node.id) n.id n.premises table) table =
        .error e → (∃ a p, e = .danglingPremise a p) ∨ ∃ p, e = .disconnected p := by
    intro ms
    induction ms with
    | nil =>
      intro table hms
      cases hms
    | cons m ms ih =>
      intro table hms
      rw [List.foldlM_cons] at hms
      cases hm : linkPremises root (ns.map Node.id) m.id m.premises table with
      | error e' =>
        rw [hm] at hms
        cases hms
        exact linkPremises_eq_error hm
      | ok middle =>
        rw [hm] at hms
        exact ih middle hms
  exact hall ns [] h

/-- Where no premise occurs twice, looking a premise up finds the node that lists it. -/
theorem lookup_of_linkNodes (h : linkNodes root ns = .ok table) {p a : NodeId} :
    table.lookup p = some a ↔ LeadsTo ns a p := by
  obtain ⟨-, hnodup, rfl⟩ := linkNodes_eq_ok_iff.1 h
  rw [← mem_links, ← List.mem_reverse]
  have hkeys : ((links ns).reverse.map Prod.fst).Nodup := by
    rw [List.map_reverse, List.nodup_reverse, map_fst_links]
    exact hnodup
  generalize (links ns).reverse = table at hkeys
  induction table with
  | nil => simp
  | cons link table ih =>
    obtain ⟨q, b⟩ := link
    rw [List.map_cons, List.nodup_cons] at hkeys
    rw [List.lookup_cons]
    by_cases hq : p = q
    · subst hq
      have hnot : (p, a) ∉ table := fun hmem ↦
        hkeys.1 (List.mem_map.2 ⟨(p, a), hmem, rfl⟩)
      simp [hnot, eq_comm]
    · have hne : (p == q) = false := by simpa using hq
      simp [hne, hq, ih hkeys.2]

/-! ## The way up -/

/-- The way up arrives in a number of steps exactly when the way down does. -/
theorem climbs_iff {t : ProofTree} (hlookup : ∀ p a, table.lookup p = some a ↔ t.Lists a p)
    {steps : Nat} : climbs t.root table steps id ↔ ∃ n ≤ steps, t.Descends n t.root id := by
  induction steps generalizing id with
  | zero => simp [climbs, Descends, eq_comm]
  | succ steps ih =>
    rw [climbs, Bool.or_eq_true, decide_eq_true_iff]
    constructor
    · rintro (rfl | h)
      · exact ⟨0, Nat.zero_le _, rfl⟩
      · split at h
        · cases h
        · rename_i parent hparent
          obtain ⟨n, hn, hdescends⟩ := ih.1 h
          refine ⟨n + 1, Nat.succ_le_succ hn, descends_succ_iff.2 ?_⟩
          exact ⟨parent, hdescends, (hlookup id parent).1 hparent⟩
    · rintro ⟨n, hn, hdescends⟩
      cases n with
      | zero => exact .inl hdescends.symm
      | succ n =>
        obtain ⟨parent, hup, hparent⟩ := descends_succ_iff.1 hdescends
        rw [(hlookup id parent).2 hparent]
        exact .inr (ih.2 ⟨n, Nat.le_of_succ_le_succ hn, hup⟩)

/-- In a linked list of nodes the way up arrives when the node is reached in few enough steps. -/
theorem climbs_of_linkNodes (hnodup : (ns.map Node.id).Nodup)
    (h : linkNodes root ns = .ok table) {steps : Nat} :
    climbs root table steps id ↔ ∃ n ≤ steps, (ofNodes root ns).Descends n root id := by
  have hlookup : ∀ p a, table.lookup p = some a ↔ (ofNodes root ns).Lists a p := by
    intro p a
    rw [lists_ofNodes hnodup, lookup_of_linkNodes h]
  have hclimbs : climbs (ofNodes root ns).root table steps id ↔
      ∃ n ≤ steps, (ofNodes root ns).Descends n (ofNodes root ns).root id := climbs_iff hlookup
  rwa [root_ofNodes] at hclimbs

/-- **The limit on the way up turns no node away.**  In a linked list of nodes, cyclic or not, every
way up that arrives at all does so in no more steps than there are nodes. -/
theorem climbs_iff_reaches (hnodup : (ns.map Node.id).Nodup)
    (h : linkNodes root ns = .ok table) {steps : Nat} (hsteps : ns.length ≤ steps) :
    climbs root table steps id ↔ (ofNodes root ns).Reaches root id := by
  rw [climbs_of_linkNodes hnodup h, reaches_iff_descends]
  refine ⟨fun ⟨n, _, hn⟩ ↦ ⟨n, hn⟩, fun ⟨n, hn⟩ ↦ ⟨n, ?_, hn⟩⟩
  obtain ⟨path, rfl, hway⟩ := descends_iff_way.1 hn
  have hlists : (ofNodes root ns).Lists = LeadsTo ns := lists_ofNodes hnodup
  have hnamed : ∀ a p, (ofNodes root ns).Lists a p → p ∈ ns.map Node.id ∧ p ≠ root := by
    rw [hlists]
    rintro a p ⟨n, hn, -, hp⟩
    exact (linkNodes_eq_ok_iff.1 h).1 p (List.mem_flatMap.2 ⟨n, hn, hp⟩)
  have hparent : ∀ a b p, (ofNodes root ns).Lists a p → (ofNodes root ns).Lists b p → a = b := by
    rw [hlists]
    intro a b p ha hb
    exact Option.some.inj (((lookup_of_linkNodes h).2 ha).symm.trans ((lookup_of_linkNodes h).2 hb))
  -- the way down from the root meets nothing twice, and only nodes of the list
  have hdifferent : (root :: path).Nodup := hway.nodup fun c hc ↦
    not_over_of_unlisted (fun b hb ↦ (hnamed b root hb).2 rfl) hparent hc
  obtain ⟨hroot, hpath⟩ := List.nodup_cons.1 hdifferent
  have hsubset : path ⊆ ns.map Node.id := fun x hx ↦ by
    have hreach := hway.reaches_of_mem (List.mem_cons_of_mem root hx)
    obtain ⟨c, hc⟩ := hreach.exists_lists fun heq ↦ hroot (heq ▸ hx)
    exact (hnamed c x hc).1
  calc path.length ≤ (ns.map Node.id).length := (hpath.subperm hsubset).length_le
    _ = ns.length := List.length_map _
    _ ≤ steps := hsteps

/-! ## Accepted lists -/

theorem IsTree.linkNodes_eq_ok (h : IsTree root ns) :
    linkNodes root ns = .ok (links ns).reverse := by
  refine linkNodes_eq_ok_iff.2 ⟨fun p hp ↦ ?_, ?_, rfl⟩
  · obtain ⟨n, hn, hp⟩ := List.mem_flatMap.1 hp
    refine ⟨h.premise_mem n hn p hp, ?_⟩
    rintro rfl
    have hcount := h.count_premises p h.root_mem
    rw [if_pos rfl, List.count_eq_zero] at hcount
    exact hcount (List.mem_flatMap.2 ⟨n, hn, hp⟩)
  · have hall := h.rooted.nodup_premises
    rwa [nodes_ofNodes h.ids_nodup] at hall

/-- In a tree every way up arrives. -/
theorem IsTree.climbs (h : IsTree root ns) (hlink : linkNodes root ns = .ok table)
    (hid : id ∈ ns.map Node.id) : climbs root table ns.length id := by
  rw [climbs_iff_reaches h.ids_nodup hlink (Nat.le_refl _), Reaches, lists_ofNodes h.ids_nodup]
  exact h.reached id hid

/-- A linked list of nodes from which every way up arrives is a tree. -/
theorem isTree_of_climbs (hnodup : (ns.map Node.id).Nodup) (hroot : root ∈ ns.map Node.id)
    (hlink : linkNodes root ns = .ok table)
    (hclimbs : ∀ id ∈ ns.map Node.id, climbs root table ns.length id) : IsTree root ns := by
  obtain ⟨hnamed, hpremises, -⟩ := linkNodes_eq_ok_iff.1 hlink
  have hlists : (ofNodes root ns).Lists = LeadsTo ns := lists_ofNodes hnodup
  have hreached : ∀ id ∈ ns.map Node.id, Relation.ReflTransGen (LeadsTo ns) root id := by
    intro id hid
    rw [← hlists]
    exact (climbs_iff_reaches hnodup hlink (Nat.le_refl _)).1 (hclimbs id hid)
  refine ⟨hnodup, hroot, fun n hn p hp ↦ (hnamed p (List.mem_flatMap.2 ⟨n, hn, hp⟩)).1, ?_,
    hreached⟩
  intro id hid
  split
  · next heq => exact List.count_eq_zero.2 fun hmem ↦ (hnamed id hmem).2 heq
  · next hne =>
    rcases Relation.ReflTransGen.cases_tail (hreached id hid) with rfl | ⟨a, -, n, hn, -, hp⟩
    · exact absurd rfl hne
    · exact List.count_eq_one_of_mem hpremises (List.mem_flatMap.2 ⟨n, hn, hp⟩)

/-- The restoration when no id is repeated and the root is among the nodes: it goes by whether the
list is a tree. -/
theorem ofSnapshot_of_named (hnodup : (ns.map Node.id).Nodup) (hroot : root ∈ ns.map Node.id) :
    (¬ IsTree root ns ∧ ((∃ a p, ofSnapshot root ns = .error (.danglingPremise a p)) ∨
      ∃ p, ofSnapshot root ns = .error (.disconnected p))) ∨
    (IsTree root ns ∧ ofSnapshot root ns = .ok (ofNodes root ns)) := by
  have hrepeated : firstRepeated? [] (ns.map Node.id) = none :=
    firstRepeated?_eq_none_iff.2 ⟨hnodup, by simp⟩
  cases hlink : linkNodes root ns with
  | error e =>
    have hnot : ¬ IsTree root ns := by
      intro htree
      rw [htree.linkNodes_eq_ok] at hlink
      cases hlink
    simp only [ofSnapshot, hrepeated, hroot, hlink, not_true, if_false]
    rcases linkNodes_eq_error hlink with ⟨a, p, rfl⟩ | ⟨p, rfl⟩
    · exact .inl ⟨hnot, .inl ⟨a, p, rfl⟩⟩
    · exact .inl ⟨hnot, .inr ⟨p, rfl⟩⟩
  | ok table =>
    simp only [ofSnapshot, hrepeated, hroot, hlink, not_true, if_false]
    cases hlost : (ns.map Node.id).find? fun id ↦ !climbs root table ns.length id with
    | some id =>
      have hnot : ¬ IsTree root ns := by
        intro htree
        have hclimbs := htree.climbs hlink (List.mem_of_find?_eq_some hlost)
        simpa [hclimbs] using List.find?_some hlost
      exact .inl ⟨hnot, .inr ⟨id, rfl⟩⟩
    | none =>
      refine .inr ⟨isTree_of_climbs hnodup hroot hlink fun id hid ↦ ?_, rfl⟩
      simpa using List.find?_eq_none.1 hlost id hid

/-- The restoration, check by check. -/
theorem ofSnapshot_cases (root : NodeId) (ns : List Node) :
    (¬ (ns.map Node.id).Nodup ∧ ∃ id, ofSnapshot root ns = .error (.duplicateNode id)) ∨
    ((ns.map Node.id).Nodup ∧ root ∉ ns.map Node.id ∧
      ofSnapshot root ns = .error (.missingRoot root)) ∨
    ((ns.map Node.id).Nodup ∧ root ∈ ns.map Node.id ∧ ¬ IsTree root ns ∧
      ((∃ a p, ofSnapshot root ns = .error (.danglingPremise a p)) ∨
        ∃ p, ofSnapshot root ns = .error (.disconnected p))) ∨
    (IsTree root ns ∧ ofSnapshot root ns = .ok (ofNodes root ns)) := by
  cases hrepeated : firstRepeated? [] (ns.map Node.id) with
  | some id =>
    have hnodup : ¬ (ns.map Node.id).Nodup := by
      intro hnodup
      rw [firstRepeated?_eq_none_iff.2 ⟨hnodup, by simp⟩] at hrepeated
      cases hrepeated
    exact .inl ⟨hnodup, id, by simp only [ofSnapshot, hrepeated]⟩
  | none =>
    have hnodup := (firstRepeated?_eq_none_iff.1 hrepeated).1
    by_cases hroot : root ∈ ns.map Node.id
    · rcases ofSnapshot_of_named hnodup hroot with ⟨hnot, h⟩ | h
      · exact .inr (.inr (.inl ⟨hnodup, hroot, hnot, h⟩))
      · exact .inr (.inr (.inr h))
    · refine .inr (.inl ⟨hnodup, hroot, ?_⟩)
      simp only [ofSnapshot, hrepeated, hroot, not_false_eq_true, if_true]

/-- The accepted lists are the trees, and each is accepted as the collection of its nodes. -/
theorem ofSnapshot_eq_ok_iff {t : ProofTree} :
    ofSnapshot root ns = .ok t ↔ IsTree root ns ∧ t = ofNodes root ns := by
  rcases ofSnapshot_cases root ns with ⟨hnodup, id, h⟩ | ⟨-, hroot, h⟩ |
    ⟨-, -, htree, ⟨a, p, h⟩ | ⟨p, h⟩⟩ | ⟨htree, h⟩
  · have hnot : ¬ IsTree root ns := fun htree ↦ hnodup htree.ids_nodup
    simp [h, hnot]
  · have hnot : ¬ IsTree root ns := fun htree ↦ hroot htree.root_mem
    simp [h, hnot]
  · simp [h, htree]
  · simp [h, htree]
  · simp [h, htree, eq_comm]

/-- **A list of nodes is accepted exactly when it is a tree.**  A list with a repeated id is refused
for that, a list without repetitions but without the root is refused for that, and every other list
that is no tree is refused for a premise without node or for a node that hangs wrongly. -/
theorem ofSnapshot_accepts_iff (root : NodeId) (ns : List Node) :
    ((∃ t, ofSnapshot root ns = .ok t) ↔ IsTree root ns) ∧
    ∀ e, ofSnapshot root ns = .error e →
      ((∃ id, e = .duplicateNode id) ↔ ¬ (ns.map Node.id).Nodup) ∧
      ((∃ id, e = .missingRoot id) ↔ (ns.map Node.id).Nodup ∧ root ∉ ns.map Node.id) ∧
      ((ns.map Node.id).Nodup → root ∈ ns.map Node.id →
        (∃ a p, e = .danglingPremise a p) ∨ ∃ p, e = .disconnected p) := by
  refine ⟨by simp [ofSnapshot_eq_ok_iff], fun e he ↦ ?_⟩
  rcases ofSnapshot_cases root ns with ⟨hnodup, id, h⟩ | ⟨hnodup, hroot, h⟩ |
    ⟨hnodup, hroot, -, ⟨a, p, h⟩ | ⟨p, h⟩⟩ | ⟨-, h⟩ <;> rw [h] at he <;> cases he
  · simp [hnodup]
  · simp [hnodup, hroot]
  · simp [hnodup, hroot]
  · simp [hnodup, hroot]

end ProofTree

end Sequitur
