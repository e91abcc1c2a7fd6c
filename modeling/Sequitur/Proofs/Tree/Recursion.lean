import Sequitur.Proofs.Tree.Restore
import Sequitur.Tree.Outline

/-!
# The recursions over a tree end

Whether a node is complete, how it is typeset and what its outline is are found by recursions that
follow premises and remember nothing of where they have been.  The definitions give them a bound on
the length of a path, which is a limit on how many calls are open at a time.  So that it can be seen
whether the limit is ever met, the recursions are written once more with an answer for that case:
`ProofTree.isCompleteOn?`, `ProofTree.typesetOn?` and `ProofTree.outlineOn?` have none when the
calls do not suffice.  They suffice as soon as every way down is shorter than their number, and the
answer is then that of the bounded recursion, with this or any higher bound
(`Shallow.isCompleteOn?_eq` and its like).

The collections that a program comes to hold need not be rooted.  A list that is accepted as a tree
may hold a node with premises but without a rule, and a graft on it leaves its premises without a
way to them.  But they are forests (`Admitted.forest_changes`), and in a forest every way down is
shorter than the number of nodes.

The way up that a restoration follows is a loop with a counter, which is a matter of the list alone:
`exists_climb`.
-/

set_option autoImplicit false

namespace Sequitur

namespace ProofTree

variable {t start : ProofTree} {a id : NodeId} {n : Node} {cs : List Change}
  {calls bound number : Nat}

/-! ## Forests -/

/-- **Every change keeps a forest.** -/
theorem Forest.change (h : t.Forest) (c : Change) (hnew : t.Unused c.newIds) :
    (t.change c).Forest := by
  have hgraft : ∀ {t' target rule leaves}, t.graft target rule leaves = .ok t' →
      t.Unused (leaves.map Prod.fst) → t'.Forest := by
    intro t' target rule leaves ht' hunused
    obtain ⟨⟨n, hn, -⟩, rfl⟩ := graft_eq_ok_iff.1 ht'
    exact h.grafted (contains_iff.2 ⟨n, hn⟩) hunused
  cases c with
  | seed goal => exact (grown_seed t goal).forest
  | graft target rule leaves => exact orUnchanged_induction h fun t' ht' ↦ hgraft ht' hnew
  | delete id =>
    refine orUnchanged_induction h fun t' ht' ↦ ?_
    obtain ⟨parent, -, rfl⟩ := exists_reopen_of_map_delete ht'
    exact h.reopen fun _ ↦ h.mem_descendants
  | focus id =>
    refine orUnchanged_induction h fun t' ht' ↦ ?_
    obtain ⟨-, rfl⟩ := setFocus_eq_ok_iff.1 ht'
    exact { h with }
  | focusRoot => exact { h with }
  | commit pending leaves =>
    exact orUnchanged_induction h fun t' ht' ↦ hgraft (graft_of_commit ht') hnew

theorem Forest.changes (h : t.Forest) (hnew : t.UnusedAlong cs) : (t.changes cs).Forest := by
  induction cs generalizing t with
  | nil => exact h
  | cons c cs ih => exact ih (h.change c hnew.1) hnew.2

/-- Whatever is done to a tree that the program comes to hold, it stays a forest. -/
theorem Admitted.forest_changes (h : start.Admitted) (hnew : start.UnusedAlong cs) :
    (start.changes cs).Forest :=
  h.rooted.forest.changes hnew

/-! ## Completeness -/

theorem Shallow.mono (h : t.Shallow calls id) (hbound : calls ≤ bound) : t.Shallow bound id :=
  fun n b hb ↦ Nat.lt_of_lt_of_le (h n b hb) hbound

/-- When the test gives an answer for every entry, so does the test of them all. -/
theorem allM_eq_some {α : Type} {p? : α → Option Bool} {p : α → Bool} {xs : List α}
    (h : ∀ x ∈ xs, p? x = some (p x)) : xs.allM p? = some (xs.all p) := by
  induction xs with
  | nil => rfl
  | cons x xs ih =>
    obtain ⟨hx, hxs⟩ := List.forall_mem_cons.1 h
    rw [List.allM, hx, List.all_cons]
    cases p x with
    | true => exact ih hxs
    | false => rfl

/-- Whether a node and everything below it has a rule, found with at most so many calls open at a
time; nothing when they do not suffice. -/
def isCompleteOn? (t : ProofTree) : Nat → NodeId → Option Bool
  | 0, _ => none
  | calls + 1, id =>
    match t.find? id with
    | none => some false
    | some n => if n.rule.isSome then n.premises.allM (isCompleteOn? t calls) else some false

/-- As many calls as the ways down have nodes suffice, and a bound that is no lower cuts nothing
off. -/
theorem Shallow.isCompleteOn?_eq (h : t.Shallow calls id) (hbound : calls ≤ bound) :
    t.isCompleteOn? calls id = some (t.isCompleteWithin bound id) := by
  induction calls generalizing id bound with
  | zero => exact absurd h.pos (Nat.lt_irrefl 0)
  | succ calls ih =>
    obtain ⟨more, rfl⟩ := Nat.exists_eq_add_of_lt hbound
    rw [isCompleteOn?, isCompleteWithin]
    cases hn : t.find? id with
    | none => rfl
    | some n =>
      have hbelow : ∀ p ∈ n.premises,
          t.isCompleteOn? calls p = some (t.isCompleteWithin (calls + more) p) := fun p hp ↦
        ih (h.premise (lists_iff_find?.2 ⟨n, hn, hp⟩)) (Nat.le_add_right _ _)
      cases hrule : n.rule.isSome <;> simp [hrule, allM_eq_some hbelow]

/-! ## Typesetting -/

/-- The typeset subtrees of a list, each numbered on from the one before; nothing when one of them
is missing. -/
def typesetAll? (typesetOne? : Node → Nat → Option Typesetting) :
    List Node → Nat → Option (List String × List (Nat × String) × Nat)
  | [], number => some ([], [], number)
  | n :: rest, number => do
    let one ← typesetOne? n number
    let others ← typesetAll? typesetOne? rest one.next
    some (one.text :: others.1, one.footnotes ++ others.2.1, others.2.2)

theorem typesetAll?_eq_some {typesetOne? : Node → Nat → Option Typesetting}
    {typesetOne : Node → Nat → Typesetting} {ns : List Node}
    (h : ∀ n ∈ ns, ∀ number, typesetOne? n number = some (typesetOne n number)) (number : Nat) :
    typesetAll? typesetOne? ns number = some (typesetAll typesetOne ns number) := by
  induction ns generalizing number with
  | nil => rfl
  | cons n ns ih =>
    obtain ⟨hn, hns⟩ := List.forall_mem_cons.1 h
    simp only [typesetAll?, typesetAll, hn, ih hns, Option.bind_eq_bind, Option.bind_some]

/-- The subtree at a node, footnotes numbered from `number`, typeset with at most so many calls open
at a time; nothing when they do not suffice. -/
def typesetOn? (t : ProofTree) : Nat → Node → Nat → Option Typesetting
  | 0, _, _ => none
  | calls + 1, n, number => do
    let own := match t.footnote? n with
      | some note => [(number, note)]
      | none => []
    let below ← typesetAll? (typesetOn? t calls) (n.premises.filterMap t.find?)
      (number + own.length)
    some { text := typesetCall n number below.1
           footnotes := own ++ below.2.1
           next := below.2.2 }

theorem Shallow.typesetOn?_eq (h : t.Shallow calls id) (hn : t.find? id = some n)
    (hbound : calls ≤ bound) :
    t.typesetOn? calls n number = some (t.typesetWithin bound n number) := by
  induction calls generalizing id n number bound with
  | zero => exact absurd h.pos (Nat.lt_irrefl 0)
  | succ calls ih =>
    obtain ⟨more, rfl⟩ := Nat.exists_eq_add_of_lt hbound
    have hbelow : ∀ m ∈ n.premises.filterMap t.find?, ∀ number,
        t.typesetOn? calls m number = some (t.typesetWithin (calls + more) m number) := by
      intro m hm number
      obtain ⟨p, hp, hfind⟩ := List.mem_filterMap.1 hm
      exact ih (h.premise (lists_iff_find?.2 ⟨n, hn, hp⟩)) hfind (Nat.le_add_right _ _)
    cases hnote : t.footnote? n <;>
      simp only [typesetOn?, typesetWithin, hnote, typesetAll?_eq_some hbelow, Option.bind_eq_bind,
        Option.bind_some]

/-! ## Outlines -/

theorem mapM_eq_some {α β : Type} {f? : α → Option β} {f : α → β} {xs : List α}
    (h : ∀ x ∈ xs, f? x = some (f x)) : xs.mapM f? = some (xs.map f) := by
  induction xs with
  | nil => rfl
  | cons x xs ih =>
    obtain ⟨hx, hxs⟩ := List.forall_mem_cons.1 h
    simp only [List.mapM_cons, hx, ih hxs, List.map_cons, Option.bind_eq_bind, Option.bind_some,
      Option.pure_def]

/-- The lines of the subtree at an id, written with at most so many calls open at a time; nothing
when they do not suffice. -/
def outlineOn? (t : ProofTree) : Nat → String → Position → NodeId → Option (List String)
  | 0, _, _, _ => none
  | calls + 1, indent, position, id =>
    match t.find? id with
    | none => some []
    | some n => do
      let below ← (n.premises.zip (Position.ofSiblings n.premises.length)).mapM fun p ↦
        outlineOn? t calls (indent ++ position.continuation) p.2 p.1
      some ((indent ++ position.branch ++ t.outlineLine n) :: below.flatten)

theorem Shallow.outlineOn?_eq (h : t.Shallow calls id) (hbound : calls ≤ bound) (indent : String)
    (position : Position) :
    t.outlineOn? calls indent position id = some (t.outlineWithin bound indent position id) := by
  induction calls generalizing id bound indent position with
  | zero => exact absurd h.pos (Nat.lt_irrefl 0)
  | succ calls ih =>
    obtain ⟨more, rfl⟩ := Nat.exists_eq_add_of_lt hbound
    rw [outlineOn?, outlineWithin]
    cases hn : t.find? id with
    | none => rfl
    | some n =>
      have hbelow : ∀ p ∈ n.premises.zip (Position.ofSiblings n.premises.length),
          t.outlineOn? calls (indent ++ position.continuation) p.2 p.1 =
            some (t.outlineWithin (calls + more) (indent ++ position.continuation) p.2 p.1) :=
        fun p hp ↦ ih (h.premise (lists_iff_find?.2 ⟨n, hn, (List.of_mem_zip hp).1⟩))
          (Nat.le_add_right _ _) _ _
      simp only [mapM_eq_some hbelow, Option.bind_eq_bind, Option.bind_some, List.flatMap_def]

/-! ## Enough calls -/

/-- When an answer is found with any number of calls that is high enough, and is that of every bound
from this number on, then all these bounds give the same answer. -/
theorem settled_of_eq_some {α : Type} (on? : Nat → Option α) (within : Nat → α) {enough : Nat}
    (h : ∀ calls bound, enough ≤ calls → calls ≤ bound → on? calls = some (within bound))
    (hbound : enough ≤ bound) :
    on? bound = some (within enough) ∧ within bound = within enough := by
  have hsame : within bound = within enough :=
    Option.some.inj ((h enough bound (Nat.le_refl _) hbound).symm.trans
      (h enough enough (Nat.le_refl _) (Nat.le_refl _)))
  exact ⟨hsame ▸ h bound bound hbound (Nat.le_refl _), hsame⟩

/-! ## The way up -/

/-- One turn of the loop that follows parents up from an id and counts its steps; nothing when it
ends there: at the root, where there is no parent, or at the limit. -/
def climbTurn? (root : NodeId) (table : ParentTable) (limit : Nat) :
    NodeId × Nat → Option (NodeId × Nat)
  | (cursor, steps) =>
    if cursor = root ∨ limit ≤ steps then none
    else (table.lookup cursor).map fun parent ↦ (parent, steps + 1)

/-- **The loop ends, whatever the table**, and it ends at the root exactly when the way up arrives
there within the limit. -/
theorem exists_climb (root : NodeId) (table : ParentTable) {limit taken left : Nat}
    (hlimit : taken + left = limit) (id : NodeId) :
    ∃ last steps, steps ≤ limit ∧
      Relation.ReflTransGen (fun s s' ↦ climbTurn? root table limit s = some s') (id, taken)
        (last, steps) ∧
      climbTurn? root table limit (last, steps) = none ∧
      (last = root ↔ climbs root table left id) := by
  induction left generalizing id taken with
  | zero =>
    refine ⟨id, taken, by omega, .refl, if_pos (.inr (by omega)), ?_⟩
    rw [climbs, decide_eq_true_iff]
  | succ left ih =>
    by_cases hroot : id = root
    · refine ⟨id, taken, by omega, .refl, if_pos (.inl hroot), ?_⟩
      simp [climbs, hroot]
    · have hturn : climbTurn? root table limit (id, taken) =
          (table.lookup id).map fun parent ↦ (parent, taken + 1) :=
        if_neg (not_or.2 ⟨hroot, by omega⟩)
      cases hlookup : table.lookup id with
      | none =>
        rw [hlookup] at hturn
        refine ⟨id, taken, by omega, .refl, hturn, ?_⟩
        simp [climbs, hroot, hlookup]
      | some parent =>
        rw [hlookup] at hturn
        obtain ⟨last, steps, hsteps, hrun, hends, hlast⟩ :=
          ih (show taken + 1 + left = limit by omega) parent
        refine ⟨last, steps, hsteps, .head hturn hrun, hends, ?_⟩
        simpa [climbs, hroot, hlookup] using hlast

/-! ## All of them end -/

/-- In a forest a way down meets nothing twice and is shorter than the number of nodes. -/
theorem Forest.nodup_way (h : t.Forest) {path : List NodeId} (hway : t.Way a path id) :
    (a :: path).Nodup ∧ path.length < t.size :=
  ⟨hway.nodup fun c _ ↦ h.acyclic c, h.shallow a _ id (descends_iff_way.2 ⟨path, rfl, hway⟩)⟩

/-- **The recursions over a tree end.**  Let a tree have a history, or be accepted from a list of
nodes, and let anything be done to it.  No way down, from whatever id, meets a node twice, and each
is shorter than the number of nodes.  So completeness, typesetting and outline are found with no
more calls open at a time than there are nodes, and the recursion with a bound gives the same answer
for every bound from that number on.

The loop that restoring a tree follows from a node of a list ends after no more steps than the list
has nodes, cyclic or not, and ends at the root exactly when the check says so.  A higher limit
would find no other answer: the check says whether the node is reached from the root. -/
theorem recursions_end (h : start.Admitted) (hnew : start.UnusedAlong cs)
    (ht : start.changes cs = t) :
    (∀ a path b, t.Way a path b → (a :: path).Nodup ∧ path.length < t.size) ∧
    (∀ bound, t.size ≤ bound →
      (∀ id, t.isCompleteOn? bound id = some (t.isComplete id) ∧
        t.isCompleteWithin bound id = t.isComplete id) ∧
      (∀ id n number, t.find? id = some n →
        t.typesetOn? bound n number = some (t.typesetNode n number) ∧
        t.typesetWithin bound n number = t.typesetNode n number) ∧
      ∀ indent position id,
        t.outlineOn? bound indent position id =
          some (t.outlineWithin t.size indent position id) ∧
        t.outlineWithin bound indent position id = t.outlineWithin t.size indent position id) ∧
    ∀ root ns table, linkNodes root ns = .ok table →
      (∀ id, ∃ last steps, steps ≤ ns.length ∧
        Relation.ReflTransGen (fun s s' ↦ climbTurn? root table ns.length s = some s') (id, 0)
          (last, steps) ∧
        climbTurn? root table ns.length (last, steps) = none ∧
        (last = root ↔ climbs root table ns.length id)) ∧
      ((ns.map Node.id).Nodup → ∀ bound, ns.length ≤ bound → ∀ id,
        (climbs root table bound id ↔ (ofNodes root ns).Reaches root id)) := by
  have hforest : t.Forest := ht ▸ h.forest_changes hnew
  have hshallow : ∀ calls id, t.size ≤ calls → t.Shallow calls id := fun _ id hcalls ↦
    (hforest.shallow id).mono hcalls
  refine ⟨fun a path b ↦ hforest.nodup_way,
    fun bound hbound ↦ ⟨fun id ↦ ?_, fun id n number hn ↦ ?_, fun indent position id ↦ ?_⟩,
    fun root ns table hlink ↦ ⟨fun id ↦ ?_, ?_⟩⟩
  · exact settled_of_eq_some (t.isCompleteOn? · id) (t.isCompleteWithin · id)
      (fun calls _ hcalls hle ↦ (hshallow calls id hcalls).isCompleteOn?_eq hle) hbound
  · exact settled_of_eq_some (t.typesetOn? · n number) (t.typesetWithin · n number)
      (fun calls _ hcalls hle ↦ (hshallow calls id hcalls).typesetOn?_eq hn hle) hbound
  · exact settled_of_eq_some (t.outlineOn? · indent position id)
      (t.outlineWithin · indent position id)
      (fun calls _ hcalls hle ↦ (hshallow calls id hcalls).outlineOn?_eq hle indent position) hbound
  · exact exists_climb root table (Nat.zero_add ns.length) id
  · exact fun hnodup bound hbound id ↦ climbs_iff_reaches hnodup hlink hbound

/-- Two nodes that are each other's premise, beside a root without premises. -/
def rootBesideCycle : List Node :=
  [.leaf (.ofNat 1) conjunction,
    { id := .ofNat 2, sequent := conjunction, premises := [.ofNat 3] },
    { id := .ofNat 3, sequent := conjunction, premises := [.ofNat 2] }]

/-- A root with a premise but without a rule loses the premise to a graft, and a goal is put on what
it has lost.  In the list with a cycle the way up from it ends away from the root. -/
theorem recursions_end_halfOpen :
    let start := ofNodes (.ofNat 1) halfOpen
    let cs : List Change := [.graft (.ofNat 1) .andIntro [(.ofNat 3, conjunction)],
      .graft (.ofNat 2) .andIntro [(.ofNat 4, conjunction)]]
    let t := start.changes cs
    start.Admitted ∧ start.UnusedAlong cs ∧ t.size = 4 ∧ t.parent? (.ofNat 2) = none ∧
      t.Way (.ofNat 2) [.ofNat 4] (.ofNat 4) ∧ ([.ofNat 2, .ofNat 4] : List NodeId).Nodup ∧
      t.isCompleteOn? 7 (.ofNat 2) = some false ∧ t.isCompleteWithin 7 (.ofNat 2) = false ∧
      (∃ n, t.find? (.ofNat 2) = some n ∧ t.typesetOn? 7 n 1 = some (t.typesetNode n 1)) ∧
      t.outlineOn? 7 "" .top (.ofNat 2) = some (t.outlineLines (.ofNat 2)) ∧
      linkNodes (.ofNat 1) rootBesideCycle = .ok [(.ofNat 2, .ofNat 3), (.ofNat 3, .ofNat 2)] ∧
      (∃ last steps, steps ≤ 3 ∧ last ≠ .ofNat 1 ∧
        Relation.ReflTransGen (fun s s' ↦ climbTurn? (.ofNat 1)
          [(.ofNat 2, .ofNat 3), (.ofNat 3, .ofNat 2)] 3 s = some s') (.ofNat 2, 0) (last, steps)) ∧
      ¬ (ofNodes (.ofNat 1) rootBesideCycle).Reaches (.ofNat 1) (.ofNat 2) := by
  intro start cs t
  have hstart : ofSnapshot (.ofNat 1) halfOpen = .ok start := rfl
  have h : start.Admitted := .inr ⟨_, _, hstart⟩
  have hnew : start.UnusedAlong cs := by decide
  have hsize : t.size = 4 := by decide
  have hseven : t.size ≤ 7 := hsize ▸ by decide
  have hway : t.Way (.ofNat 2) [.ofNat 4] (.ofNat 4) :=
    ⟨show .ofNat 4 ∈ t.premisesOf (.ofNat 2) by decide, rfl⟩
  have hlink : linkNodes (.ofNat 1) rootBesideCycle =
    .ok [(.ofNat 2, .ofNat 3), (.ofNat 3, .ofNat 2)] := rfl
  have hopen : t.isComplete (.ofNat 2) = false := by decide
  have hcycle :
      ¬ climbs (.ofNat 1) [(.ofNat 2, .ofNat 3), (.ofNat 3, .ofNat 2)] 3 (.ofNat 2) := by decide
  obtain ⟨n, hn⟩ := contains_iff.1 (show t.contains (.ofNat 2) by decide)
  obtain ⟨hways, hanswers, hloops⟩ := recursions_end h hnew (rfl : start.changes cs = t)
  obtain ⟨hcomplete, htypeset, houtline⟩ := hanswers 7 hseven
  obtain ⟨hclimb, hreach⟩ := hloops _ _ _ hlink
  obtain ⟨last, steps, hsteps, hrun, -, hlast⟩ := hclimb (.ofNat 2)
  refine ⟨h, hnew, hsize, by decide, hway, (hways _ _ _ hway).1, ?_, ?_,
    ⟨n, hn, (htypeset _ n 1 hn).1⟩, (houtline "" .top _).1, hlink,
    ⟨last, steps, hsteps, fun heq ↦ hcycle (hlast.1 heq), hrun⟩,
    fun hreaches ↦ hcycle ((hreach (by decide) 3 (Nat.le_refl _) _).2 hreaches)⟩
  · rw [(hcomplete _).1, hopen]
  · rw [(hcomplete _).2, hopen]

end ProofTree

end Sequitur
