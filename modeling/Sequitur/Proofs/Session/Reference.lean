import Mathlib.Data.List.Nodup
import Sequitur.Proofs.Session.Operation
import Sequitur.Proofs.Tree.History
import Sequitur.Proofs.Uuid

/-!
# What a reference means

A node is referred to by a text that begins its id.  That the text begins no other id is decided
along the order in which the nodes were added, and since a tree with a history lists there what is
stored, once each, it is decided among the stored nodes (`Rooted.resolve?_eq_some_iff`).

What has the length of an id begins one id at most, and what has the length of a short id begins
those that are shown alike; hence the full id always works and the short one as long as no other
node shares it.  The two words that a session adds begin no id at all.
-/

set_option autoImplicit false

namespace Sequitur

theorem toList_toLower (p : String) : p.toLower.toList = p.toList.map Char.toLower :=
  String.toList_map

namespace ProofTree

variable {t : ProofTree} {root id other : NodeId} {goal : Sequent} {p : String}

/-! ## How ids begin -/

/-- A text begins an id, whatever the case of the text's ASCII letters. -/
def Begins (p : String) (id : NodeId) : Prop :=
  ∃ rest, toString id = p.toLower ++ rest

theorem begins_iff : Begins p id ↔ p.toLower.toList <+: (toString id).toList := by
  constructor
  · rintro ⟨rest, h⟩
    exact ⟨rest.toList, by rw [h, String.toList_append]⟩
  · rintro ⟨rest, h⟩
    refine ⟨.ofList rest, String.toList_inj.1 ?_⟩
    rw [String.toList_append, String.toList_ofList, h]

/-- A text begins the ids that it is cut off. -/
theorem begins_iff_take : Begins p id ↔
    p.toLower.toList = (toString id).toList.take p.toLower.toList.length :=
  begins_iff.trans List.prefix_iff_eq_take

/-- A full id begins itself alone. -/
theorem begins_full_iff (h : p.toLower = toString id) : Begins p other ↔ other = id := by
  have htake : (toString other).toList.take p.toLower.toList.length = (toString other).toList := by
    rw [h, Uuid.length_toString, ← Uuid.length_toString other, List.take_length]
  rw [begins_iff_take, htake, h, String.toList_inj, eq_comm, Uuid.toString_injective.eq_iff]

/-- A short id begins what has the same short id. -/
theorem begins_short_iff (h : p.toLower = id.short) :
    Begins p other ↔ other.short = id.short := by
  rw [begins_iff_take, h, Uuid.length_short, ← Uuid.toList_short, String.toList_inj, eq_comm]

/-- What has other letters than hexadecimal digits begins no id. -/
theorem not_begins {c : Char} (hc : c ∈ p.toList.map Char.toLower) (hhyphen : c ≠ '-')
    (hdigit : ∀ d, c ≠ Text.hexChar d) (id : NodeId) : ¬ Begins p id := by
  intro h
  rw [← toList_toLower] at hc
  rcases Uuid.mem_toString ((begins_iff.1 h).subset hc) with rfl | ⟨d, rfl⟩
  · exact hhyphen rfl
  · exact hdigit d rfl

/-! ## Resolving -/

/-- Of different entries a single one passes a test if and only if the others fail. -/
theorem filter_eq_singleton_iff {α : Type} {l : List α} {test : α → Bool} {a : α} (h : l.Nodup) :
    l.filter test = [a] ↔ a ∈ l ∧ test a ∧ ∀ b ∈ l, test b → b = a := by
  constructor
  · intro heq
    have hmem : ∀ b, b ∈ l ∧ test b ↔ b = a := fun b ↦ by
      rw [← List.mem_filter, heq, List.mem_singleton]
    obtain ⟨ha, hpass⟩ := (hmem a).2 rfl
    exact ⟨ha, hpass, fun b hb hpass ↦ (hmem b).1 ⟨hb, hpass⟩⟩
  · rintro ⟨ha, hpass, hothers⟩
    refine List.perm_singleton.1 ((List.perm_ext_iff_of_nodup (h.filter _)
      (List.nodup_singleton a)).2 fun b ↦ ?_)
    rw [List.mem_filter, List.mem_singleton]
    exact ⟨fun hb ↦ hothers b hb.1 hb.2, fun hb ↦ hb ▸ ⟨ha, hpass⟩⟩

theorem resolve?_eq_some_iff_filter : t.resolve? p = some id ↔
    (t.order.filter fun id ↦ p.toLower.toList.isPrefixOf (toString id).toList) = [id] := by
  rw [resolve?]
  split
  · next other h => rw [h, Option.some.injEq, List.cons.injEq, and_iff_left rfl]
  · next h => exact iff_of_false (fun hnone ↦ by cases hnone) (h id)

/-- What begins no stored id is resolved to nothing. -/
theorem resolve?_eq_none (hmem : ∀ id, id ∈ t.order ↔ t.contains id)
    (h : ∀ id, t.contains id → ¬ Begins p id) : t.resolve? p = none := by
  refine Option.eq_none_iff_forall_ne_some.2 fun id hid ↦ ?_
  have hone : id ∈ t.order.filter _ :=
    resolve?_eq_some_iff_filter.1 hid ▸ List.mem_singleton_self id
  obtain ⟨hstored, hbegins⟩ := List.mem_filter.1 hone
  exact h id ((hmem id).1 hstored) (begins_iff.2 (List.isPrefixOf_iff_prefix.1 hbegins))

namespace Rooted

variable (h : t.Rooted)

include h

/-- **A text is resolved to the only stored id that it begins.** -/
theorem resolve?_eq_some_iff : t.resolve? p = some id ↔
    t.contains id ∧ Begins p id ∧ ∀ other, t.contains other → Begins p other → other = id := by
  rw [resolve?_eq_some_iff_filter, filter_eq_singleton_iff h.order_nodup]
  simp only [h.mem_order, List.isPrefixOf_iff_prefix, begins_iff]

/-- A full id is resolved to itself, if it is stored. -/
theorem resolve?_full (hp : p.toLower = toString id) :
    t.resolve? p = if t.contains id then some id else none := by
  split
  · next hid =>
    exact h.resolve?_eq_some_iff.2 ⟨hid, (begins_full_iff hp).2 rfl,
      fun _ _ ↦ (begins_full_iff hp).1⟩
  · next hid =>
    exact resolve?_eq_none h.mem_order fun other hother hbegins ↦
      hid ((begins_full_iff hp).1 hbegins ▸ hother)

/-- A short id is resolved to the node that is shown by it, if no other is. -/
theorem resolve?_short (hid : t.contains id) (hp : p.toLower = id.short) :
    t.resolve? p = some id ↔ ∀ other, t.contains other → other.short = id.short → other = id := by
  rw [h.resolve?_eq_some_iff]
  simp only [begins_short_iff hp, hid, true_and]

end Rooted

/-- What a deletion has removed can no longer be referred to by its full id. -/
theorem Grown.resolve?_removed {t' : ProofTree} {removed : List NodeId} (h : t.Grown)
    (hdelete : t.delete id = .ok (removed, t')) (hid : other ∈ removed)
    (hp : p.toLower = toString other) : t'.resolve? p = none := by
  have hgone : ¬ t'.contains other := by
    obtain ⟨-, -, -, parent, -, -, rfl⟩ := delete_eq_ok_iff.1 hdelete
    exact fun hstored ↦ (contains_reopen.1 hstored).2 hid
  rw [(h.delete hdelete).resolve?_full hp, if_neg hgone]

end ProofTree

/-! ## References in a session -/

namespace Session

open ProofTree

variable {s s' : Session} {log : Log} {p : String} {root : NodeId} {goal : Sequent}

/-- The word for the root begins no id. -/
theorem not_begins_root (id : NodeId) : ¬ Begins "root" id :=
  not_begins (c := 'r') (by decide) (by decide) (by decide) id

/-- The dot for the focus begins no id. -/
theorem not_begins_dot (id : NodeId) : ¬ Begins "." id :=
  not_begins (c := '.') (by decide) (by decide) (by decide) id

/-- What texts mean as references to nodes. -/
structure Refers (s : Session) : Prop where
  /-- In the tree, a text means the stored id that it begins, if it begins no other. -/
  resolve?_eq_some_iff : ∀ p id, s.tree.resolve? p = some id ↔ s.tree.contains id ∧ Begins p id ∧
    ∀ other, s.tree.contains other → Begins p other → other = id
  /-- A full id in any case means its node, or nothing when there is none. -/
  full : ∀ p id, p.toLower = toString id →
    s.tree.resolve? p = if s.tree.contains id then some id else none
  /-- It means nothing any more when a deletion has removed the node. -/
  removed : ∀ id removed t', s.tree.delete id = .ok (removed, t') →
    ∀ other ∈ removed, ∀ p, p.toLower = toString other → t'.resolve? p = none
  /-- A short id in any case means its node if and only if no other node is shown alike. -/
  short : ∀ p id, s.tree.contains id → p.toLower = id.short →
    (s.tree.resolve? p = some id ↔
      ∀ other, s.tree.contains other → other.short = id.short → other = id)
  /-- The word for the root and the dot for the focus are begun by no id. -/
  reserved : ∀ id, ¬ Begins "root" id ∧ ¬ Begins "." id
  /-- In the session, they are all that has a meaning besides. -/
  resolve_ok : ∀ p log id s', Runs (resolve p) s log (.ok id) s' ↔ log = [] ∧ s' = s ∧
    ((p = "root" ∧ id = s.tree.root) ∨ (p = "." ∧ id = s.tree.focus) ∨
      s.tree.resolve? p = some id)
  /-- What has no meaning is refused. -/
  resolve_error : ∀ p log e s', Runs (resolve p) s log (.error e) s' ↔ log = [] ∧ s' = s ∧
    p ≠ "root" ∧ p ≠ "." ∧ s.tree.resolve? p = none ∧ e = .noSuchNode p

/-- **What a reference means in a tree with a history.**  A text means the node whose id it begins
in any case, if it is one only; so a full id means its node as long as that is stored, and a short
one if no other node is shown alike.  A session adds the word for the root and the dot for the
focus, which would otherwise mean nothing. -/
theorem refers_of_reachable (h : Reachable root goal s.tree) : s.Refers := by
  have hgrown := h.grown
  have hreserved : s.tree.resolve? "root" = none ∧ s.tree.resolve? "." = none :=
    ⟨resolve?_eq_none hgrown.mem_order fun id _ ↦ not_begins_root id,
      resolve?_eq_none hgrown.mem_order fun id _ ↦ not_begins_dot id⟩
  exact {
    resolve?_eq_some_iff := fun p id ↦ hgrown.resolve?_eq_some_iff
    full := fun p id ↦ hgrown.resolve?_full
    removed := fun id removed t' hdelete other hid p ↦ hgrown.resolve?_removed hdelete hid
    short := fun p id ↦ hgrown.resolve?_short
    reserved := fun id ↦ ⟨not_begins_root id, not_begins_dot id⟩
    resolve_ok := fun p log id s' ↦ by
      rw [runs_resolve_iff]
      by_cases hroot : p = "root"
      · subst hroot
        simp [hreserved.1]
      by_cases hdot : p = "."
      · subst hdot
        simp [hreserved.2]
      · simp [hroot, hdot]
    resolve_error := fun p log e s' ↦ by
      rw [runs_resolve_iff]
      by_cases hroot : p = "root"
      · simp [hroot]
      by_cases hdot : p = "."
      · simp [hdot]
      · simp [hroot, hdot] }

/-- An id that begins unlike those of small numbers. -/
def farId : NodeId :=
  .ofNat 0xA0000000000000000000000000000000

/-- A goal is split, the splitting is taken back, and the goal is split anew: the first part has got
an id that begins like that of the root, the other one has not. -/
def renewing : List Change :=
  let left : Sequent := { conjunction with goal := .verum }
  let right : Sequent := { conjunction with goal := .falsum }
  [.graft (.ofNat 1) .andIntro [(.ofNat 2, left), (.ofNat 3, right)], .delete (.ofNat 2),
    .graft (.ofNat 1) .andIntro [(.ofNat 4, left), (farId, right)]]

theorem refers_of_reachable_renewing :
    let start := ProofTree.new (.ofNat 1) conjunction
    let s : Session := { exercise := .ofNat 1, tree := start.changes renewing, rules := [] }
    start.UnusedAlong renewing ∧ s.tree.order = [.ofNat 1, .ofNat 4, farId] ∧
      s.tree.resolve? "00000000-0000-0000-0000-000000000004" = some (.ofNat 4) ∧
      s.tree.resolve? "00000000-0000-0000-0000-000000000002" = none ∧
      s.tree.resolve? "00000000" ≠ some (.ofNat 4) ∧ s.tree.resolve? "A0000000" = some farId ∧
      Runs (resolve "root") s [] (.ok (.ofNat 1)) s := by
  intro start s
  have hnew : start.UnusedAlong renewing := by decide
  have hreachable : Reachable (.ofNat 1) conjunction s.tree := Reachable.new.changes hnew
  have horder : s.tree.order = [.ofNat 1, .ofNat 4, farId] := by decide
  have hrefers := refers_of_reachable hreachable
  have hlower : ∀ {p q : String}, p.toList.map Char.toLower = q.toList → p.toLower = q :=
    fun h ↦ String.toList_inj.1 ((toList_toLower _).trans h)
  refine ⟨hnew, horder, ?_, ?_, fun hshort ↦ ?_, ?_,
    (hrefers.resolve_ok _ _ _ _).2 ⟨rfl, rfl, .inl ⟨rfl, by decide⟩⟩⟩
  · rw [hrefers.full _ (.ofNat 4) (hlower (by decide)), if_pos (by decide)]
  · rw [hrefers.full _ (.ofNat 2) (hlower (by decide)), if_neg (by decide)]
  · have hroot := (hrefers.short _ _ (by decide) (hlower (by decide))).1 hshort (.ofNat 1)
      (by decide) (by decide)
    exact absurd hroot (by decide)
  · refine (hrefers.short _ farId (by decide) (hlower (by decide))).2 fun other hother hshown ↦ ?_
    have halone : ∀ other ∈ [.ofNat 1, .ofNat 4, farId],
        other.short = farId.short → other = farId := by decide
    exact halone other (horder ▸ (hreachable.grown.mem_order other).2 hother) hshown

end Session

end Sequitur
