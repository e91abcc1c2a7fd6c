import Sequitur.Proofs.Tree.History

/-!
# Answers to applications on their way

Between the preparation of an application and its answer the tree may change in any way: the target
may be closed, deleted, brought back by starting again, or closed and opened again.
`ProofTree.InFlight` is a tree with a history together with all applications that were prepared
along it, whether their answers have been put in or not.

The revision stands for the nodes as long as it is the same: no change lowers it, and one that
leaves it leaves the nodes (`find?_change_of_revision_eq`).  So an application whose revision is the
tree's is as current as when it was prepared (`InFlight.current`), and the two ways in which
`ProofTree.commit` decides come to the same: `commit_inFlight`.

A revision that is kept in 64 bits stands for this one as long as there are fewer changes than it
can count (`toUInt64_revision_changes_eq_iff`).
-/

set_option autoImplicit false

namespace Sequitur

/-- Bindings make an application when none is missing. -/
theorem Bindings.application_of_isComplete {b : Bindings} (h : b.isComplete = true) (s : Sequent) :
    b.application s = .ok ⟨b.rule, s, b.formulas, b.elements⟩ :=
  if_pos h

namespace ProofTree

variable {t t' : ProofTree} {root target : NodeId} {goal : Sequent} {bindings : Bindings}
  {pending : Pending} {pendings : List Pending}

/-! ## Preparing -/

/-- An application is prepared when the target is an open goal and no binding is missing. -/
theorem prepare_eq_ok_iff :
    t.prepare target bindings = .ok pending ↔ bindings.isComplete = true ∧
      ∃ n, t.find? target = some n ∧ n.isOpen ∧ pending = ⟨target, t.revision,
        bindings.rule, n.sequent, bindings.formulas, bindings.elements⟩ := by
  rw [prepare]
  cases hfind : t.find? target with
  | none => simp
  | some n =>
    by_cases hopen : n.isOpen
    · by_cases hcomplete : bindings.isComplete = true
      · simp only [hopen, hcomplete, Bindings.application_of_isComplete hcomplete, ↓reduceIte,
          Option.some.injEq, exists_eq_left', Except.ok.injEq, true_and]
        exact eq_comm
      · simp [hopen, hcomplete, Bindings.application]
    · simp [hopen]

/-- What was prepared is for an open goal, as it is now. -/
theorem prepare_eq_ok (h : t.prepare target bindings = .ok pending) :
    pending.revision = t.revision ∧ t.isCurrent pending := by
  obtain ⟨-, n, hn, hopen, rfl⟩ := prepare_eq_ok_iff.1 h
  exact ⟨rfl, by simp [isCurrent, hn, hopen]⟩

/-- An application is current when its target is the open goal that it was meant for. -/
theorem isCurrent_iff :
    t.isCurrent pending ↔
      ∃ n, t.find? pending.target = some n ∧ n.isOpen ∧
        n.sequent = pending.application.sequent := by
  rw [isCurrent, Option.any_eq_true]
  simp

/-! ## The revision -/

/-- A change raises the revision by one, or leaves both the revision and the nodes. -/
theorem revision_change (c : Change) :
    (t.change c).revision = t.revision + 1 ∨
      (t.change c).revision = t.revision ∧ (t.change c).find? = t.find? := by
  let Raised (t' : ProofTree) : Prop :=
    t'.revision = t.revision + 1 ∨ t'.revision = t.revision ∧ t'.find? = t.find?
  have hgraft : ∀ {t' target rule leaves}, t.graft target rule leaves = .ok t' →
      t'.revision = t.revision + 1 := by
    intro t' target rule leaves h
    obtain ⟨-, rfl⟩ := graft_eq_ok_iff.1 h
    rfl
  have hsame : Raised t := .inr ⟨rfl, rfl⟩
  cases c with
  | seed goal => exact .inl rfl
  | graft target rule leaves =>
    exact orUnchanged_induction (motive := Raised) hsame fun t' ht' ↦ .inl (hgraft ht')
  | delete id =>
    refine orUnchanged_induction (motive := Raised) hsame fun t' ht' ↦ ?_
    obtain ⟨parent, -, rfl⟩ := exists_reopen_of_map_delete ht'
    exact .inl rfl
  | focus id =>
    refine orUnchanged_induction (motive := Raised) hsame fun t' ht' ↦ ?_
    obtain ⟨-, rfl⟩ := setFocus_eq_ok_iff.1 ht'
    exact .inr ⟨rfl, rfl⟩
  | focusRoot => exact .inr ⟨rfl, rfl⟩
  | commit pending leaves =>
    exact orUnchanged_induction (motive := Raised) hsame fun t' ht' ↦
      .inl (hgraft (graft_of_commit ht'))

theorem revision_le_change (c : Change) : t.revision ≤ (t.change c).revision := by
  rcases revision_change (t := t) c with h | ⟨h, -⟩ <;> omega

/-- A change that leaves the revision leaves the nodes. -/
theorem find?_change_of_revision_eq {c : Change} (h : (t.change c).revision = t.revision) :
    (t.change c).find? = t.find? := by
  rcases revision_change (t := t) c with hraised | ⟨-, hfind⟩
  · omega
  · exact hfind

/-- Some changes raise the revision at most by their number. -/
theorem revision_changes_le (t : ProofTree) (cs : List Change) :
    t.revision ≤ (t.changes cs).revision ∧ (t.changes cs).revision ≤ t.revision + cs.length := by
  induction cs generalizing t with
  | nil => exact ⟨Nat.le_refl _, Nat.le_refl _⟩
  | cons c cs ih =>
    obtain ⟨hlow, hhigh⟩ := ih (t.change c)
    rw [changes, List.foldl_cons, ← changes, List.length_cons]
    rcases revision_change (t := t) c with h | ⟨h, -⟩ <;> omega

/-- **A counter of 64 bits tells revisions apart** unless there are more changes between them than
it can count. -/
theorem toUInt64_revision_changes_eq_iff {cs : List Change} (h : cs.length < UInt64.size) :
    (t.changes cs).revision.toUInt64 = t.revision.toUInt64 ↔
      (t.changes cs).revision = t.revision := by
  obtain ⟨hlow, hhigh⟩ := revision_changes_le t cs
  constructor
  · intro heq
    have hmod : (t.changes cs).revision % UInt64.size = t.revision % UInt64.size := by
      simpa using congrArg UInt64.toNat heq
    rw [UInt64.size] at h hmod
    omega
  · exact congrArg Nat.toUInt64

/-- An application is no newer than the tree, and current if it is as new. -/
def Tracks (t : ProofTree) (pending : Pending) : Prop :=
  pending.revision ≤ t.revision ∧ (pending.revision = t.revision → t.isCurrent pending)

theorem tracks_of_prepare (h : t.prepare target bindings = .ok pending) : t.Tracks pending := by
  obtain ⟨hrevision, hcurrent⟩ := prepare_eq_ok h
  exact ⟨Nat.le_of_eq hrevision, fun _ ↦ hcurrent⟩

/-- No change lets an application pass for a newer one. -/
theorem Tracks.change (h : t.Tracks pending) (c : Change) : (t.change c).Tracks pending := by
  obtain ⟨hle, hcurrent⟩ := h
  refine ⟨Nat.le_trans hle (revision_le_change c), fun heq ↦ ?_⟩
  have hsame : (t.change c).revision = t.revision :=
    Nat.le_antisymm (heq ▸ hle) (revision_le_change c)
  rw [isCurrent, find?_change_of_revision_eq hsame]
  exact hcurrent (heq.trans hsame)

/-! ## Applications in flight -/

/-- A tree with a history and the applications that were prepared along it, the latest first.  An
application stays in the list when its answer is put in, for it might be put in again. -/
inductive InFlight (root : NodeId) (goal : Sequent) : ProofTree → List Pending → Prop
  | new : InFlight root goal (.new root goal) []
  | change {t : ProofTree} {pendings : List Pending} (h : InFlight root goal t pendings)
    (c : Change) : InFlight root goal (t.change c) pendings
  | prepare {t : ProofTree} {pendings : List Pending} (h : InFlight root goal t pendings)
    {target : NodeId} {bindings : Bindings} {pending : Pending}
    (hprepare : t.prepare target bindings = .ok pending) :
    InFlight root goal t (pending :: pendings)

/-- **An application of the tree's revision is current.**  The revision has only grown since it was
prepared, and at the same revision there are the same nodes. -/
theorem InFlight.current (h : InFlight root goal t pendings) (hp : pending ∈ pendings) :
    t.Tracks pending := by
  induction h with
  | new => cases hp
  | change _ c ih => exact (ih hp).change c
  | prepare _ hprepare ih =>
    rcases List.mem_cons.1 hp with rfl | hp
    · exact tracks_of_prepare hprepare
    · exact ih hp

/-! ## Putting in answers -/

/-- The answer to a current application is grafted onto its target. -/
theorem commit_of_isCurrent {leaves : List (NodeId × Sequent)} (h : t.isCurrent pending) :
    t.commit pending leaves =
      .ok (t.grafted pending.target pending.application.rule leaves) := by
  obtain ⟨n, hn, hopen, -⟩ := isCurrent_iff.1 h
  rw [commit, if_pos (.inr h), graft_of_unruled hn (Node.isOpen_iff.1 hopen).1]

/-- The answer to an application of another revision that is not current is refused. -/
theorem commit_of_not_isCurrent {leaves : List (NodeId × Sequent)} (h : t.isCurrent pending = false)
    (hrevision : t.revision ≠ pending.revision) :
    t.commit pending leaves = .error (.stale pending.target) := by
  rw [commit, if_neg (by simp [h, hrevision])]

/-- **An answer is put in exactly when its target is the open goal it was asked for.**  It is then
grafted onto the target; otherwise it is refused as stale, with no other error, and the tree stays
as it was. -/
theorem commit_inFlight (h : InFlight root goal t pendings) (hp : pending ∈ pendings)
    (leaves : List (NodeId × Sequent)) :
    ((∃ t', t.commit pending leaves = .ok t') ↔
      ∃ n, t.find? pending.target = some n ∧ n.isOpen ∧
        n.sequent = pending.application.sequent) ∧
    (∀ t', t.commit pending leaves = .ok t' →
      t.graft pending.target pending.application.rule leaves = .ok t') ∧
    (∀ e, t.commit pending leaves = .error e →
      e = .stale pending.target ∧ t.change (.commit pending leaves) = t) := by
  rw [← isCurrent_iff]
  refine ⟨?_, fun t' ht' ↦ graft_of_commit ht', ?_⟩
  · constructor
    · rintro ⟨t', ht'⟩
      by_contra hstale
      have hrevision : t.revision ≠ pending.revision := fun heq ↦
        hstale ((h.current hp).2 heq.symm)
      rw [commit_of_not_isCurrent (by simpa using hstale) hrevision] at ht'
      cases ht'
    · exact fun hcurrent ↦ ⟨_, commit_of_isCurrent hcurrent⟩
  · intro e he
    refine ⟨?_, by rw [change, he]; rfl⟩
    by_cases hcurrent : t.isCurrent pending
    · rw [commit_of_isCurrent hcurrent] at he
      cases he
    · have hrevision : t.revision ≠ pending.revision := fun heq ↦
        hcurrent ((h.current hp).2 heq.symm)
      rw [commit_of_not_isCurrent (by simpa using hcurrent) hrevision] at he
      cases he
      rfl

/-- An axiom that was asked for at the root as it was at first. -/
def askedFirst : Pending where
  target := .ofNat 1
  revision := 1
  application := { rule := .axiomatic, sequent := conjunction, formulas := [], elements := [] }

/-- The answer is put in although the root has been closed and opened again meanwhile. -/
theorem commit_inFlight_reopened :
    let t := ((ProofTree.new (.ofNat 1) conjunction).change
      (.graft (.ofNat 1) .andIntro [(.ofNat 2, conjunction)])).change (.delete (.ofNat 2))
    InFlight (.ofNat 1) conjunction t [askedFirst] ∧ askedFirst ∈ [askedFirst] ∧
      t.revision ≠ askedFirst.revision ∧ ∃ t', t.commit askedFirst [] = .ok t' := by
  intro t
  have hprepare : (ProofTree.new (.ofNat 1) conjunction).prepare (.ofNat 1)
      { rule := .axiomatic, formulaSlots := [], elementSlots := [] } = .ok askedFirst := by rfl
  have h : InFlight (.ofNat 1) conjunction t [askedFirst] :=
    ((InFlight.new.prepare hprepare).change (.graft (.ofNat 1) .andIntro
      [(.ofNat 2, conjunction)])).change (.delete (.ofNat 2))
  have hp : askedFirst ∈ [askedFirst] := List.mem_singleton_self _
  refine ⟨h, hp, by decide, (commit_inFlight h hp []).1.2 ?_⟩
  exact ⟨.leaf (.ofNat 1) conjunction, by decide, by decide, by decide⟩

end ProofTree

end Sequitur
