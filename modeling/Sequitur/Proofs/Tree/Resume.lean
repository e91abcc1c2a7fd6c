import Sequitur.Proofs.Tree.Pending
import Sequitur.Proofs.Tree.Restore

/-!
# Answers that outlive a restoration

A tree may be stored while an answer is awaited and be restored from its own snapshot.  The nodes
are the same as before, but the revision starts anew, so it no longer stands for the nodes: an
application prepared before the restoration may meet its own revision again, with other nodes.

`ProofTree.Resumed` is a run from any tree, with any changes and any number of restorations.  It
keeps apart the applications prepared since the last restoration from the older ones.
`commit_resumed` says what becomes of their answers: one that was asked for since the last
restoration is only ever put on the goal that it was asked for, and an older one is put on a node
with another sequent exactly when the revisions meet again and the node has no rule.
-/

set_option autoImplicit false

namespace Sequitur

namespace ProofTree

variable {start t t' : ProofTree} {pending : Pending} {recent older : List Pending}
  {leaves : List (NodeId × Sequent)}

/-! ## Runs with restorations -/

/-- A tree that came from a tree by changes and by restorations from its own snapshot, with the
applications prepared since the last restoration and those prepared before it. -/
inductive Resumed (start : ProofTree) : ProofTree → List Pending → List Pending → Prop
  | start : Resumed start start [] []
  | change {t : ProofTree} {recent older : List Pending} (h : Resumed start t recent older)
    (c : Change) : Resumed start (t.change c) recent older
  | prepare {t : ProofTree} {recent older : List Pending} (h : Resumed start t recent older)
    {target : NodeId} {bindings : Bindings} {pending : Pending}
    (hprepare : t.prepare target bindings = .ok pending) :
    Resumed start t (pending :: recent) older
  | restore {t t' : ProofTree} {recent older : List Pending} (h : Resumed start t recent older)
    (hrestore : ofSnapshot t.root t.snapshot = .ok t') : Resumed start t' [] (recent ++ older)

/-- Since the last restoration the revision stands for the nodes. -/
theorem Resumed.tracks (h : Resumed start t recent older) (hp : pending ∈ recent) :
    t.Tracks pending := by
  induction h with
  | start => cases hp
  | change _ c ih => exact (ih hp).change c
  | prepare _ hprepare ih =>
    rcases List.mem_cons.1 hp with rfl | hp
    · exact tracks_of_prepare hprepare
    · exact ih hp
  | restore _ _ => cases hp

/-! ## Putting in answers -/

/-- An answer that is put in although the revision is another one is that of a current
application. -/
theorem isCurrent_of_commit (h : t.commit pending leaves = .ok t')
    (hrevision : t.revision ≠ pending.revision) : t.isCurrent pending := by
  by_contra hstale
  rw [commit_of_not_isCurrent (by simpa using hstale) hrevision] at h
  cases h

/-- Where the revision stands for the nodes, every answer that is put in is that of a current
application. -/
theorem Tracks.isCurrent_of_commit (h : t.Tracks pending)
    (hcommit : t.commit pending leaves = .ok t') : t.isCurrent pending := by
  by_cases hrevision : t.revision = pending.revision
  · exact h.2 hrevision.symm
  · exact ProofTree.isCurrent_of_commit hcommit hrevision

/-- An answer is put on a node with another sequent than it was asked for. -/
def Misplaces (t : ProofTree) (pending : Pending) (leaves : List (NodeId × Sequent)) : Prop :=
  ∃ t' n, t.commit pending leaves = .ok t' ∧ t.find? pending.target = some n ∧
    n.sequent ≠ pending.application.sequent

/-- The answer to a current application is not misplaced. -/
theorem not_misplaces_of_isCurrent (h : t.isCurrent pending) : ¬ t.Misplaces pending leaves := by
  rintro ⟨t', n, -, hn, hne⟩
  obtain ⟨m, hm, -, hsequent⟩ := isCurrent_iff.1 h
  obtain rfl : n = m := Option.some.inj (hn.symm.trans hm)
  exact hne hsequent

/-- An answer is misplaced when the revision is that of the application and the target has another
sequent and no rule. -/
theorem misplaces_iff :
    t.Misplaces pending leaves ↔
      t.revision = pending.revision ∧
        ∃ n, t.find? pending.target = some n ∧ n.rule = none ∧
          n.sequent ≠ pending.application.sequent := by
  constructor
  · rintro ⟨t', n, hcommit, hn, hne⟩
    refine ⟨?_, n, hn, ?_, hne⟩
    · by_contra hrevision
      exact not_misplaces_of_isCurrent (isCurrent_of_commit hcommit hrevision)
        ⟨t', n, hcommit, hn, hne⟩
    · obtain ⟨⟨m, hm, hrule⟩, -⟩ := graft_eq_ok_iff.1 (graft_of_commit hcommit)
      obtain rfl : n = m := Option.some.inj (hn.symm.trans hm)
      exact hrule
  · rintro ⟨hrevision, n, hn, hrule, hne⟩
    refine ⟨t.grafted pending.target pending.application.rule leaves, n, ?_, hn, hne⟩
    rw [commit, if_pos (.inl hrevision), graft_of_unruled hn hrule]

/-- **An answer is misplaced only after a restoration.**  It is exactly when its application was
prepared before the last restoration and not again since, the tree has come to the revision that it
was prepared at, and the target has another sequent and no rule.  Every answer to an application
prepared since, and every answer at another revision, is put on the open goal that it was asked
for or on none. -/
theorem commit_resumed (h : Resumed start t recent older) (hp : pending ∈ recent ++ older)
    (leaves : List (NodeId × Sequent)) :
    (t.Misplaces pending leaves ↔
      (pending ∈ older ∧ pending ∉ recent) ∧ t.revision = pending.revision ∧
        ∃ n, t.find? pending.target = some n ∧ n.rule = none ∧
          n.sequent ≠ pending.application.sequent) ∧
    ∀ t', t.commit pending leaves = .ok t' → pending ∈ recent ∨ t.revision ≠ pending.revision →
      ∃ n, t.find? pending.target = some n ∧ n.isOpen ∧
        n.sequent = pending.application.sequent := by
  refine ⟨⟨fun hmisplaced ↦ ?_, fun hold ↦ misplaces_iff.2 hold.2⟩, ?_⟩
  · have hwrong := misplaces_iff.1 hmisplaced
    have hrecent : pending ∉ recent := fun hrecent ↦
      not_misplaces_of_isCurrent ((h.tracks hrecent).2 hwrong.1.symm) hmisplaced
    exact ⟨⟨(List.mem_append.1 hp).resolve_left hrecent, hrecent⟩, hwrong⟩
  · rintro t' hcommit (hrecent | hrevision)
    · exact isCurrent_iff.1 ((h.tracks hrecent).isCurrent_of_commit hcommit)
    · exact isCurrent_iff.1 (isCurrent_of_commit hcommit hrevision)

/-- Another goal than the conjunction. -/
def otherGoal : Sequent :=
  { conjunction with goal := .verum }

/-- The same application as at first, asked for when the root had the other goal. -/
def askedAgain : Pending :=
  { askedFirst with application := { askedFirst.application with sequent := otherGoal } }

/-- An axiom is asked for at the root, the tree is started again with another goal and restored,
and the axiom is asked for again. -/
theorem resumed_otherGoal :
    Resumed (.new (.ofNat 1) conjunction) (ofNodes (.ofNat 1) [.leaf (.ofNat 1) otherGoal])
      [askedAgain] [askedFirst] := by
  let axiomatic : Bindings := { rule := .axiomatic, formulaSlots := [], elementSlots := [] }
  have hfirst : (ProofTree.new (.ofNat 1) conjunction).prepare (.ofNat 1) axiomatic =
      .ok askedFirst := rfl
  have hseeded := (Resumed.start.prepare hfirst).change (.seed otherGoal)
  have hrestored : Resumed (.new (.ofNat 1) conjunction)
      (ofNodes (.ofNat 1) [.leaf (.ofNat 1) otherGoal]) [] [askedFirst] := hseeded.restore rfl
  have hagain : (ofNodes (.ofNat 1) [.leaf (.ofNat 1) otherGoal]).prepare (.ofNat 1) axiomatic =
      .ok askedAgain := rfl
  exact hrestored.prepare hagain

/-- What was asked for after the restoration is put on the goal that it was asked for. -/
theorem commit_resumed_askedAgain :
    let t := ofNodes (.ofNat 1) [.leaf (.ofNat 1) otherGoal]
    Resumed (.new (.ofNat 1) conjunction) t [askedAgain] [askedFirst] ∧
      askedAgain ∈ [askedAgain] ++ [askedFirst] ∧ (∃ t', t.commit askedAgain [] = .ok t') ∧
      ∃ n, t.find? (.ofNat 1) = some n ∧ n.isOpen ∧ n.sequent = otherGoal := by
  intro t
  have hp : askedAgain ∈ [askedAgain] ++ [askedFirst] := List.mem_cons_self
  have hcommit : t.commit askedAgain [] = .ok (t.grafted (.ofNat 1) .axiomatic []) := rfl
  exact ⟨resumed_otherGoal, hp, ⟨_, hcommit⟩,
    (commit_resumed resumed_otherGoal hp []).2 _ hcommit (.inl List.mem_cons_self)⟩

/-- What was asked for before the restoration is put on the other goal. -/
theorem misplaces_askedFirst :
    let t := ofNodes (.ofNat 1) [.leaf (.ofNat 1) otherGoal]
    Resumed (.new (.ofNat 1) conjunction) t [askedAgain] [askedFirst] ∧
      t.Misplaces askedFirst [] ∧
      (t.grafted (.ofNat 1) .axiomatic []).find? (.ofNat 1) =
        some ((Node.leaf (.ofNat 1) otherGoal).close .axiomatic []) ∧
      askedFirst.application.sequent = conjunction ∧ otherGoal ≠ conjunction := by
  refine ⟨resumed_otherGoal, ⟨_, .leaf (.ofNat 1) otherGoal, rfl, rfl, ?_⟩, rfl, rfl, ?_⟩ <;> decide

end ProofTree

end Sequitur
