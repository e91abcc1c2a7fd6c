import Sequitur.Proofs.Session.Operation
import Sequitur.Proofs.Tree.Completion

/-!
# Sessions with a history

A session is told to do one thing after the other, each of which may fail, and everything it asks on
the way may be answered in any way.  `Session.Reached` are the sessions that come about so.  All
that is assumed of the answers is that new ids are not in use.

In each of them the tree is grown and the mark of completion says whether the root is complete
(`Session.Sound`).  What a single move does is said once and for all in `runs_move`: either it
completes nothing, or it is an application that has just completed the root, and then the rest of
its log is that of a completion as far as the store goes along.
-/

set_option autoImplicit false

namespace Sequitur

namespace Session

variable {s s' : Session} {log : Log} {exercise : ExerciseId} {goal : Sequent} {rules : List Schema}

/-! ## Moves -/

/-- Something a session may be told to do, with all that it is told. -/
inductive Move where
  | apply (node : NodeId) (rule : Rule) (texts : List String)
  | delete (node : NodeId)
  | focus (node : NodeId)
  | focusRoot
  | check (node : NodeId)
  | hint (node : NodeId)
  | typeset
  | rate (feedback : Feedback)

/-- Something done for its effect, which announces no completion. -/
def silently {α : Type} (x : SessionM α) : SessionM (Option Completion) := do
  let _ ← x
  pure none

namespace Move

/-- A move made; the result is a completion if one is announced. -/
def perform : Move → SessionM (Option Completion)
  | apply node rule texts => Session.apply node rule texts
  | delete node => silently (Session.delete node)
  | focus node => silently (Session.focus node)
  | focusRoot => silently Session.focusRoot
  | check node => silently (Session.check node)
  | hint node => silently (Session.hint node)
  | typeset => silently Session.typeset
  | rate feedback => silently (Session.rate feedback)

/-- A move is an application that has turned the root from incomplete to complete. -/
def Completes (m : Move) (s s' : Session) : Prop :=
  (∃ node rule texts, m = .apply node rule texts) ∧ s.tree.isRootComplete = false ∧
    s'.tree.isRootComplete = true

end Move

/-- New ids are not in use in a tree. -/
def FreshFor (t : ProofTree) (log : Log) : Prop :=
  ∀ (n : Nat) (ids : Vector NodeId n), ⟨.fresh n, ids⟩ ∈ log → t.Unused ids.toList

/-- The sessions that the start of an exercise leads to by any moves with any answers. -/
inductive Reached (exercise : ExerciseId) (goal : Sequent) (rules : List Schema) : Session → Prop
  | new : Reached exercise goal rules (.new exercise goal rules)
  | move {s s' : Session} (h : Reached exercise goal rules s) (m : Move) {log : Log}
      {result : Except SessionError (Option Completion)} (hrun : Runs m.perform s log result s')
      (hnew : FreshFor s.tree log) : Reached exercise goal rules s'

/-! ## The invariant -/

/-- A session proves its exercise in a grown tree, and knows whether the root is complete. -/
structure Sound (exercise : ExerciseId) (s : Session) : Prop where
  /-- The exercise stays the same. -/
  exercise_eq : s.exercise = exercise
  /-- The tree is grown. -/
  grown : s.tree.Grown
  /-- The mark of completion says whether the root is complete. -/
  finished_eq : s.finished = s.tree.isRootComplete

theorem sound_new (exercise : ExerciseId) (goal : Sequent) (rules : List Schema) :
    Sound exercise (.new exercise goal rules) where
  exercise_eq := rfl
  grown := ProofTree.grown_seed (.empty defaultRoot) goal
  finished_eq := by
    have hgrown : (ProofTree.new defaultRoot goal).Grown :=
      ProofTree.grown_seed (.empty defaultRoot) goal
    refine (Bool.eq_false_iff.2 fun hcomplete ↦ ?_).symm
    have hrule := hgrown.isRootComplete_iff.1 hcomplete defaultRoot (.leaf defaultRoot goal) rfl
    simp [Node.leaf] at hrule

/-! ## What a move does -/

/-- What is done silently announces nothing. -/
theorem runs_silently {α : Type} {x : SessionM α} {result : Except SessionError (Option Completion)}
    (h : Runs (silently x) s log result s') :
    (∀ c, result ≠ .ok (some c)) ∧ ∃ r, Runs x s log r s' := by
  rcases runs_bind_iff.1 h with ⟨e, rfl, hx⟩ | ⟨before, after, a, middle, rfl, hx, hpure⟩
  · exact ⟨by simp, _, hx⟩
  · obtain ⟨rfl, rfl, rfl⟩ := runs_pure_iff.1 hpure
    rw [List.append_nil]
    exact ⟨by simp, _, hx⟩

/-- A log in which nothing is completed: the store hears at most of a rating. -/
def Uneventful (log : Log) : Prop :=
  Quiet log ∨ ∃ exercise feedback told answer,
    log = [⟨.rate exercise feedback, told⟩, ⟨.store (.addFeedback exercise), answer⟩]

/-- A log that ends with a completion, as far as the store goes along. -/
def EndsComplete (s : Session) (log : Log) (result : Except SessionError (Option Completion)) :
    Prop :=
  ∃ before after, log = before ++ after ∧ Quiet before ∧
    ((∃ op e, (⟨.store op, .error e⟩ : (q : Question) × q.Answer) ∈ after ∧
        result = .error (.store e)) ∨
      ∃ report answer rated, s.tree.report? = some report ∧
        after = s.completionLog report answer rated ∧
          result = .ok (some { askFeedback := !rated }))

/-- What is not an application and leaves the completeness of the root, or takes it away, completes
nothing. -/
theorem Move.not_completes {m : Move}
    (h : s'.tree.isRootComplete = true → s.tree.isRootComplete = true) : ¬ m.Completes s s' := by
  rintro ⟨-, hbefore, hafter⟩
  rw [h hafter] at hbefore
  cases hbefore

theorem Sound.delete (hs : Sound exercise s) {node : NodeId} {removed : List NodeId} {t : ProofTree}
    (hdelete : s.tree.delete node = .ok (removed, t)) :
    Sound exercise { s with tree := t, finished := s.finished && t.isRootComplete } where
  exercise_eq := hs.exercise_eq
  grown := hs.grown.delete hdelete
  finished_eq := by
    show (s.finished && t.isRootComplete) = t.isRootComplete
    rw [hs.grown.isRootComplete_delete hdelete, Bool.and_false]

theorem Sound.focus (hs : Sound exercise s) {node : NodeId} (hnode : s.tree.contains node) :
    Sound exercise { s with tree := { s.tree with focus := node } } where
  exercise_eq := hs.exercise_eq
  grown := hs.grown.focus hnode
  finished_eq := hs.finished_eq.trans (hs.grown.isRootComplete_focus hnode).symm

/-- The tree after an answer has been put in is grown. -/
theorem Sound.grown_commit (hs : Sound exercise s) {pending : Pending} {subgoals : List Sequent}
    {ids : Vector NodeId subgoals.length} {grown : ProofTree} (hnew : s.tree.Unused ids.toList)
    (hcommit : s.tree.commit pending (ids.toList.zip subgoals) = .ok grown) : grown.Grown := by
  refine hs.grown.graft (ProofTree.graft_of_commit hcommit) ?_
  rwa [List.map_fst_zip (by simp)]

/-- An application keeps the invariant, and completes the root or is uneventful. -/
theorem runs_apply_move (hs : Sound exercise s) {node : NodeId} {rule : Rule} {texts : List String}
    {result : Except SessionError (Option Completion)}
    (h : Runs (apply node rule texts) s log result s') (hnew : FreshFor s.tree log) :
    Sound exercise s' ∧
      ((¬ (Move.apply node rule texts).Completes s s' ∧ (∀ c, result ≠ .ok (some c)) ∧
          Uneventful log) ∨
        ((Move.apply node rule texts).Completes s s' ∧ EndsComplete s' log result)) := by
  rcases runs_apply h with ⟨e, rfl, rfl, hquiet⟩ |
    ⟨looked, log, bindings, pending, rfl, hlooked, hprepare, hput⟩
  · exact ⟨hs, .inl ⟨Move.not_completes id, by simp, .inl hquiet⟩⟩
  rcases runs_put hput with ⟨e, rfl, rfl, hquiet⟩ |
    ⟨before, after, subgoals, ids, grown, rfl, hquiet, -, hids, hcommit, hfinish⟩
  · exact ⟨hs, .inl ⟨Move.not_completes id, by simp, .inl (quiet_append.2 ⟨hlooked, hquiet⟩)⟩⟩
  have hbefore : Quiet (looked ++ before) := quiet_append.2 ⟨hlooked, hquiet⟩
  have hopen : s.tree.isRootComplete = false := hs.grown.isRootComplete_of_prepare hprepare
  have hgrown : grown.Grown := by
    refine hs.grown_commit (hnew _ ids ?_) hcommit
    exact List.mem_append_right looked (List.mem_append_left after hids)
  rcases runs_finishIfComplete hgrown.exists_report hfinish with
    ⟨hidle, rfl, rfl, rfl⟩ | ⟨-, hcomplete, rfl, hrecord⟩
  · have hincomplete : grown.isRootComplete = false := by
      rcases hidle with hfinished | hincomplete
      · rw [hs.finished_eq, hopen] at hfinished
        cases hfinished
      · exact hincomplete
    refine ⟨⟨hs.exercise_eq, hgrown, ?_⟩, .inl ⟨Move.not_completes fun hafter ↦ ?_, by simp,
      .inl ?_⟩⟩
    · rw [hs.finished_eq, hopen, hincomplete]
    · rw [hincomplete] at hafter
      cases hafter
    · rwa [List.append_nil]
  · refine ⟨⟨hs.exercise_eq, hgrown, hcomplete.symm⟩, .inr ⟨?_, looked ++ before, after,
      (List.append_assoc _ _ _).symm, hbefore, hrecord⟩⟩
    exact ⟨⟨node, rule, texts, rfl⟩, hopen, hcomplete⟩

/-- **What a move does.**  It keeps the invariant, and either it completes nothing, announces
nothing and reports nothing, or it has just completed the root. -/
theorem runs_move (hs : Sound exercise s) {m : Move}
    {result : Except SessionError (Option Completion)} (h : Runs m.perform s log result s')
    (hnew : FreshFor s.tree log) :
    Sound exercise s' ∧
      ((¬ m.Completes s s' ∧ (∀ c, result ≠ .ok (some c)) ∧ Uneventful log) ∨
        (m.Completes s s' ∧ EndsComplete s' log result)) := by
  have hcalm : ∀ {α : Type} {x : SessionM α}, Calm x → Runs (silently x) s log result s' →
      Sound exercise s' ∧ ¬ m.Completes s s' ∧ (∀ c, result ≠ .ok (some c)) ∧ Uneventful log := by
    intro α x hx h
    obtain ⟨hresult, r, h⟩ := runs_silently h
    obtain ⟨rfl, hquiet⟩ := hx s log r s' h
    exact ⟨hs, Move.not_completes id, hresult, .inl hquiet⟩
  cases m with
  | apply node rule texts => exact runs_apply_move hs h hnew
  | delete node =>
    obtain ⟨hresult, r, hdelete⟩ := runs_silently h
    obtain ⟨rfl, rfl | ⟨removed, t, ht, rfl⟩⟩ := runs_delete hdelete
    · exact ⟨hs, .inl ⟨Move.not_completes id, hresult, .inl quiet_nil⟩⟩
    · refine ⟨hs.delete ht, .inl ⟨Move.not_completes fun hafter ↦ ?_, hresult, .inl quiet_nil⟩⟩
      exact absurd (hs.grown.isRootComplete_delete ht) (by simpa using hafter)
  | focus node =>
    obtain ⟨hresult, r, hfocus⟩ := runs_silently h
    obtain ⟨rfl, rfl | ⟨t, ht, rfl⟩⟩ := runs_focus hfocus
    · exact ⟨hs, .inl ⟨Move.not_completes id, hresult, .inl quiet_nil⟩⟩
    · obtain ⟨hnode, rfl⟩ := ProofTree.setFocus_eq_ok_iff.1 ht
      have hsame := hs.grown.isRootComplete_focus hnode
      exact ⟨hs.focus hnode, .inl ⟨Move.not_completes hsame.symm.trans, hresult, .inl quiet_nil⟩⟩
  | focusRoot =>
    obtain ⟨hresult, r, hfocus⟩ := runs_silently h
    obtain ⟨rfl, rfl⟩ := runs_focusRoot hfocus
    have hsame := hs.grown.isRootComplete_focus hs.grown.contains_root
    exact ⟨hs.focus hs.grown.contains_root,
      .inl ⟨Move.not_completes hsame.symm.trans, hresult, .inl quiet_nil⟩⟩
  | check node => exact (hcalm (calm_check node) h).imp_right .inl
  | hint node => exact (hcalm (calm_hint node) h).imp_right .inl
  | typeset => exact (hcalm calm_typeset h).imp_right .inl
  | rate feedback =>
    obtain ⟨hresult, r, hrate⟩ := runs_silently h
    obtain ⟨rfl, hquiet | ⟨told, answer, rfl⟩⟩ := runs_rate hrate
    · exact ⟨hs, .inl ⟨Move.not_completes id, hresult, .inl hquiet⟩⟩
    · exact ⟨hs, .inl ⟨Move.not_completes id, hresult, .inr ⟨_, feedback, told, answer, rfl⟩⟩⟩

/-- **The invariant holds along every history.** -/
theorem Reached.sound (h : Reached exercise goal rules s) : Sound exercise s := by
  induction h with
  | new => exact sound_new exercise goal rules
  | move _ m hrun hnew ih => exact (runs_move ih hrun hnew).1

end Session

end Sequitur
