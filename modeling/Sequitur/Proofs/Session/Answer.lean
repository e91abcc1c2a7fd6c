import Sequitur.Proofs.Session.Application

/-!
# What becomes of an answer to an application

Nothing can come between an application and its answer in a session, so the answer decides alone: a
refusal or a failure leaves the session as it was and is the error of the application, and premises
go into the tree (`runs_apply_answer`).  `ProofTree.Extended` says what a tree looks like with them.
-/

set_option autoImplicit false

namespace Sequitur

/-! ## Premises in a tree -/

/-- An open goal of a tree has been closed by a rule with open nodes for some sequents as its
premises, and nothing else has changed. -/
structure ProofTree.Extended (t : ProofTree) (target : NodeId) (rule : Rule)
    (subgoals : List Sequent) (t' : ProofTree) : Prop where
  /-- The target was an open goal, and is closed by the rule. -/
  find?_target : ∃ n, t.find? target = some n ∧ n.isOpen ∧
    t'.find? target = some (n.close rule (t'.premisesOf target))
  /-- The premises are new open nodes with the sequents, in their order. -/
  premises : List.Forall₂
    (fun id sequent ↦ t.contains id = false ∧ t'.find? id = some (.leaf id sequent))
    (t'.premisesOf target) subgoals
  /-- Every other node is as it was. -/
  find?_of_ne : ∀ id, id ≠ target → id ∉ t'.premisesOf target → t'.find? id = t.find? id
  /-- The premises come last. -/
  order_eq : t'.order = t.order ++ t'.premisesOf target

/-- A graft of open nodes for some sequents with new ids. -/
theorem ProofTree.extended_grafted {t : ProofTree} {target : NodeId} {rule : Rule}
    {subgoals : List Sequent} {ids : List NodeId} (hopen : t.isOpenAt target = true)
    (hlength : ids.length = subgoals.length) (hunused : t.Unused ids) :
    t.Extended target rule subgoals (t.grafted target rule (ids.zip subgoals)) := by
  obtain ⟨n, hn, hnode⟩ := (Option.any_eq_true _ _).1 hopen
  have hfst : (ids.zip subgoals).map Prod.fst = ids := List.map_fst_zip (Nat.le_of_eq hlength)
  have htarget : t.contains target := contains_of_isOpenAt hopen
  have hnew : t.Unused ((ids.zip subgoals).map Prod.fst) := hfst.symm ▸ hunused
  have hpremises : (t.grafted target rule (ids.zip subgoals)).premisesOf target = ids := by
    rw [premisesOf_grafted htarget hnew, if_pos rfl, hfst]
  refine ⟨⟨n, hn, hnode, ?_⟩, ?_, fun id hne hid ↦ ?_, ?_⟩
  · rw [find?_grafted_target hn hnew, hfst, hpremises]
  · rw [hpremises, List.forall₂_iff_zip]
    refine ⟨hlength, fun {id sequent} hleaf ↦ ⟨hunused.2 id (List.of_mem_zip hleaf).1, ?_⟩⟩
    exact find?_grafted_leaf_of_mem rule htarget hnew hleaf
  · exact find?_grafted_of_ne hne (hfst.symm ▸ hpremises ▸ hid)
  · rw [order_grafted, hfst, hpremises]

namespace Session

variable {s s' : Session} {log : Log} {node : NodeId} {rule : Rule} {texts : List String}
  {a : Application} {answer : Except ApplyError (List Sequent)}
  {result : Except SessionError (Option Completion)}

/-! ## Answers -/

/-- An answer has been dealt with: what is not a list of premises is the error and changes nothing,
and premises are put into the tree under new ids. -/
structure Settled (s : Session) (log : Log) (node : NodeId) (rule : Rule)
    (answer : Except ApplyError (List Sequent)) (result : Except SessionError (Option Completion))
    (s' : Session) : Prop where
  /-- The target was an open goal. -/
  isOpenAt : s.tree.isOpenAt node = true
  /-- What went wrong is the error. -/
  of_error : ∀ e, answer = .error e → s' = s ∧ result = .error (.apply e)
  /-- The premises are in the tree. -/
  of_ok : ∀ subgoals, answer = .ok subgoals → ∃ ids : Vector NodeId subgoals.length,
    ⟨.fresh subgoals.length, ids⟩ ∈ log ∧
      s'.tree = s.tree.grafted node rule (ids.toList.zip subgoals)

theorem Settled.append (h : s.Settled log node rule answer result s') (after : Log) :
    s.Settled (log ++ after) node rule answer result s' where
  isOpenAt := h.isOpenAt
  of_error := h.of_error
  of_ok subgoals hok := by
    obtain ⟨ids, hids, htree⟩ := h.of_ok subgoals hok
    exact ⟨ids, List.mem_append_left after hids, htree⟩

/-- Finishing a proof does not change its tree. -/
theorem tree_of_runs_finishIfComplete (h : Runs finishIfComplete s log result s') :
    s'.tree = s.tree := by
  rcases runs_finishIfComplete_cases h with ⟨-, -, -, rfl⟩ | ⟨-, -, rfl, -⟩ <;> rfl

/-- A question that belongs to the record of a completion is no application. -/
theorem not_isRecord_apply (a : Application) : ¬ IsRecord (.apply a) := by
  rintro (⟨op, h⟩ | ⟨report, h⟩) <;> cases h

/-- A current application is settled by its answer: the tree is still the one it was prepared
for. -/
theorem runs_put_answer {pending : Pending} (hcurrent : s.tree.isCurrent pending = true)
    (h : Runs (put pending) s log result s') (hanswer : ⟨.apply a, answer⟩ ∈ log) :
    s.Settled log pending.target pending.application.rule answer result s' := by
  obtain ⟨n, hn, hopen, -⟩ := ProofTree.isCurrent_iff.1 hcurrent
  have hopenAt : s.tree.isOpenAt pending.target = true :=
    (Option.any_eq_true _ _).2 ⟨n, hn, hopen⟩
  rcases runs_put_cases h with ⟨e, rfl, rfl, rfl⟩ | ⟨subgoals, ids, rest, rfl, hrest⟩
  · cases List.mem_singleton.1 hanswer
    refine ⟨hopenAt, fun e he ↦ ?_, fun _ he ↦ ?_⟩ <;> cases he
    exact ⟨rfl, rfl⟩
  rw [ProofTree.commit_of_isCurrent hcurrent] at hrest
  rcases hrest with ⟨e, he, -⟩ | ⟨grown, hgrown, hfinish⟩
  · cases he
  cases hgrown
  have htree := tree_of_runs_finishIfComplete hfinish
  have hrecord : ∀ e ∈ rest, IsRecord e.1 := by
    rcases runs_finishIfComplete_cases hfinish with ⟨-, rfl, -⟩ | ⟨-, -, -, hrecord, -⟩
    · exact List.forall_mem_nil _
    · exact hrecord
  rcases List.mem_cons.1 hanswer with heq | hanswer
  · cases heq
    refine ⟨hopenAt, fun _ he ↦ ?_, fun _ he ↦ ?_⟩ <;> cases he
    exact ⟨ids, by simp, htree⟩
  · rcases List.mem_cons.1 hanswer with heq | hanswer
    · cases heq
    · exact absurd (hrecord _ hanswer) (not_isRecord_apply a)

/-- **The answer to an application settles it.** -/
theorem runs_apply_answer (h : Runs (apply node rule texts) s log result s')
    (hanswer : ⟨.apply a, answer⟩ ∈ log) : s.Settled log node rule answer result s' := by
  rcases runs_apply_cases h with ⟨-, rfl, -⟩ | ⟨schema, calls, read, rest, hschema, rfl, -, hend⟩
  · cases hanswer
  have hrule : schema.rule = rule := by simpa using List.find?_some hschema
  have hlater : ⟨.apply a, answer⟩ ∈ rest := by
    refine (List.mem_append.1 hanswer).resolve_left fun hread ↦ ?_
    obtain ⟨call, -, heq⟩ := List.mem_map.1 hread
    cases heq
  rcases hend with ⟨e, -, rfl, -⟩ | ⟨fs, -, ⟨-, rfl, -⟩ | ⟨-, hproceed⟩⟩
  · cases hlater
  · cases hlater
  rcases runs_proceed hproceed with ⟨-, rfl, -⟩ | ⟨-, rfl, -⟩ |
    ⟨n, pending, -, hn, hopen, rfl, hput⟩
  · cases hlater
  · cases hlater
  obtain ⟨hopenAt, herror, hok⟩ :=
    runs_put_answer (ProofTree.isCurrent_iff.2 ⟨n, hn, hopen, rfl⟩) hput hlater
  refine ⟨hopenAt, herror, fun subgoals hsubgoals ↦ ?_⟩
  obtain ⟨ids, hids, htree⟩ := hok subgoals hsubgoals
  exact ⟨ids, List.mem_append_right _ hids, hrule ▸ htree⟩

end Session

end Sequitur
