import Sequitur.Backend.Http
import Sequitur.Proofs.Session.Completion
import Sequitur.Proofs.Store.LastProof
import Sequitur.Proofs.Tree.Confluence
import Sequitur.Proofs.Tree.Restore
import Sequitur.Proofs.Wire

/-!
# Whether a completed proof can be loaded

A completed proof is saved as its list of nodes.  The list is read back as long as none of its
sequents nests deeper than `Node.sequentLimit`, and is then the same proof; otherwise the store
answers as if nothing had been saved (`Directory.loadTree_of_lastTree`).

What comes in from the backend may nest deeper than that: an exercise by two levels, the answer to
an application by one.  So there are sessions that accept an exercise, complete its proof, save it
without an error and cannot load it (`Session.loadTree_completed`, and the session of `deepGoal`).

## What is here

* `ProofTree.Carries` — what holds of all sequents of a tree.
* `Session.Online` — the sessions that are fed by responses of the backend.
-/

set_option autoImplicit false

namespace Sequitur

/-! ## The sequents of a tree -/

namespace ProofTree

variable {t t' : ProofTree} {P : Sequent → Prop} {leaves : List (NodeId × Sequent)}

/-- All sequents of a tree have a property. -/
def Carries (P : Sequent → Prop) (t : ProofTree) : Prop :=
  ∀ id n, t.find? id = some n → P n.sequent

theorem carries_new {root : NodeId} {goal : Sequent} (h : P goal) : (new root goal).Carries P := by
  intro id n hn
  rw [new, find?_seed] at hn
  split at hn
  · cases hn
    exact h
  · cases hn

theorem Carries.addLeaves (h : t.Carries P) (hleaves : ∀ leaf ∈ leaves, P leaf.2) :
    (t.addLeaves leaves).Carries P := by
  intro id n hn
  by_cases hid : id ∈ leaves.map Prod.fst
  · obtain ⟨sequent, hmem, hfind⟩ := find?_addLeaves_of_mem (t := t) hid
    obtain rfl := Option.some.inj (hfind.symm.trans hn)
    exact hleaves _ hmem
  · rw [find?_addLeaves_of_notMem hid] at hn
    exact h id n hn

/-- A graft brings in the sequents of its leaves. -/
theorem Carries.graft (h : t.Carries P) {target : NodeId} {rule : Rule}
    (hgraft : t.graft target rule leaves = .ok t') (hleaves : ∀ leaf ∈ leaves, P leaf.2) :
    t'.Carries P := by
  obtain ⟨-, rfl⟩ := graft_eq_ok_iff.1 hgraft
  intro id n hn
  have hstored : ∃ m, (t.addLeaves leaves).find? id = some m ∧ n.sequent = m.sequent := by
    simp only [grafted, modify] at hn
    split at hn
    · obtain ⟨m, hm, rfl⟩ := Option.map_eq_some_iff.1 hn
      exact ⟨m, hm, rfl⟩
    · exact ⟨n, hn, rfl⟩
  obtain ⟨m, hm, hsame⟩ := hstored
  exact hsame ▸ h.addLeaves hleaves id m hm

theorem Carries.delete (h : t.Carries P) {id : NodeId} {removed : List NodeId}
    (hdelete : t.delete id = .ok (removed, t')) : t'.Carries P := by
  obtain ⟨-, -, -, parent, -, -, rfl⟩ := delete_eq_ok_iff.1 hdelete
  intro i m hm
  obtain ⟨n, hn, rfl | rfl⟩ := find?_reopen_cases hm
  · exact h i n hn
  · exact h i m hn

theorem Carries.of_mem_nodes (h : t.Carries P) {n : Node} (hn : n ∈ t.nodes) : P n.sequent := by
  obtain ⟨id, -, hid⟩ := mem_nodes_iff.1 hn
  exact h id n hid

end ProofTree

/-! ## The two files -/

namespace Directory

/-- **The last proof is loaded, or counts as absent.**  It is the tree that was saved, seen from its
root, unless one of its sequents nests too deep for the file. -/
theorem loadTree_of_lastTree {d : Directory} {t : ProofTree} (ht : t.Rooted)
    (h : d.lastTree = treeFiles t.root t.nodes) :
    d.loadTree = .ok (if ∀ n ∈ t.nodes, n.sequent.toJson.depth ≤ Node.sequentLimit then
      some { t with focus := t.root, revision := 1 } else none) := by
  have hrestored := ht.ofSnapshot_snapshot
  rw [ProofTree.snapshot] at hrestored
  rw [loadTree_of_treeFiles h, restored, hrestored]
  split
  · rfl
  · rfl

end Directory

/-! ## Sessions fed by the backend -/

namespace Session

variable {s s' : Session} {log : Log} {exercise : ExerciseId} {goal : Sequent} {rules : List Schema}
  {d d' : Directory} {P : Sequent → Prop}

/-- The answers to applications have been decoded from responses. -/
def FromResponses (log : Log) : Prop :=
  ∀ a subgoals, (⟨.apply a, .ok subgoals⟩ : (q : Question) × q.Answer) ∈ log →
    ∃ body, Call.decodeAnswer? (Json.read? body) (.apply a) = some subgoals

/-- The sessions whose exercise and whose answers to applications have all been decoded from
responses. -/
inductive Online (exercise : ExerciseId) (goal : Sequent) (rules : List Schema) : Session → Prop
  | new (hgoal : ∃ body, Call.decodeAnswer? (Json.read? body) (.exercise exercise) = some goal) :
    Online exercise goal rules (.new exercise goal rules)
  | move {s s' : Session} (h : Online exercise goal rules s) (m : Move) {log : Log}
      {result : Except SessionError (Option Completion)} (hrun : Runs m.perform s log result s')
      (hnew : FreshFor s.tree log) (hanswers : FromResponses log) : Online exercise goal rules s'

theorem Online.reached (h : Online exercise goal rules s) : Reached exercise goal rules s := by
  induction h with
  | new _ => exact .new
  | move _ m hrun hnew _ ih => exact .move ih m hrun hnew

/-- An exercise that has been decoded nests within the limit. -/
theorem Online.depth_goal_le (h : Online exercise goal rules s) :
    goal.toJson.depth ≤ Json.depthLimit := by
  induction h with
  | new hgoal =>
    obtain ⟨body, hbody⟩ := hgoal
    obtain ⟨j, -, hj⟩ := Option.bind_eq_some_iff.1 hbody
    exact Sequent.bounded hj
  | move _ _ _ _ _ ih => exact ih

/-- Sub-goals that have been decoded nest within the limit, and one level less for the list. -/
theorem FromResponses.depth_lt (h : FromResponses log) {a : Application} {subgoals : List Sequent}
    (hmem : (⟨.apply a, .ok subgoals⟩ : (q : Question) × q.Answer) ∈ log) :
    ∀ g ∈ subgoals, g.toJson.depth < Json.depthLimit := by
  obtain ⟨body, hbody⟩ := h a subgoals hmem
  obtain ⟨j, -, hj⟩ := Option.bind_eq_some_iff.1 hbody
  obtain ⟨below, hbelow, hfits⟩ := Json.depth_list_le_iff.1 (Sequent.bounded.list hj)
  exact fun g hg ↦ hbelow ▸ Nat.lt_succ_of_le (hfits g hg)

/-- What holds of all sequents of a tree and of all sub-goals that come in holds after a move. -/
theorem carries_move (hs : Sound exercise s) (hcarries : s.tree.Carries P) {m : Move}
    {result : Except SessionError (Option Completion)} (h : Runs m.perform s log result s')
    (hnew : FreshFor s.tree log)
    (hanswers : ∀ a subgoals, (⟨.apply a, .ok subgoals⟩ : (q : Question) × q.Answer) ∈ log →
      ∀ g ∈ subgoals, P g) : s'.tree.Carries P := by
  have hcalm : ∀ {α : Type} {x : SessionM α}, Calm x → Runs (silently x) s log result s' →
      s'.tree.Carries P := by
    intro α x hx h
    obtain ⟨-, r, h⟩ := runs_silently h
    obtain ⟨rfl, -⟩ := hx s log r s' h
    exact hcarries
  cases m with
  | apply node rule texts =>
    rcases runs_apply h with ⟨e, -, rfl, -⟩ |
      ⟨looked, log, bindings, pending, rfl, -, -, hput⟩
    · exact hcarries
    rcases runs_put hput with ⟨e, -, rfl, -⟩ |
      ⟨before, after, subgoals, ids, grown, rfl, -, hasked, hids, hcommit, hfinish⟩
    · exact hcarries
    have hgrown : grown.Grown := by
      refine hs.grown_commit (hnew _ ids ?_) hcommit
      exact List.mem_append_right looked (List.mem_append_left after hids)
    have hsubgoals : ∀ g ∈ subgoals, P g :=
      hanswers _ _ (List.mem_append_right looked (List.mem_append_left after hasked))
    have hcarried : grown.Carries P :=
      hcarries.graft (ProofTree.graft_of_commit hcommit) fun leaf hleaf ↦
        hsubgoals leaf.2 (List.of_mem_zip hleaf).2
    rcases runs_finishIfComplete hgrown.exists_report hfinish with
      ⟨-, -, -, rfl⟩ | ⟨-, -, rfl, -⟩
    · exact hcarried
    · exact hcarried
  | delete node =>
    obtain ⟨-, r, hdelete⟩ := runs_silently h
    obtain ⟨-, rfl | ⟨removed, t, ht, rfl⟩⟩ := runs_delete hdelete
    · exact hcarries
    · exact hcarries.delete ht
  | focus node =>
    obtain ⟨-, r, hfocus⟩ := runs_silently h
    obtain ⟨-, rfl | ⟨t, ht, rfl⟩⟩ := runs_focus hfocus
    · exact hcarries
    · obtain ⟨-, rfl⟩ := ProofTree.setFocus_eq_ok_iff.1 ht
      exact hcarries
  | focusRoot =>
    obtain ⟨-, r, hfocus⟩ := runs_silently h
    obtain ⟨-, rfl⟩ := runs_focusRoot hfocus
    exact hcarries
  | check node => exact hcalm (calm_check node) h
  | hint node => exact hcalm (calm_hint node) h
  | typeset => exact hcalm calm_typeset h
  | rate feedback =>
    obtain ⟨-, r, hrate⟩ := runs_silently h
    obtain ⟨rfl, -⟩ := runs_rate hrate
    exact hcarries

/-- A sequent is the exercise, or it has come in with the answer to an application. -/
def Incoming (goal g : Sequent) : Prop :=
  g = goal ∨ g.toJson.depth < Json.depthLimit

/-- **All sequents of a session fed by the backend have come in.** -/
theorem Online.carries (h : Online exercise goal rules s) : s.tree.Carries (Incoming goal) := by
  induction h with
  | new _ => exact ProofTree.carries_new (.inl rfl)
  | move h m hrun hnew hanswers ih =>
    exact carries_move h.reached.sound ih hrun hnew fun a subgoals hmem g hg ↦
      .inr (hanswers.depth_lt hmem g hg)

/-! ## Loading what a completion has saved -/

/-- **A completed proof can be loaded unless it nests too deep.**  When a session that is fed by the
backend announces a completion, the store has the proof, and every sequent in it nests within the
limit of decoding, those of sub-goals one level less.  Loading gives the same tree, with the same
document, exactly when all sequents nest within two levels less; otherwise there is nothing to be
loaded, although saving has succeeded. -/
theorem loadTree_completed {m : Move} {c : Completion} (hs : Online exercise goal rules s)
    (hrun : Runs m.perform s log (.ok (some c)) s') (hnew : FreshFor s.tree log)
    (hanswers : FromResponses log) (hserved : Served d log d') :
    goal.toJson.depth ≤ Json.depthLimit ∧
    (∀ n ∈ s'.tree.snapshot, n.sequent = goal ∨ n.sequent.toJson.depth < Json.depthLimit) ∧
    ((∃ t, d'.loadTree = .ok (some t) ∧ t.root = s'.tree.root ∧ t.snapshot = s'.tree.snapshot ∧
        t.typeset t.root = s'.tree.typeset s'.tree.root) ↔
      ∀ n ∈ s'.tree.snapshot, n.sequent.toJson.depth ≤ Json.depthLimit - 2) ∧
    ((∃ n ∈ s'.tree.snapshot, Json.depthLimit - 2 < n.sequent.toJson.depth) →
      d'.loadTree = .ok none) := by
  have hcarries : s'.tree.Carries (Incoming goal) := (hs.move m hrun hnew hanswers).carries
  obtain ⟨hsound, ⟨-, hsilent, -⟩ | ⟨-, before, after, rfl, hquiet, hend⟩⟩ :=
    runs_move hs.reached.sound hrun hnew
  · exact absurd rfl (hsilent c)
  rcases hend with ⟨op, e, -, herror⟩ | ⟨report, answer, rated, -, rfl, -⟩
  · cases herror
  rw [hquiet.served_append] at hserved
  obtain ⟨-, -, -, hfiles, -⟩ := served_completionLog hserved
  have hload := Directory.loadTree_of_lastTree hsound.grown.toRooted hfiles
  refine ⟨hs.depth_goal_le, fun n hn ↦ hcarries.of_mem_nodes hn, ⟨?_, fun hfits ↦ ?_⟩,
    fun ⟨n, hn, hdeep⟩ ↦ ?_⟩
  · rintro ⟨t, ht, -⟩
    by_contra hdeep
    rw [hload.trans (congrArg Except.ok (if_neg hdeep))] at ht
    cases ht
  · refine ⟨_, hload.trans (congrArg Except.ok (if_pos hfits)), rfl, rfl, ?_⟩
    have hsame :
        ProofTree.SameNodes { s'.tree with focus := s'.tree.root, revision := 1 } s'.tree :=
      ⟨rfl, rfl⟩
    exact congrFun hsame.typeset_eq s'.tree.root
  · rw [hload, if_neg fun hfits ↦ absurd (hfits n hn) (Nat.not_le_of_lt hdeep)]

/-! ### A proof by one axiom -/

/-- The exercise with a goal, and a rule that has neither placeholders nor premises. -/
def axiomSession (goal : Sequent) : Session :=
  .new (.ofNat 1) goal
    [{ rule := .axiomatic, premises := [], conclusion := { pattern := .verum } }]

/-- The session with the rule applied to its root. -/
def axiomProved (goal : Sequent) : Session :=
  { axiomSession goal with
    tree := (axiomSession goal).tree.grafted defaultRoot .axiomatic []
    finished := true }

/-- The application goes through at once, and so does everything after it. -/
def axiomLog (goal : Sequent) : Log :=
  ⟨.apply ⟨.axiomatic, goal, [], []⟩, .ok []⟩ :: ⟨.fresh 0, Vector.emptyWithCapacity 0⟩ ::
    (axiomProved goal).completionLog ⟨defaultRoot, [⟨defaultRoot, goal, .axiomatic, []⟩]⟩ (.ok ())
      false

/-- The store after the completion. -/
def axiomStore (goal : Sequent) : Directory :=
  ((freshStore.set Directory.dataFile
      (Directory.jsonFile ({ completed := [.ofNat 1] } : Progress).toJson)).set
    Directory.nodesFile (Directory.jsonFile (.list Node.toJson (axiomProved goal).tree.nodes))).set
      Directory.rootFile (Directory.jsonFile defaultRoot.toJson)

theorem runs_axiomLog (goal : Sequent) :
    Runs (Move.apply defaultRoot .axiomatic []).perform (axiomSession goal) (axiomLog goal)
      (.ok (some { askFeedback := true })) (axiomProved goal) :=
  .ask (.ask (.ask (.ask (.ask (.ask (.done _))))))

theorem freshFor_axiomLog (goal : Sequent) : FreshFor (axiomSession goal).tree (axiomLog goal) := by
  intro n ids hids
  rcases hids with _ | ⟨_, _ | ⟨_, _ | ⟨_, _ | ⟨_, _ | ⟨_, _ | ⟨_, ⟨⟩⟩⟩⟩⟩⟩⟩
  exact ⟨List.nodup_nil, List.forall_mem_nil _⟩

theorem fromResponses_axiomLog (goal : Sequent) : FromResponses (axiomLog goal) := by
  intro a subgoals hmem
  rcases hmem with _ | ⟨_, _ | ⟨_, _ | ⟨_, _ | ⟨_, _ | ⟨_, _ | ⟨_, ⟨⟩⟩⟩⟩⟩⟩⟩
  exact ⟨Symbol.ofString "[]", rfl⟩

theorem succeeds_axiomLog (goal : Sequent) : Succeeds (axiomLog goal) := by
  intro op e he
  rcases he with _ | ⟨_, _ | ⟨_, _ | ⟨_, _ | ⟨_, _ | ⟨_, _ | ⟨_, ⟨⟩⟩⟩⟩⟩⟩⟩

theorem served_axiomLog (goal : Sequent) :
    Served freshStore (axiomLog goal) (axiomStore goal) := by
  have hentry : Directory.entry? (axiomStore goal) Directory.dataFile =
      some (Directory.jsonFile ({ completed := [.ofNat 1] } : Progress).toJson) := by
    rw [axiomStore, Directory.entry?_set_of_ne _ (by decide),
      Directory.entry?_set_of_ne _ (by decide), Directory.entry?_set_self]
  have hprogress : (axiomStore goal).progress = .ok { completed := [.ofNat 1] } := by
    rw [Directory.progress, Directory.readJson_of_entry (Progress.wellFormed_toJson _) hentry,
      Progress.decode?_toJson]
    rfl
  have hrated : (axiomStore goal).ask (fun p ↦ decide (.ofNat 1 ∈ p.feedback)) =
      (.ok false, axiomStore goal) := by
    rw [Directory.ask, hprogress]
    rfl
  exact .other (by simp) (.other (by simp) (.store .none rfl (.store .none rfl (.other (by simp)
    (.store .none hrated (.nil _))))))

/-- An exercise that fits comes in from the backend. -/
theorem online_axiomSession (goal : Sequent) (hfits : goal.toJson.depth ≤ Json.depthLimit) :
    Online (.ofNat 1) goal (axiomSession goal).rules (axiomSession goal) := by
  refine .new ⟨Symbol.ofString goal.toJson.compact, ?_⟩
  exact WireType.read?_eq_some (t := .sequent) hfits (WireType.textOf_layouts .sequent goal).1

theorem loadTree_completed_verum :
    let goal : Sequent := { hypotheses := [], goal := .verum }
    Online (.ofNat 1) goal (axiomSession goal).rules (axiomSession goal) ∧
      FreshFor (axiomSession goal).tree (axiomLog goal) ∧ FromResponses (axiomLog goal) ∧
      Served freshStore (axiomLog goal) (axiomStore goal) ∧
      ∃ t, (axiomStore goal).loadTree = .ok (some t) ∧
        t.snapshot = (axiomProved goal).tree.snapshot := by
  intro goal
  have honline := online_axiomSession goal (by decide +kernel)
  obtain ⟨-, -, hload, -⟩ := loadTree_completed honline (runs_axiomLog goal)
    (freshFor_axiomLog goal) (fromResponses_axiomLog goal) (served_axiomLog goal)
  obtain ⟨t, ht, -, hsnapshot, -⟩ := hload.2 (by decide +kernel)
  exact ⟨honline, freshFor_axiomLog goal, fromResponses_axiomLog goal, served_axiomLog goal, t, ht,
    hsnapshot⟩

/-- The true formula under a number of negations. -/
def negations : Nat → Formula
  | 0 => .verum
  | n + 1 => .not (negations n)

/-- An exercise that nests one level less than it might. -/
def deepGoal : Sequent where
  hypotheses := []
  goal := negations 124

theorem depth_negations (n : Nat) : (negations n).toJson.depth = n + 1 := by
  induction n with
  | zero => rfl
  | succ n ih =>
    rw [negations, Formula.toJson, Formula.taggedJson, Json.record_eq]
    simp [Json.member, Json.depth, Json.depthMembers, ih]

theorem depth_deepGoal : deepGoal.toJson.depth = 126 := by
  rw [deepGoal, Sequent.toJson, Json.record_eq]
  simp [Json.member, Json.depth, Json.depthMembers, Json.depthItems, Json.list, depth_negations]

theorem loadTree_deepGoal :
    Online (.ofNat 1) deepGoal (axiomSession deepGoal).rules (axiomSession deepGoal) ∧
      Runs (Move.apply defaultRoot .axiomatic []).perform (axiomSession deepGoal)
        (axiomLog deepGoal) (.ok (some { askFeedback := true })) (axiomProved deepGoal) ∧
      FreshFor (axiomSession deepGoal).tree (axiomLog deepGoal) ∧
      FromResponses (axiomLog deepGoal) ∧ Succeeds (axiomLog deepGoal) ∧
      Served freshStore (axiomLog deepGoal) (axiomStore deepGoal) ∧
      ¬ ∃ t, (axiomStore deepGoal).loadTree = .ok (some t) ∧
        t.root = (axiomProved deepGoal).tree.root ∧
        t.snapshot = (axiomProved deepGoal).tree.snapshot := by
  have honline := online_axiomSession deepGoal (by rw [depth_deepGoal]; decide)
  refine ⟨honline, runs_axiomLog deepGoal, freshFor_axiomLog deepGoal,
    fromResponses_axiomLog deepGoal, succeeds_axiomLog deepGoal, served_axiomLog deepGoal, ?_⟩
  have hsound := (runs_move honline.reached.sound (runs_axiomLog deepGoal)
    (freshFor_axiomLog deepGoal)).1
  have hcompletion := (served_other_iff (by simp)).1
    ((served_other_iff (by simp)).1 (served_axiomLog deepGoal))
  obtain ⟨-, -, -, hfiles, -⟩ := served_completionLog hcompletion
  rintro ⟨t, ht, -⟩
  rw [Directory.loadTree_of_lastTree hsound.grown.toRooted hfiles, if_neg] at ht
  · cases ht
  · intro hfits
    have hroot := hfits { id := defaultRoot, sequent := deepGoal, rule := some .axiomatic }
      (.head _)
    rw [depth_deepGoal] at hroot
    exact absurd hroot (by decide)

end Session

end Sequitur
