import Sequitur.Proofs.Session.Move
import Sequitur.Proofs.Store.Operation

/-!
# When a proof is completed

What the outside world sees of a completion: the store, which answers the questions that are put to
it (`Session.Served`), and the backend, which is told of proofs (`Session.reports`).
`move_completion` says when a move announces a completion, what store and backend then know, and
that no other move touches any of it.
-/

set_option autoImplicit false

namespace Sequitur

namespace Session

variable {s s' : Session} {log before after : Log} {exercise : ExerciseId} {goal : Sequent}
  {rules : List Schema} {d d' : Directory}

/-! ## The store and the backend in a log -/

/-- No operation on the store fails. -/
def Succeeds (log : Log) : Prop :=
  ∀ op e, (⟨.store op, .error e⟩ : (q : Question) × q.Answer) ∉ log

/-- The proofs that the backend is told of. -/
def reports (log : Log) : List TreeReport :=
  log.filterMap fun e ↦
    match e.1 with
    | .report r => some r
    | _ => none

/-- A directory answers all questions to the store that are in a log, one after the other, and each
time the system may refuse some writes. -/
inductive Served : Directory → Log → Directory → Prop
  | nil (d : Directory) : Served d [] d
  | store {d₀ d₁ d₂ : Directory} {op : StoreOperation} {answer : Except StoreError op.Result}
      {log : Log} (refused : Refusals) (hop : op.perform d₀ refused = (answer, d₁))
      (h : Served d₁ log d₂) :
    Served d₀ (⟨.store op, answer⟩ :: log) d₂
  | other {d₀ d₁ : Directory} {q : Question} {answer : q.Answer} {log : Log}
      (hq : ∀ op, q ≠ .store op) (h : Served d₀ log d₁) : Served d₀ (⟨q, answer⟩ :: log) d₁

theorem served_store_iff {op : StoreOperation} {answer : Except StoreError op.Result} :
    Served d (⟨.store op, answer⟩ :: log) d' ↔
      ∃ refused d₁, op.perform d refused = (answer, d₁) ∧ Served d₁ log d' := by
  constructor
  · intro h
    cases h with
    | store refused hop h => exact ⟨refused, _, hop, h⟩
    | other hq h => exact absurd rfl (hq op)
  · rintro ⟨refused, d₁, hop, h⟩
    exact .store refused hop h

theorem served_other_iff {q : Question} {answer : q.Answer} (hq : ∀ op, q ≠ .store op) :
    Served d (⟨q, answer⟩ :: log) d' ↔ Served d log d' := by
  constructor
  · intro h
    cases h with
    | store _ hop h => exact absurd rfl (hq _)
    | other hq h => exact h
  · exact .other hq

/-- A quiet log leaves the store to what follows. -/
theorem Quiet.served_append (h : Quiet before) :
    Served d (before ++ after) d' ↔ Served d after d' := by
  induction before with
  | nil => rfl
  | cons e before ih =>
    obtain ⟨he, hbefore⟩ := List.forall_mem_cons.1 h
    rw [List.cons_append, served_other_iff he.1, ih hbefore]

theorem Quiet.reports_eq_nil (h : Quiet log) : reports log = [] := by
  rw [reports, List.filterMap_eq_nil_iff]
  intro e he
  split
  · next r heq => exact absurd heq ((h e he).2 r)
  · rfl

theorem served_nil_iff : Served d [] d' ↔ d' = d := by
  constructor
  · rintro ⟨⟩
    rfl
  · rintro rfl
    exact .nil d'

/-! ## Moves that complete nothing -/

theorem Uneventful.reports_eq_nil (h : Uneventful log) : reports log = [] := by
  rcases h with hquiet | ⟨exercise, feedback, told, answer, rfl⟩
  · exact hquiet.reports_eq_nil
  · rfl

/-- An uneventful log leaves the completed exercises and the last proof alone. -/
theorem Uneventful.served (h : Uneventful log) (hserved : Served d log d') :
    d'.progress.map Progress.completed = d.progress.map Progress.completed ∧
      d'.lastTree = d.lastTree := by
  rcases h with hquiet | ⟨exercise, feedback, told, answer, rfl⟩
  · rw [← List.append_nil log, hquiet.served_append, served_nil_iff] at hserved
    subst hserved
    exact ⟨rfl, rfl⟩
  · obtain ⟨refused, d₁, hop, hend⟩ := served_store_iff.1 ((served_other_iff (by simp)).1 hserved)
    obtain rfl := served_nil_iff.1 hend
    obtain rfl : ((StoreOperation.addFeedback exercise).perform d refused).2 = d' :=
      congrArg Prod.snd hop
    exact ⟨StoreOperation.completed_addFeedback exercise d refused, Directory.lastTree_update _⟩

/-! ## Moves that complete the root -/

/-- What the store holds after a completion: the exercise among the completed ones and the tree as
the last proof; and whether a rating is asked for. -/
theorem served_completionLog {report : TreeReport} {answer : Except BackendError Unit}
    {rated : Bool} (h : Served d (s.completionLog report answer rated) d') :
    ∃ p, d'.progress = .ok p ∧ s.exercise ∈ p.completed ∧
      d'.lastTree = Directory.treeFiles s.tree.root s.tree.nodes ∧
      ((!rated) = true ↔ s.exercise ∉ p.feedback) := by
  obtain ⟨_, d₁, hcompleted, h⟩ := served_store_iff.1 h
  obtain ⟨_, d₂, hsave, htold⟩ := served_store_iff.1 h
  obtain ⟨_, d₃, hrated, hend⟩ := served_store_iff.1 ((served_other_iff (by simp)).1 htold)
  obtain rfl := served_nil_iff.1 hend
  obtain ⟨p, hp, hmem⟩ := StoreOperation.perform_addCompleted hcompleted
  obtain ⟨hfiles, hprogress⟩ := Directory.saveTree_eq_ok hsave
  obtain ⟨rfl, q, hq, hfeedback⟩ := StoreOperation.perform_hasFeedback hrated
  obtain rfl : p = q := Except.ok.inj (hp.symm.trans (hprogress.symm.trans hq))
  refine ⟨p, hq, hmem, hfiles, ?_⟩
  rw [← hfeedback, Bool.not_eq_true', Bool.not_eq_true]

/-- **When a proof is completed.**  Along every history the mark of completion says whether the root
is complete.  As long as the store goes along, a completion is announced by exactly those moves
that turn the root complete.  The exercise is then among the completed ones, the tree is the last
proof of the store, the backend has been told of it once, with every node as it is, and a rating is
asked for unless there is one.  Every other move reports nothing and leaves the completed exercises
and the last proof alone, whether the store goes along or not. -/
theorem move_completion {m : Move} {result : Except SessionError (Option Completion)}
    (hs : Reached exercise goal rules s) (hrun : Runs m.perform s log result s')
    (hnew : FreshFor s.tree log) :
    s'.finished = s'.tree.isRootComplete ∧
    (Succeeds log → ((∃ c, result = .ok (some c)) ↔ m.Completes s s')) ∧
    (Succeeds log → m.Completes s s' → ∃ report c, result = .ok (some c) ∧
      reports log = [report] ∧ report.Covers s'.tree ∧
      ∀ d d', Served d log d' → ∃ p, d'.progress = .ok p ∧ exercise ∈ p.completed ∧
        d'.lastTree = Directory.treeFiles s'.tree.root s'.tree.nodes ∧
        (c.askFeedback = true ↔ exercise ∉ p.feedback)) ∧
    (¬ m.Completes s s' → reports log = [] ∧
      ∀ d d', Served d log d' →
        d'.progress.map Progress.completed = d.progress.map Progress.completed ∧
          d'.lastTree = d.lastTree) := by
  obtain ⟨hsound, ⟨hnot, hsilent, hlog⟩ | ⟨hcompletes, before, after, rfl, hquiet, hend⟩⟩ :=
    runs_move hs.sound hrun hnew
  · refine ⟨hsound.finished_eq, fun _ ↦ ?_, fun _ h ↦ absurd h hnot, fun _ ↦ ?_⟩
    · exact ⟨fun ⟨c, hc⟩ ↦ absurd hc (hsilent c), fun h ↦ absurd h hnot⟩
    · exact ⟨hlog.reports_eq_nil, fun d d' ↦ hlog.served⟩
  · have hannounced : Succeeds (before ++ after) → ∃ report answer rated,
        s'.tree.report? = some report ∧ after = s'.completionLog report answer rated ∧
          result = .ok (some { askFeedback := !rated }) := by
      intro hsucceeds
      rcases hend with ⟨op, e, he, -⟩ | h
      · exact absurd (List.mem_append_right before he) (hsucceeds op e)
      · exact h
    refine ⟨hsound.finished_eq, fun hsucceeds ↦ ?_, fun hsucceeds _ ↦ ?_,
      fun h ↦ absurd hcompletes h⟩
    · obtain ⟨-, -, rated, -, -, hresult⟩ := hannounced hsucceeds
      exact ⟨fun _ ↦ hcompletes, fun _ ↦ ⟨_, hresult⟩⟩
    · obtain ⟨report, answer, rated, hreport, rfl, hresult⟩ := hannounced hsucceeds
      refine ⟨report, _, hresult, ?_, hsound.grown.covers hreport, fun d d' hserved ↦ ?_⟩
      · have htold : reports (s'.completionLog report answer rated) = [report] := rfl
        rw [reports, List.filterMap_append, ← reports, ← reports, hquiet.reports_eq_nil, htold]
        rfl
      · rw [hquiet.served_append] at hserved
        exact hsound.exercise_eq ▸ served_completionLog hserved

/-- The exercise to prove `⊤`, with a rule that has neither placeholders nor premises. -/
def verumSession : Session :=
  .new (.ofNat 1) { hypotheses := [], goal := .verum }
    [{ rule := .axiomatic, premises := [], conclusion := { pattern := .verum } }]

/-- The session with the rule applied to its root. -/
def verumProved : Session :=
  { verumSession with
    tree := verumSession.tree.grafted defaultRoot .axiomatic []
    finished := true }

/-- The proof as it is reported. -/
def verumReport : TreeReport where
  root := defaultRoot
  nodes := [⟨defaultRoot, { hypotheses := [], goal := .verum }, .axiomatic, []⟩]

/-- The application goes through at once, and the report gets lost on its way. -/
def verumLog : Log :=
  ⟨.apply ⟨.axiomatic, { hypotheses := [], goal := .verum }, [], []⟩, .ok []⟩ ::
    ⟨.fresh 0, #v[]⟩ :: verumProved.completionLog verumReport (.error .rateLimited) false

/-- A store in which nothing has been kept so far. -/
def freshStore : Directory where
  path := "store"

/-- The store after the completion. -/
def verumStore : Directory :=
  ((freshStore.set Directory.dataFile
      (Directory.jsonFile ({ completed := [.ofNat 1] } : Progress).toJson)).set
    Directory.nodesFile (Directory.jsonFile (.list Node.toJson verumProved.tree.nodes))).set
      Directory.rootFile (Directory.jsonFile verumProved.tree.root.toJson)

theorem progress_verumStore : verumStore.progress = .ok { completed := [.ofNat 1] } := by
  have hentry : verumStore.entry? Directory.dataFile =
      some (Directory.jsonFile ({ completed := [.ofNat 1] } : Progress).toJson) := by
    rw [verumStore, Directory.entry?_set_of_ne _ (by decide),
      Directory.entry?_set_of_ne _ (by decide), Directory.entry?_set_self]
  rw [← Directory.progress_set_dataFile (d := freshStore) { completed := [.ofNat 1] }]
  refine Directory.progress_congr rfl ?_
  rw [hentry, Directory.entry?_set_self]

/-- The empty store answers as it does in the log. -/
theorem served_verumLog : Served freshStore verumLog verumStore := by
  have hrated : verumStore.ask (fun p ↦ decide (.ofNat 1 ∈ p.feedback)) =
      (.ok false, verumStore) := by
    rw [Directory.ask, progress_verumStore]
    rfl
  exact .other (by simp) (.other (by simp) (.store .none rfl (.store .none rfl (.other (by simp)
    (.store .none hrated (.nil _))))))

theorem move_completion_verum :
    let m : Move := .apply defaultRoot .axiomatic []
    Runs m.perform verumSession verumLog (.ok (some { askFeedback := true })) verumProved ∧
      FreshFor verumSession.tree verumLog ∧ Succeeds verumLog ∧
      m.Completes verumSession verumProved ∧
      verumProved.finished = verumProved.tree.isRootComplete ∧
      Served freshStore verumLog verumStore ∧
      ∃ report p, reports verumLog = [report] ∧ report.Covers verumProved.tree ∧
        verumStore.progress = .ok p ∧ .ofNat 1 ∈ p.completed := by
  intro m
  have hrun : Runs m.perform verumSession verumLog (.ok (some { askFeedback := true }))
      verumProved := .ask (.ask (.ask (.ask (.ask (.ask (.done _))))))
  have hnew : FreshFor verumSession.tree verumLog := by
    intro n ids hids
    rcases hids with _ | ⟨_, _ | ⟨_, _ | ⟨_, _ | ⟨_, _ | ⟨_, _ | ⟨_, ⟨⟩⟩⟩⟩⟩⟩⟩
    exact ⟨List.nodup_nil, List.forall_mem_nil _⟩
  have hsucceeds : Succeeds verumLog := by
    intro op e he
    rcases he with _ | ⟨_, _ | ⟨_, _ | ⟨_, _ | ⟨_, _ | ⟨_, _ | ⟨_, ⟨⟩⟩⟩⟩⟩⟩⟩
  have hcompletes : m.Completes verumSession verumProved :=
    ⟨⟨defaultRoot, .axiomatic, [], rfl⟩, by decide, by decide⟩
  have hall := move_completion .new hrun hnew
  obtain ⟨report, c, -, hreports, hcovers, hstore⟩ := hall.2.2.1 hsucceeds hcompletes
  obtain ⟨p, hp, hmem, -⟩ := hstore freshStore verumStore served_verumLog
  exact ⟨hrun, hnew, hsucceeds, hcompletes, hall.1, served_verumLog, report, p, hreports, hcovers,
    hp, hmem⟩

end Session

end Sequitur
