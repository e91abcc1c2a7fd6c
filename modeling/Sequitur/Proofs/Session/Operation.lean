import Sequitur.Proofs.Session.Run

/-!
# What the operations of a session do

Most of what a session does only looks: it leaves the session as it is and asks neither the store
nor for a report (`Session.Calm`).  For the rest there is one statement each, from a run of the
operation to what has happened: the changes of the tree (`runs_focus`, `runs_delete`,
`runs_put_cases`, `runs_apply`), the record of a completion (`runs_finishIfComplete_cases`), and the
rating (`runs_rate`).
-/

set_option autoImplicit false

namespace Sequitur

namespace Session

variable {α β : Type} {s s' : Session} {log before after : Log} {node : NodeId} {rule : Rule}

/-! ## Looking without touching -/

/-- No question is put to the store, and no proof is reported. -/
def Quiet (log : Log) : Prop :=
  ∀ e ∈ log, (∀ op, e.1 ≠ .store op) ∧ ∀ t, e.1 ≠ .report t

theorem quiet_nil : Quiet [] :=
  List.forall_mem_nil _

theorem quiet_append : Quiet (before ++ after) ↔ Quiet before ∧ Quiet after :=
  List.forall_mem_append

theorem quiet_singleton {q : Question} {answer : q.Answer} (hstore : ∀ op, q ≠ .store op)
    (hreport : ∀ t, q ≠ .report t) : Quiet [⟨q, answer⟩] :=
  List.forall_mem_singleton.2 ⟨hstore, hreport⟩

/-- Something leaves the session as it is and asks neither the store nor for a report. -/
def Calm (x : SessionM α) : Prop :=
  ∀ s log result s', Runs x s log result s' → s' = s ∧ Quiet log

namespace Calm

theorem pure (a : α) : Calm (Pure.pure a) := by
  intro s log result s' h
  obtain ⟨rfl, -, rfl⟩ := runs_pure_iff.1 h
  exact ⟨rfl, quiet_nil⟩

theorem throw (e : SessionError) : Calm (throw e : SessionM α) := by
  intro s log result s' h
  obtain ⟨rfl, -, rfl⟩ := runs_throw_iff.1 h
  exact ⟨rfl, quiet_nil⟩

theorem get : Calm MonadState.get := by
  intro s log result s' h
  obtain ⟨rfl, -, rfl⟩ := runs_get_iff.1 h
  exact ⟨rfl, quiet_nil⟩

theorem require {ε : Type} (wrap : ε → SessionError) (given : Except ε α) :
    Calm (require wrap given) := by
  intro s log result s' h
  obtain ⟨rfl, -, rfl⟩ := runs_require_iff.1 h
  exact ⟨rfl, quiet_nil⟩

theorem ask {q : Question} (hstore : ∀ op, q ≠ .store op) (hreport : ∀ t, q ≠ .report t) :
    Calm (ask q) := by
  intro s log result s' h
  obtain ⟨answer, rfl, -, rfl⟩ := runs_ask_iff.1 h
  exact ⟨rfl, quiet_singleton hstore hreport⟩

/-- Calm steps in a row are calm. -/
theorem bind {x : SessionM α} {f : α → SessionM β} (hx : Calm x) (hf : ∀ a, Calm (f a)) :
    Calm (x >>= f) := by
  intro s log result s' h
  rcases runs_bind_iff.1 h with ⟨e, -, hfail⟩ | ⟨before, after, a, middle, rfl, hbefore, hafter⟩
  · exact hx s log _ s' hfail
  · obtain ⟨rfl, hquiet⟩ := hx s before _ middle hbefore
    obtain ⟨rfl, hquiet'⟩ := hf a middle after _ s' hafter
    exact ⟨rfl, quiet_append.2 ⟨hquiet, hquiet'⟩⟩

end Calm

theorem calm_schemaOf (rule : Rule) : Calm (schemaOf rule) := by
  refine .bind .get fun s ↦ ?_
  split
  · exact .pure _
  · exact .throw _

theorem calm_sequentAt (node : NodeId) : Calm (sequentAt node) := by
  refine .bind .get fun s ↦ ?_
  split
  · exact .pure _
  · exact .throw _

/-- A reference is the word for the root, the dot for the focus, or looked up in the tree. -/
theorem runs_resolve_iff {reference : String} {result : Except SessionError NodeId} :
    Runs (resolve reference) s log result s' ↔ log = [] ∧ s' = s ∧
      ((reference = "root" ∧ result = .ok s.tree.root) ∨
        (reference = "." ∧ result = .ok s.tree.focus) ∨
        (reference ≠ "root" ∧ reference ≠ "." ∧
          ((∃ id, s.tree.resolve? reference = some id ∧ result = .ok id) ∨
            s.tree.resolve? reference = none ∧ result = .error (.noSuchNode reference)))) := by
  rw [resolve, runs_get_bind_iff]
  by_cases hroot : reference = "root"
  · subst hroot
    simp [and_comm]
  by_cases hdot : reference = "."
  · subst hdot
    simp [and_comm]
  simp only [hroot, hdot, false_and, false_or, not_false_eq_true, true_and, ne_eq]
  cases hresolve : s.tree.resolve? reference with
  | none => simp [and_comm]
  | some id => simp [and_comm]

/-- A reference means a node, or there is no such node. -/
theorem runs_resolve {reference : String} {result : Except SessionError NodeId}
    (h : Runs (resolve reference) s log result s') :
    log = [] ∧ s' = s ∧
      ((∃ node, result = .ok node) ∨ result = .error (.noSuchNode reference)) := by
  obtain ⟨hlog, hs, hmeaning⟩ := runs_resolve_iff.1 h
  refine ⟨hlog, hs, ?_⟩
  rcases hmeaning with ⟨-, h⟩ | ⟨-, h⟩ | ⟨-, -, ⟨id, -, h⟩ | ⟨-, h⟩⟩
  · exact .inl ⟨_, h⟩
  · exact .inl ⟨_, h⟩
  · exact .inl ⟨_, h⟩
  · exact .inr h

theorem calm_resolve (reference : String) : Calm (resolve reference) := by
  intro s log result s' h
  obtain ⟨rfl, rfl, -⟩ := runs_resolve h
  exact ⟨rfl, quiet_nil⟩

theorem calm_candidates (node : NodeId) (rule : Rule) : Calm (candidates node rule) :=
  .bind (calm_schemaOf rule) fun _ ↦ .bind (calm_sequentAt node) fun _ ↦ .pure _

theorem calm_readBinding (rule : Rule) (text : String) (slot : Option Placeholder) :
    Calm (readBinding rule text slot) := by
  cases slot with
  | none => exact .throw _
  | some placeholder =>
    cases placeholder with
    | element _ => exact .pure _
    | formula _ => exact .bind (.ask (by simp) (by simp)) fun _ ↦ .require _ _

theorem calm_bindTexts (b : Bindings) (texts : List String) : Calm (bindTexts b texts) := by
  induction texts generalizing b with
  | nil => exact .pure b
  | cons text texts ih =>
    refine .bind (calm_readBinding b.rule text b.next?) fun formula ↦ ?_
    exact .bind (.require _ _) fun bound ↦ ih bound

theorem calm_check (node : NodeId) : Calm (check node) := by
  refine .bind (calm_sequentAt node) fun sequent ↦ ?_
  exact .bind (.ask (by simp) (by simp)) fun _ ↦ .require _ _

theorem calm_hint (node : NodeId) : Calm (hint node) := by
  refine .bind (calm_sequentAt node) fun sequent ↦ ?_
  exact .bind (.ask (by simp) (by simp)) fun _ ↦ .require _ _

theorem calm_typeset : Calm typeset :=
  .bind .get fun _ ↦ .require _ _

/-! ## Changes of the tree -/

theorem runs_focus {result : Except SessionError Unit} (h : Runs (focus node) s log result s') :
    log = [] ∧ (s' = s ∨ ∃ t, s.tree.setFocus node = .ok t ∧ s' = { s with tree := t }) := by
  rw [focus, runs_get_bind_iff, runs_require_bind_iff] at h
  rcases h with ⟨e, -, rfl, -, rfl⟩ | ⟨t, ht, h⟩
  · exact ⟨rfl, .inl rfl⟩
  · obtain ⟨rfl, -, rfl⟩ := runs_modify_iff.1 h
    exact ⟨rfl, .inr ⟨t, ht, rfl⟩⟩

theorem runs_focusRoot {result : Except SessionError Unit} (h : Runs focusRoot s log result s') :
    log = [] ∧ s' = { s with tree := s.tree.focusRoot } := by
  rw [focusRoot, runs_get_bind_iff] at h
  obtain ⟨rfl, -, rfl⟩ := runs_modify_iff.1 h
  exact ⟨rfl, rfl⟩

/-- A deletion that is accepted keeps the mark of completion only if the root stays complete. -/
theorem runs_delete {result : Except SessionError (List NodeId)}
    (h : Runs (delete node) s log result s') :
    log = [] ∧ (s' = s ∨ ∃ removed t, s.tree.delete node = .ok (removed, t) ∧
      s' = { s with tree := t, finished := s.finished && t.isRootComplete }) := by
  rw [delete, runs_get_bind_iff, runs_require_bind_iff] at h
  rcases h with ⟨e, -, rfl, -, rfl⟩ | ⟨⟨removed, t⟩, ht, h⟩
  · exact ⟨rfl, .inl rfl⟩
  · rw [runs_modify_bind_iff] at h
    obtain ⟨rfl, -, rfl⟩ := runs_pure_iff.1 h
    exact ⟨rfl, .inr ⟨removed, t, ht, rfl⟩⟩

/-- The log of a completion: the exercise is recorded, the tree saved, the proof reported, and the
store asked for a rating. -/
def completionLog (s : Session) (report : TreeReport) (answer : Except BackendError Unit)
    (rated : Bool) : Log :=
  [⟨.store (.addCompleted s.exercise), .ok ()⟩,
    ⟨.store (.saveTree s.tree.root s.tree.nodes), .ok ()⟩, ⟨.report report, answer⟩,
    ⟨.store (.hasFeedback s.exercise), .ok rated⟩]

/-- A question that belongs to the record of a completion: one to the store, or a report. -/
def IsRecord (q : Question) : Prop :=
  (∃ op, q = .store op) ∨ ∃ report, q = .report report

/-- The backend is told of a tree if there is a report of it. -/
def Told (t : ProofTree) (log : Log) : Prop :=
  (t.report? = none ∧ log = []) ∨
    ∃ report reply, t.report? = some report ∧ log = [⟨.report report, reply⟩]

theorem Told.isRecord {t : ProofTree} (h : Told t log) : ∀ e ∈ log, IsRecord e.1 := by
  rcases h with ⟨-, rfl⟩ | ⟨report, reply, -, rfl⟩
  · exact List.forall_mem_nil _
  · exact List.forall_mem_singleton.2 (.inr ⟨report, rfl⟩)

/-- The end of a completion: a rating is asked for unless there is one. -/
def askForRating (exercise : ExerciseId) : SessionM (Option Completion) := do
  let rated ← askStore (.hasFeedback exercise)
  pure (some { askFeedback := !rated })

theorem runs_askForRating {exercise : ExerciseId} {result : Except SessionError (Option Completion)}
    (h : Runs (askForRating exercise) s log result s') :
    s' = s ∧ ∃ answer, log = [⟨.store (.hasFeedback exercise), answer⟩] ∧
      ((∃ e, answer = .error e ∧ result = .error (.store e)) ∨
        ∃ rated, answer = .ok rated ∧ result = .ok (some { askFeedback := !rated })) := by
  obtain ⟨answer, rest, rfl, hanswer⟩ := runs_askStore_bind_iff.1 h
  rcases hanswer with ⟨e, rfl, rfl, rfl, rfl⟩ | ⟨rated, rfl, hend⟩
  · exact ⟨rfl, _, rfl, .inl ⟨e, rfl, rfl⟩⟩
  · obtain ⟨rfl, rfl, rfl⟩ := runs_pure_iff.1 hend
    exact ⟨rfl, _, rfl, .inr ⟨rated, rfl, rfl⟩⟩

/-- **A completion is recorded once**, when the root has become complete and has not been before.
Nothing but the record is asked for, and only the store can make it fail. -/
theorem runs_finishIfComplete_cases {result : Except SessionError (Option Completion)}
    (h : Runs finishIfComplete s log result s') :
    ((s.finished = true ∨ s.tree.isRootComplete = false) ∧ log = [] ∧ result = .ok none ∧ s' = s) ∨
    (s.finished = false ∧ s.tree.isRootComplete = true ∧ s' = { s with finished := true } ∧
      (∀ e ∈ log, IsRecord e.1) ∧
      ((∃ op e, (⟨.store op, .error e⟩ : (q : Question) × q.Answer) ∈ log ∧
          result = .error (.store e)) ∨
        ∃ told rated, Told s.tree told ∧
          log = ⟨.store (.addCompleted s.exercise), .ok ()⟩ ::
            ⟨.store (.saveTree s.tree.root s.tree.nodes), .ok ()⟩ ::
              (told ++ [⟨.store (.hasFeedback s.exercise), .ok rated⟩]) ∧
            result = .ok (some { askFeedback := !rated }))) := by
  have hstore : ∀ op, IsRecord (.store op) := fun op ↦ .inl ⟨op, rfl⟩
  rw [finishIfComplete, runs_get_bind_iff] at h
  split at h
  · rename_i hdone
    obtain ⟨rfl, rfl, rfl⟩ := runs_pure_iff.1 h
    exact .inl ⟨by simpa using hdone, rfl, rfl, rfl⟩
  rename_i hopen
  obtain ⟨hfinished, hcomplete⟩ : s.finished = false ∧ s.tree.isRootComplete = true := by
    simpa using hopen
  rw [runs_set_bind_iff] at h
  refine .inr ⟨hfinished, hcomplete, ?_⟩
  obtain ⟨answer, rest, rfl, hrecord⟩ := runs_askStore_bind_iff.1 h
  rcases hrecord with ⟨e, rfl, rfl, rfl, rfl⟩ | ⟨⟨⟩, rfl, hsave⟩
  · exact ⟨rfl, List.forall_mem_singleton.2 (hstore _), .inl ⟨_, e, .head _, rfl⟩⟩
  obtain ⟨answer, rest, rfl, hsaved⟩ := runs_askStore_bind_iff.1 hsave
  rcases hsaved with ⟨e, rfl, rfl, rfl, rfl⟩ | ⟨⟨⟩, rfl, htell⟩
  · exact ⟨rfl, by simp [hstore], .inl ⟨_, e, .tail _ (.head _), rfl⟩⟩
  obtain ⟨told, rest, htold, rfl, hrating⟩ : ∃ told after, Told s.tree told ∧
      rest = told ++ after ∧
      Runs (askForRating s.exercise) { s with finished := true } after result s' := by
    cases hreport : s.tree.report? with
    | none =>
      rw [hreport] at htell
      exact ⟨[], _, .inl ⟨hreport, rfl⟩, rfl, htell⟩
    | some report =>
      rw [hreport] at htell
      obtain ⟨reply, rest, rfl, hrest⟩ := runs_ask_bind_iff.1 htell
      exact ⟨[_], rest, .inr ⟨report, reply, hreport, rfl⟩, rfl, hrest⟩
  obtain ⟨rfl, answer, rfl, hend⟩ := runs_askForRating hrating
  refine ⟨rfl, ?_, ?_⟩
  · simp only [List.forall_mem_cons, List.forall_mem_append]
    exact ⟨hstore _, hstore _, htold.isRecord, hstore _, List.forall_mem_nil _⟩
  · rcases hend with ⟨e, rfl, rfl⟩ | ⟨rated, rfl, rfl⟩
    · exact .inl ⟨.hasFeedback s.exercise, e, by simp, rfl⟩
    · exact .inr ⟨told, rated, htold, rfl, rfl⟩

/-- When a complete tree can be reported, the log of a completion is as it should be as far as the
store goes along. -/
theorem runs_finishIfComplete {result : Except SessionError (Option Completion)}
    (hreport : s.tree.isRootComplete = true → ∃ report, s.tree.report? = some report)
    (h : Runs finishIfComplete s log result s') :
    ((s.finished = true ∨ s.tree.isRootComplete = false) ∧ log = [] ∧ result = .ok none ∧ s' = s) ∨
    (s.finished = false ∧ s.tree.isRootComplete = true ∧ s' = { s with finished := true } ∧
      ((∃ op e, (⟨.store op, .error e⟩ : (q : Question) × q.Answer) ∈ log ∧
          result = .error (.store e)) ∨
        ∃ report answer rated, s.tree.report? = some report ∧
          log = s.completionLog report answer rated ∧
            result = .ok (some { askFeedback := !rated }))) := by
  refine (runs_finishIfComplete_cases h).imp_right ?_
  rintro ⟨hfinished, hcomplete, rfl, -, hend⟩
  refine ⟨hfinished, hcomplete, rfl, hend.imp_right ?_⟩
  rintro ⟨told, rated, ⟨hnone, -⟩ | ⟨report, reply, hsome, rfl⟩, rfl, hresult⟩
  · obtain ⟨report, hsome⟩ := hreport hcomplete
    rw [hnone] at hsome
    cases hsome
  · exact ⟨report, reply, rated, hsome, rfl, hresult⟩

/-! ## Rating -/

/-- The backend is told of a rating, and once it has taken it the store is asked to record it. -/
theorem runs_rate_cases {feedback : Feedback} {result : Except SessionError Unit}
    (h : Runs (rate feedback) s log result s') :
    s' = s ∧ ((∃ e, log = [⟨.rate s.exercise feedback, .error e⟩] ∧ result = .error (.backend e)) ∨
      ∃ answer, log = [⟨.rate s.exercise feedback, .ok ()⟩,
        ⟨.store (.addFeedback s.exercise), answer⟩] ∧ result = answer.mapError .store) := by
  rw [rate] at h
  obtain ⟨told, rest, rfl, htaken⟩ := runs_ask_bind_iff.1 (runs_get_bind_iff.1 h)
  rcases runs_require_bind_iff.1 htaken with ⟨e, rfl, rfl, rfl, rfl⟩ | ⟨_, rfl, hrecord⟩
  · exact ⟨rfl, .inl ⟨e, rfl, rfl⟩⟩
  · obtain ⟨answer, rest, rfl, hend⟩ := runs_ask_bind_iff.1 hrecord
    obtain ⟨rfl, rfl, rfl⟩ := runs_require_iff.1 hend
    exact ⟨rfl, .inr ⟨answer, rfl, rfl⟩⟩

/-- A rating leaves the session as it is, and the store hears of nothing else. -/
theorem runs_rate {feedback : Feedback} {result : Except SessionError Unit}
    (h : Runs (rate feedback) s log result s') :
    s' = s ∧ (Quiet log ∨ ∃ told answer, log = [⟨.rate s.exercise feedback, told⟩,
      ⟨.store (.addFeedback s.exercise), answer⟩]) := by
  refine (runs_rate_cases h).imp_right ?_
  rintro (⟨e, rfl, -⟩ | ⟨answer, rfl, -⟩)
  · exact .inl (quiet_singleton (by simp) (by simp))
  · exact .inr ⟨.ok (), answer, rfl⟩

/-! ## Applying -/

/-- After a calm step that does not fail the session is the same. -/
theorem Calm.runs_bind {x : SessionM α} {f : α → SessionM β} {result : Except SessionError β}
    (hx : Calm x) (h : Runs (x >>= f) s log result s') :
    (∃ e, result = .error e ∧ s' = s ∧ Quiet log) ∨
      ∃ before after a, log = before ++ after ∧ Quiet before ∧ Runs x s before (.ok a) s ∧
        Runs (f a) s after result s' := by
  rcases runs_bind_iff.1 h with ⟨e, rfl, hfail⟩ | ⟨before, after, a, middle, rfl, hx', hf⟩
  · obtain ⟨rfl, hquiet⟩ := hx s log _ s' hfail
    exact .inl ⟨e, rfl, rfl, hquiet⟩
  · obtain ⟨rfl, hquiet⟩ := hx s before _ middle hx'
    exact .inr ⟨before, after, a, rfl, hquiet, hx', hf⟩

/-- What follows the preparation of an application: the backend is asked for the premises, new ids
are thought up for them, and the answer is put into the tree. -/
def put (pending : Pending) : SessionM (Option Completion) := do
  let subgoals ← require .apply (← ask (.apply pending.application))
  let ids : Vector NodeId subgoals.length ← ask (.fresh subgoals.length)
  setTree (← require .apply ((← get).tree.commit pending (ids.toList.zip subgoals)))
  finishIfComplete

/-- The backend is asked once, and new ids are thought up once it has agreed. -/
theorem runs_put_cases {pending : Pending} {result : Except SessionError (Option Completion)}
    (h : Runs (put pending) s log result s') :
    (∃ e, log = [⟨.apply pending.application, .error e⟩] ∧ result = .error (.apply e) ∧ s' = s) ∨
      ∃ subgoals, ∃ ids : Vector NodeId (List.length subgoals), ∃ rest,
        log = ⟨.apply pending.application, .ok subgoals⟩ :: ⟨.fresh subgoals.length, ids⟩ :: rest ∧
          ((∃ e, s.tree.commit pending (ids.toList.zip subgoals) = .error e ∧ rest = [] ∧
              result = .error (.apply e) ∧ s' = s) ∨
            ∃ grown, s.tree.commit pending (ids.toList.zip subgoals) = .ok grown ∧
              Runs finishIfComplete { s with tree := grown } rest result s') := by
  rw [put] at h
  obtain ⟨answer, log, rfl, hanswer⟩ := runs_ask_bind_iff.1 h
  rcases runs_require_bind_iff.1 hanswer with ⟨e, rfl, rfl, rfl, rfl⟩ | ⟨subgoals, rfl, hfresh⟩
  · exact .inl ⟨e, rfl, rfl, rfl⟩
  obtain ⟨ids, log, rfl, hgrow⟩ := runs_ask_bind_iff.1 hfresh
  refine .inr ⟨subgoals, ids, log, rfl, ?_⟩
  rw [runs_get_bind_iff] at hgrow
  rcases runs_require_bind_iff.1 hgrow with ⟨e, hcommit, rfl, rfl, rfl⟩ | ⟨grown, hcommit, hfinish⟩
  · exact .inl ⟨e, hcommit, rfl, rfl, rfl⟩
  · exact .inr ⟨grown, hcommit, runs_modify_bind_iff.1 hfinish⟩

/-- The answer to an application is refused, or it has been put into the tree and the rest of the
run finishes it.  The leaves are the sequents of the answer under the new ids. -/
theorem runs_put {pending : Pending} {result : Except SessionError (Option Completion)}
    (h : Runs (put pending) s log result s') :
    (∃ e, result = .error e ∧ s' = s ∧ Quiet log) ∨
      ∃ before after subgoals, ∃ ids : Vector NodeId (List.length subgoals), ∃ grown,
        log = before ++ after ∧ Quiet before ∧
          ⟨.apply pending.application, .ok subgoals⟩ ∈ before ∧
          ⟨.fresh subgoals.length, ids⟩ ∈ before ∧
          s.tree.commit pending (ids.toList.zip subgoals) = .ok grown ∧
          Runs finishIfComplete { s with tree := grown } after result s' := by
  rcases runs_put_cases h with ⟨e, rfl, rfl, rfl⟩ | ⟨subgoals, ids, rest, rfl, hrest⟩
  · exact .inl ⟨_, rfl, rfl, quiet_singleton (by simp) (by simp)⟩
  have hquiet : Quiet [⟨.apply pending.application, .ok subgoals⟩, ⟨.fresh subgoals.length, ids⟩] :=
    quiet_append.2 ⟨quiet_singleton (q := .apply pending.application) (by simp) (by simp),
      quiet_singleton (by simp) (by simp)⟩
  rcases hrest with ⟨e, -, rfl, rfl, rfl⟩ | ⟨grown, hcommit, hfinish⟩
  · exact .inl ⟨_, rfl, rfl, hquiet⟩
  · exact .inr ⟨_, rest, subgoals, ids, grown, rfl, hquiet, by simp, by simp, hcommit, hfinish⟩

/-- **An application fails without a trace, or it has been prepared and is put into the tree.** -/
theorem runs_apply {texts : List String} {result : Except SessionError (Option Completion)}
    (h : Runs (apply node rule texts) s log result s') :
    (∃ e, result = .error e ∧ s' = s ∧ Quiet log) ∨
      ∃ before after bindings pending, log = before ++ after ∧ Quiet before ∧
        s.tree.prepare node bindings = .ok pending ∧ Runs (put pending) s after result s' := by
  rcases (calm_schemaOf rule).runs_bind h with hfail |
    ⟨looked, log, schema, rfl, hlooked, -, hbind⟩
  · exact .inl hfail
  rcases (calm_bindTexts (.ofSchema schema) texts).runs_bind hbind with ⟨e, rfl, rfl, hquiet⟩ |
    ⟨bound, log, bindings, rfl, hbound, -, hgo⟩
  · exact .inl ⟨e, rfl, rfl, quiet_append.2 ⟨hlooked, hquiet⟩⟩
  have hbefore : Quiet (looked ++ bound) := quiet_append.2 ⟨hlooked, hbound⟩
  split at hgo
  · rw [runs_get_bind_iff] at hgo
    rcases runs_require_bind_iff.1 hgo with ⟨e, -, rfl, rfl, rfl⟩ | ⟨pending, hprepare, hput⟩
    · exact .inl ⟨_, rfl, rfl, by simpa using hbefore⟩
    · exact .inr ⟨looked ++ bound, log, bindings, pending, (List.append_assoc _ _ _).symm, hbefore,
        hprepare, hput⟩
  · -- what is missing is told along with what the sequent offers for it
    rcases (calm_sequentAt node).runs_bind hgo with ⟨e, rfl, rfl, hquiet⟩ |
      ⟨before, after, sequent, rfl, hquiet, -, hthrow⟩
    · refine .inl ⟨e, rfl, rfl, ?_⟩
      rw [← List.append_assoc]
      exact quiet_append.2 ⟨hbefore, hquiet⟩
    · obtain ⟨rfl, rfl, rfl⟩ := runs_throw_iff.1 hthrow
      refine .inl ⟨_, rfl, rfl, ?_⟩
      rw [List.append_nil, ← List.append_assoc]
      exact quiet_append.2 ⟨hbefore, hquiet⟩

end Session

end Sequitur
