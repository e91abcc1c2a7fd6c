import Sequitur.Proofs.Dialogue

/-!
# Runs of actions

What a session does may fail, changes the session and asks questions, and so does what a command of
the console does; they differ in their errors.  An `Action` is anything of this kind.  `Action.Runs`
puts the four together: from a state, with a log of questions and answers, to a result and a state.
There is one lemma for each way to build an action from others.

* `Action.Still` — an action leaves the state as it is.
* `Action.Atomic` — an action that fails leaves the state as it is.
* `Action.Sure` — an action never fails.
* `Action.Asks` — an action asks no questions but those of a kind.
-/

set_option autoImplicit false

namespace Sequitur

/-- Something that may fail, changes a state and asks questions. -/
abbrev Action (Q : Type) (Answer : Q → Type) (σ ε : Type) : Type → Type :=
  ExceptT ε (StateT σ (Dialogue Q Answer))

namespace Action

variable {Q : Type} {Answer : Q → Type} {σ ε ε' α β : Type} {s s' : σ}
  {log : List ((q : Q) × Answer q)} {result : Except ε α}

/-- An action runs from a state to a result and a state, with some questions and their answers. -/
def Runs (x : Action Q Answer σ ε α) (s : σ) (log : List ((q : Q) × Answer q))
    (result : Except ε α) (s' : σ) : Prop :=
  Dialogue.Runs (x.run.run s) log (result, s')

/-! ## Single steps -/

theorem runs_done_iff {r : Except ε α} {t : σ} :
    Dialogue.Runs (.done (r, t)) log (result, s') ↔ log = [] ∧ result = r ∧ s' = t := by
  rw [Dialogue.runs_done_iff, Prod.mk.injEq]

theorem runs_pure_iff {a : α} :
    Runs (pure a) s log result s' ↔ log = [] ∧ result = .ok a ∧ s' = s :=
  runs_done_iff

theorem runs_throw_iff {e : ε} :
    Runs (throw e) s log result s' ↔ log = [] ∧ result = .error e ∧ s' = s :=
  runs_done_iff

theorem runs_get_iff {result : Except ε σ} :
    Runs get s log result s' ↔ log = [] ∧ result = .ok s ∧ s' = s :=
  runs_done_iff

theorem runs_modify_iff {f : σ → σ} {result : Except ε PUnit} :
    Runs (modify f) s log result s' ↔ log = [] ∧ result = .ok ⟨⟩ ∧ s' = f s :=
  runs_done_iff

/-- A question as an action. -/
theorem runs_say_iff {q : Q} {result : Except ε (Answer q)} :
    Runs (ExceptT.lift (StateT.lift (Dialogue.say q))) s log result s' ↔
      ∃ answer, log = [⟨q, answer⟩] ∧ result = .ok answer ∧ s' = s := by
  refine Dialogue.runs_ask_iff.trans (exists_congr fun answer ↦ ?_)
  constructor
  · rintro ⟨rest, rfl, h⟩
    obtain ⟨rfl, rfl, rfl⟩ := runs_done_iff.1 h
    exact ⟨rfl, rfl, rfl⟩
  · rintro ⟨rfl, rfl, rfl⟩
    exact ⟨[], rfl, .done _⟩

/-! ## Actions in a row -/

/-- **A run of two actions in a row** fails in the first, or goes on from its result. -/
theorem runs_bind_iff {x : Action Q Answer σ ε α} {f : α → Action Q Answer σ ε β}
    {result : Except ε β} :
    Runs (x >>= f) s log result s' ↔
      (∃ e, result = .error e ∧ Runs x s log (.error e) s') ∨
      ∃ before after a middle, log = before ++ after ∧ Runs x s before (.ok a) middle ∧
        Runs (f a) middle after result s' := by
  have hrun : (x >>= f).run.run s = x.run.run s >>= fun p ↦
      match p.1 with
      | .ok a => (f a).run.run p.2
      | .error e => .done (.error e, p.2) := by
    rw [ExceptT.run_bind, StateT.run_bind]
    refine bind_congr fun p ↦ ?_
    rcases p with ⟨a | e, t⟩ <;> rfl
  rw [Runs, hrun, Dialogue.runs_bind_iff]
  constructor
  · rintro ⟨before, after, ⟨r, middle⟩, rfl, hx, hf⟩
    cases r with
    | ok a => exact .inr ⟨before, after, a, middle, rfl, hx, hf⟩
    | error e =>
      obtain ⟨rfl, rfl, rfl⟩ := runs_done_iff.1 hf
      refine .inl ⟨e, rfl, ?_⟩
      rw [List.append_nil]
      exact hx
  · rintro (⟨e, rfl, hx⟩ | ⟨before, after, a, middle, rfl, hx, hf⟩)
    · exact ⟨log, [], (.error e, s'), (List.append_nil log).symm, hx, .done _⟩
    · exact ⟨before, after, (.ok a, middle), rfl, hx, hf⟩

/-! ## Errors changed and errors caught -/

/-- With its errors wrapped an action runs as before. -/
theorem runs_adapt_iff {x : Action Q Answer σ ε α} {wrap : ε → ε'} {result : Except ε' α} :
    Runs (ExceptT.adapt wrap x) s log result s' ↔
      ∃ r, Runs x s log r s' ∧ result = r.mapError wrap := by
  have hrun : (ExceptT.adapt wrap x).run.run s = x.run.run s >>= fun p ↦
      .done (p.1.mapError wrap, p.2) := by
    rw [ExceptT.run_adapt, StateT.run_map, map_eq_pure_bind]
    rfl
  rw [Runs, hrun, Dialogue.runs_bind_iff]
  constructor
  · rintro ⟨before, after, ⟨r, t⟩, rfl, hx, hend⟩
    obtain ⟨rfl, rfl, rfl⟩ := runs_done_iff.1 hend
    rw [List.append_nil]
    exact ⟨r, hx, rfl⟩
  · rintro ⟨r, hx, rfl⟩
    exact ⟨log, [], (r, s'), (List.append_nil log).symm, hx, .done _⟩

/-- **An error that is caught** is dealt with in the state that it left. -/
theorem runs_tryCatch_iff {x : Action Q Answer σ ε α} {handle : ε → Action Q Answer σ ε α} :
    Runs (tryCatch x handle) s log result s' ↔
      (∃ a, result = .ok a ∧ Runs x s log (.ok a) s') ∨
      ∃ before after e middle, log = before ++ after ∧ Runs x s before (.error e) middle ∧
        Runs (handle e) middle after result s' := by
  have hrun : (tryCatch x handle).run.run s = x.run.run s >>= fun p ↦
      match p.1 with
      | .ok a => .done (.ok a, p.2)
      | .error e => (handle e).run.run p.2 := by
    show (ExceptT.tryCatch x handle).run.run s = _
    refine (StateT.run_bind _ _ _).trans (bind_congr fun p ↦ ?_)
    rcases p with ⟨a | e, t⟩ <;> rfl
  rw [Runs, hrun, Dialogue.runs_bind_iff]
  constructor
  · rintro ⟨before, after, ⟨r, middle⟩, rfl, hx, hend⟩
    cases r with
    | error e => exact .inr ⟨before, after, e, middle, rfl, hx, hend⟩
    | ok a =>
      obtain ⟨rfl, rfl, rfl⟩ := runs_done_iff.1 hend
      refine .inl ⟨a, rfl, ?_⟩
      rw [List.append_nil]
      exact hx
  · rintro (⟨a, rfl, hx⟩ | ⟨before, after, e, middle, rfl, hx, hend⟩)
    · exact ⟨log, [], (.ok a, s'), (List.append_nil log).symm, hx, .done _⟩
    · exact ⟨before, after, (.error e, middle), rfl, hx, hend⟩

/-! ## Actions that change nothing -/

/-- An action leaves the state as it is, whether it fails or not. -/
def Still (x : Action Q Answer σ ε α) : Prop :=
  ∀ s log result s', Runs x s log result s' → s' = s

namespace Still

theorem pure (a : α) : Still (Pure.pure a : Action Q Answer σ ε α) :=
  fun _ _ _ _ h ↦ (runs_pure_iff.1 h).2.2

theorem throw (e : ε) : Still (throw e : Action Q Answer σ ε α) :=
  fun _ _ _ _ h ↦ (runs_throw_iff.1 h).2.2

theorem get : Still (MonadState.get : Action Q Answer σ ε σ) :=
  fun _ _ _ _ h ↦ (runs_get_iff.1 h).2.2

theorem say (q : Q) : Still (ExceptT.lift (StateT.lift (Dialogue.say q)) :
    Action Q Answer σ ε (Answer q)) := by
  intro s log result s' h
  obtain ⟨answer, -, -, rfl⟩ := runs_say_iff.1 h
  rfl

theorem bind {x : Action Q Answer σ ε α} {f : α → Action Q Answer σ ε β} (hx : Still x)
    (hf : ∀ a, Still (f a)) : Still (x >>= f) := by
  intro s log result s' h
  rcases runs_bind_iff.1 h with ⟨e, -, hfail⟩ | ⟨before, after, a, middle, rfl, hbefore, hafter⟩
  · exact hx s log _ s' hfail
  · exact (hf a middle after _ s' hafter).trans (hx s before _ middle hbefore)

theorem adapt {x : Action Q Answer σ ε α} (hx : Still x) (wrap : ε → ε') :
    Still (ExceptT.adapt wrap x : Action Q Answer σ ε' α) := by
  intro s log result s' h
  obtain ⟨r, hr, -⟩ := runs_adapt_iff.1 h
  exact hx s log r s' hr

end Still

/-! ## Actions that never fail -/

/-- An action never fails. -/
def Sure (x : Action Q Answer σ ε α) : Prop :=
  ∀ s log e s', ¬ Runs x s log (.error e) s'

namespace Sure

theorem pure (a : α) : Sure (Pure.pure a : Action Q Answer σ ε α) := by
  intro s log e s' h
  cases (runs_pure_iff.1 h).2.1

theorem get : Sure (MonadState.get : Action Q Answer σ ε σ) := by
  intro s log e s' h
  cases (runs_get_iff.1 h).2.1

theorem modify (f : σ → σ) :
    Sure (MonadStateOf.modifyGet (fun s ↦ (⟨⟩, f s)) : Action Q Answer σ ε PUnit) := by
  intro s log e s' h
  cases (runs_modify_iff.1 h).2.1

theorem say (q : Q) : Sure (ExceptT.lift (StateT.lift (Dialogue.say q)) :
    Action Q Answer σ ε (Answer q)) := by
  intro s log e s' h
  obtain ⟨answer, -, hresult, -⟩ := runs_say_iff.1 h
  cases hresult

theorem bind {x : Action Q Answer σ ε α} {f : α → Action Q Answer σ ε β} (hx : Sure x)
    (hf : ∀ a, Sure (f a)) : Sure (x >>= f) := by
  intro s log e s' h
  rcases runs_bind_iff.1 h with ⟨e, -, hfail⟩ | ⟨before, after, a, middle, -, -, hafter⟩
  · exact hx s log e s' hfail
  · exact hf a middle after e s' hafter

theorem adapt {x : Action Q Answer σ ε α} (hx : Sure x) (wrap : ε → ε') :
    Sure (ExceptT.adapt wrap x : Action Q Answer σ ε' α) := by
  intro s log e s' h
  obtain ⟨a | a, hr, hresult⟩ := runs_adapt_iff.1 h
  · exact hx s log a s' hr
  · cases hresult

end Sure

/-! ## Actions that fail without a trace -/

/-- An action that fails leaves the state as it is. -/
def Atomic (x : Action Q Answer σ ε α) : Prop :=
  ∀ s log e s', Runs x s log (.error e) s' → s' = s

namespace Atomic

theorem adapt {x : Action Q Answer σ ε α} (hx : Atomic x) (wrap : ε → ε') :
    Atomic (ExceptT.adapt wrap x : Action Q Answer σ ε' α) := by
  intro s log e s' h
  obtain ⟨a | a, hr, hresult⟩ := runs_adapt_iff.1 h
  · exact hx s log a s' hr
  · cases hresult

/-- Nothing is left behind where nothing has been changed before. -/
theorem after_still {x : Action Q Answer σ ε α} {f : α → Action Q Answer σ ε β} (hx : Still x)
    (hf : ∀ a, Atomic (f a)) : Atomic (x >>= f) := by
  intro s log e s' h
  rcases runs_bind_iff.1 h with ⟨e, -, hfail⟩ | ⟨before, after, a, middle, rfl, hbefore, hafter⟩
  · exact hx s log _ s' hfail
  · exact (hf a middle after e s' hafter).trans (hx s before _ middle hbefore)

/-- What never fails may follow. -/
theorem before_sure {x : Action Q Answer σ ε α} {f : α → Action Q Answer σ ε β} (hx : Atomic x)
    (hf : ∀ a, Sure (f a)) : Atomic (x >>= f) := by
  intro s log e s' h
  rcases runs_bind_iff.1 h with ⟨e, -, hfail⟩ | ⟨before, after, a, middle, -, -, hafter⟩
  · exact hx s log e s' hfail
  · exact absurd hafter (hf a middle after e s')

end Atomic

theorem Still.atomic {x : Action Q Answer σ ε α} (hx : Still x) : Atomic x :=
  fun s log e s' h ↦ hx s log (.error e) s' h

theorem Sure.atomic {x : Action Q Answer σ ε α} (hx : Sure x) : Atomic x :=
  fun s log e s' h ↦ absurd h (hx s log e s')

/-! ## What is asked -/

/-- An action asks no questions but those of a kind. -/
def Asks (kind : Q → Prop) (x : Action Q Answer σ ε α) : Prop :=
  ∀ s log result s', Runs x s log result s' → ∀ e ∈ log, kind e.1

namespace Asks

variable {kind : Q → Prop}

/-- What asks nothing asks nothing of another kind. -/
theorem of_silent {x : Action Q Answer σ ε α}
    (hx : ∀ s log result s', Runs x s log result s' → log = []) : Asks kind x := by
  intro s log result s' h
  rw [hx s log result s' h]
  exact List.forall_mem_nil _

theorem pure (a : α) : Asks kind (Pure.pure a : Action Q Answer σ ε α) :=
  of_silent fun _ _ _ _ h ↦ (runs_pure_iff.1 h).1

theorem throw (e : ε) : Asks kind (throw e : Action Q Answer σ ε α) :=
  of_silent fun _ _ _ _ h ↦ (runs_throw_iff.1 h).1

theorem get : Asks kind (MonadState.get : Action Q Answer σ ε σ) :=
  of_silent fun _ _ _ _ h ↦ (runs_get_iff.1 h).1

theorem say {q : Q} (hq : kind q) : Asks kind (ExceptT.lift (StateT.lift (Dialogue.say q)) :
    Action Q Answer σ ε (Answer q)) := by
  intro s log result s' h
  obtain ⟨answer, rfl, -, -⟩ := runs_say_iff.1 h
  exact List.forall_mem_singleton.2 hq

theorem bind {x : Action Q Answer σ ε α} {f : α → Action Q Answer σ ε β} (hx : Asks kind x)
    (hf : ∀ a, Asks kind (f a)) : Asks kind (x >>= f) := by
  intro s log result s' h
  rcases runs_bind_iff.1 h with ⟨e, -, hfail⟩ | ⟨before, after, a, middle, rfl, hbefore, hafter⟩
  · exact hx s log _ s' hfail
  · exact List.forall_mem_append.2
      ⟨hx s before _ middle hbefore, hf a middle after _ s' hafter⟩

theorem adapt {x : Action Q Answer σ ε α} (hx : Asks kind x) (wrap : ε → ε') :
    Asks kind (ExceptT.adapt wrap x : Action Q Answer σ ε' α) := by
  intro s log result s' h
  obtain ⟨r, hr, -⟩ := runs_adapt_iff.1 h
  exact hx s log r s' hr

end Asks

end Action

end Sequitur
