import Mathlib.Data.List.Basic
import Sequitur.Proofs.Action
import Sequitur.Session.Basic

/-!
# Runs of a session

What a session does is an action, and `Session.Runs` are its runs: from a session, with a log of
questions and answers, to a result and a session.  There is one lemma for each of the steps that the
operations of a session are made of, and the operations are taken apart with these.
-/

set_option autoImplicit false

namespace Sequitur

namespace Session

variable {α β : Type} {s s' : Session} {result : Except SessionError α}

/-- Questions of a session with their answers. -/
abbrev Log := List ((q : Question) × q.Answer)

variable {log : Log}

/-- Something that a session does runs from a session to a result and a session, with some
questions and their answers. -/
def Runs (x : SessionM α) (s : Session) (log : Log) (result : Except SessionError α)
    (s' : Session) : Prop :=
  Dialogue.Runs (x.run.run s) log (result, s')

/-! ## Single steps -/

@[simp]
theorem runs_pure_iff {a : α} :
    Runs (pure a) s log result s' ↔ log = [] ∧ result = .ok a ∧ s' = s :=
  Action.runs_pure_iff

@[simp]
theorem runs_throw_iff {e : SessionError} :
    Runs (throw e) s log result s' ↔ log = [] ∧ result = .error e ∧ s' = s :=
  Action.runs_throw_iff

@[simp]
theorem runs_get_iff {result : Except SessionError Session} :
    Runs get s log result s' ↔ log = [] ∧ result = .ok s ∧ s' = s :=
  Action.runs_get_iff

@[simp]
theorem runs_modify_iff {f : Session → Session} {result : Except SessionError PUnit} :
    Runs (modify f) s log result s' ↔ log = [] ∧ result = .ok ⟨⟩ ∧ s' = f s :=
  Action.runs_modify_iff

@[simp]
theorem runs_ask_iff {q : Question} {result : Except SessionError q.Answer} :
    Runs (ask q) s log result s' ↔ ∃ answer, log = [⟨q, answer⟩] ∧ result = .ok answer ∧ s' = s :=
  Action.runs_say_iff

@[simp]
theorem runs_require_iff {ε : Type} {wrap : ε → SessionError} {given : Except ε α} :
    Runs (require wrap given) s log result s' ↔
      log = [] ∧ result = given.mapError wrap ∧ s' = s := by
  cases given with
  | ok a => exact runs_pure_iff
  | error e => exact runs_throw_iff

/-! ## Steps in a row -/

/-- **A run of two steps in a row** fails in the first, or goes on from its result. -/
theorem runs_bind_iff {x : SessionM α} {f : α → SessionM β} {result : Except SessionError β} :
    Runs (x >>= f) s log result s' ↔
      (∃ e, result = .error e ∧ Runs x s log (.error e) s') ∨
      ∃ before after a middle, log = before ++ after ∧ Runs x s before (.ok a) middle ∧
        Runs (f a) middle after result s' :=
  Action.runs_bind_iff

section Bind

variable {result : Except SessionError β}

@[simp]
theorem runs_get_bind_iff {f : Session → SessionM β} :
    Runs (get >>= f) s log result s' ↔ Runs (f s) s log result s' :=
  Iff.rfl

@[simp]
theorem runs_set_bind_iff {t : Session} {f : PUnit → SessionM β} :
    Runs (set t >>= f) s log result s' ↔ Runs (f ⟨⟩) t log result s' :=
  Iff.rfl

@[simp]
theorem runs_modify_bind_iff {g : Session → Session} {f : PUnit → SessionM β} :
    Runs (modify g >>= f) s log result s' ↔ Runs (f ⟨⟩) (g s) log result s' :=
  Iff.rfl

@[simp]
theorem runs_ask_bind_iff {q : Question} {f : q.Answer → SessionM β} :
    Runs (ask q >>= f) s log result s' ↔
      ∃ answer rest, log = ⟨q, answer⟩ :: rest ∧ Runs (f answer) s rest result s' :=
  Dialogue.runs_ask_iff

/-- A requirement that is not met ends the run. -/
@[simp]
theorem runs_require_bind_iff {ε : Type} {wrap : ε → SessionError} {given : Except ε α}
    {f : α → SessionM β} :
    Runs (require wrap given >>= f) s log result s' ↔
      (∃ e, given = .error e ∧ log = [] ∧ result = .error (wrap e) ∧ s' = s) ∨
      ∃ a, given = .ok a ∧ Runs (f a) s log result s' := by
  cases given with
  | ok a =>
    have hrest : Runs (require wrap (.ok a : Except ε α) >>= f) s log result s' ↔
        Runs (f a) s log result s' := Iff.rfl
    simp [hrest]
  | error e =>
    have hthrow : Runs (require wrap (.error e : Except ε α) >>= f) s log result s' ↔
        Runs (throw (wrap e)) s log result s' := Iff.rfl
    simp [hthrow]

/-- An operation on the store is asked for, and what fails there ends the run. -/
theorem runs_askStore_bind_iff {op : StoreOperation} {f : op.Result → SessionM β} :
    Runs (askStore op >>= f) s log result s' ↔
      ∃ answer rest, log = ⟨.store op, answer⟩ :: rest ∧
        ((∃ e, answer = .error e ∧ rest = [] ∧ result = .error (.store e) ∧ s' = s) ∨
          ∃ a, answer = .ok a ∧ Runs (f a) s rest result s') := by
  rw [askStore, bind_assoc, runs_ask_bind_iff]
  exact exists_congr fun answer ↦ exists_congr fun rest ↦ and_congr_right fun _ ↦
    runs_require_bind_iff

end Bind

end Session

end Sequitur
