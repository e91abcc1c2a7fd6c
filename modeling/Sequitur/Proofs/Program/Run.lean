import Sequitur.Proofs.Program.Effect
import Sequitur.Program.Basic

/-!
# Runs of tasks

A task of the program may fail and asks the system, and `Program.Runs` are its runs: what has been
asked and answered, and the result.  There is one lemma for each of the steps that tasks are made
of.
-/

set_option autoImplicit false

namespace Sequitur

namespace Program

variable {α β : Type} {log : Effect.Log} {result : Except ProgramError α}

/-- A task runs to a result, with what it asks of the system and the answers. -/
def Runs (x : ProgramM α) (log : Effect.Log) (result : Except ProgramError α) : Prop :=
  Dialogue.Runs x.run log result

theorem runs_pure_iff {a : α} : Runs (pure a) log result ↔ log = [] ∧ result = .ok a :=
  Dialogue.runs_done_iff

theorem runs_throw_iff {e : ProgramError} :
    Runs (throw e) log result ↔ log = [] ∧ result = .error e :=
  Dialogue.runs_done_iff

theorem runs_ask_iff {e : Effect} {result : Except ProgramError e.Answer} :
    Runs (ask e) log result ↔ ∃ answer, log = [⟨e, answer⟩] ∧ result = .ok answer := by
  refine Dialogue.runs_ask_iff.trans (exists_congr fun answer ↦ ?_)
  constructor
  · rintro ⟨rest, rfl, h⟩
    obtain ⟨rfl, rfl⟩ := Dialogue.runs_done_iff.1 h
    exact ⟨rfl, rfl⟩
  · rintro ⟨rfl, rfl⟩
    exact ⟨[], rfl, .done _⟩

theorem runs_require_iff {ε : Type} {wrap : ε → ProgramError} {given : Except ε α} :
    Runs (require wrap given) log result ↔ log = [] ∧ result = given.mapError wrap := by
  cases given with
  | ok a => exact runs_pure_iff
  | error e => exact runs_throw_iff

section Bind

variable {result : Except ProgramError β}

/-- **A run of two tasks in a row** fails in the first, or goes on from its result. -/
theorem runs_bind_iff {x : ProgramM α} {f : α → ProgramM β} :
    Runs (x >>= f) log result ↔
      (∃ e, result = .error e ∧ Runs x log (.error e)) ∨
      ∃ before after a, log = before ++ after ∧ Runs x before (.ok a) ∧
        Runs (f a) after result := by
  have hrun : (x >>= f).run = x.run >>= fun r ↦
      match r with
      | .ok a => (f a).run
      | .error e => .done (.error e) := by
    rw [ExceptT.run_bind]
    refine bind_congr fun r ↦ ?_
    cases r <;> rfl
  rw [Runs, hrun, Dialogue.runs_bind_iff]
  constructor
  · rintro ⟨before, after, r, rfl, hx, hf⟩
    cases r with
    | ok a => exact .inr ⟨before, after, a, rfl, hx, hf⟩
    | error e =>
      obtain ⟨rfl, rfl⟩ := Dialogue.runs_done_iff.1 hf
      refine .inl ⟨e, rfl, ?_⟩
      rw [List.append_nil]
      exact hx
  · rintro (⟨e, rfl, hx⟩ | ⟨before, after, a, rfl, hx, hf⟩)
    · exact ⟨log, [], .error e, (List.append_nil log).symm, hx, .done _⟩
    · exact ⟨before, after, .ok a, rfl, hx, hf⟩

theorem runs_ask_bind_iff {e : Effect} {f : e.Answer → ProgramM β} :
    Runs (ask e >>= f) log result ↔
      ∃ answer rest, log = ⟨e, answer⟩ :: rest ∧ Runs (f answer) rest result :=
  Dialogue.runs_ask_iff

/-- A requirement that is not met ends the run. -/
theorem runs_require_bind_iff {ε : Type} {wrap : ε → ProgramError} {given : Except ε α}
    {f : α → ProgramM β} :
    Runs (require wrap given >>= f) log result ↔
      (∃ e, given = .error e ∧ log = [] ∧ result = .error (wrap e)) ∨
      ∃ a, given = .ok a ∧ Runs (f a) log result := by
  cases given with
  | ok a =>
    have hrest : Runs (require wrap (.ok a : Except ε α) >>= f) log result ↔
        Runs (f a) log result := Iff.rfl
    simp [hrest]
  | error e =>
    have hthrow : Runs (require wrap (.error e : Except ε α) >>= f) log result ↔
        Runs (throw (wrap e)) log result := Iff.rfl
    simp [hthrow, runs_throw_iff]

/-- An operation on the store is asked for, and what fails there ends the run. -/
theorem runs_askStore_bind_iff {op : StoreOperation} {f : op.Result → ProgramM β} :
    Runs (askStore op >>= f) log result ↔
      ∃ answer rest, log = ⟨.store op, answer⟩ :: rest ∧
        ((∃ e, answer = .error e ∧ rest = [] ∧ result = .error (.store e)) ∨
          ∃ a, answer = .ok a ∧ Runs (f a) rest result) := by
  rw [askStore, bind_assoc, runs_ask_bind_iff]
  exact exists_congr fun answer ↦ exists_congr fun rest ↦ and_congr_right fun _ ↦
    runs_require_bind_iff

/-- A call to the backend is made, and what fails there ends the run. -/
theorem runs_call_bind_iff {c : Connection} {k : Call} {f : k.Result → ProgramM β} :
    Runs (call c k >>= f) log result ↔
      ∃ part answer rest, log = part ++ rest ∧ Dialogue.Runs (Effect.call c k) part answer ∧
        ((∃ e, answer = .error e ∧ rest = [] ∧ result = .error (.backend e)) ∨
          ∃ a, answer = .ok a ∧ Runs (f a) rest result) := by
  have hrun : (call c k >>= f).run = Effect.call c k >>= fun answer ↦
      (require .backend answer >>= f).run := by
    rw [call, callOr, bind_assoc, ExceptT.run_bind]
    show (Except.ok <$> Effect.call c k) >>= _ = _
    rw [map_eq_pure_bind, bind_assoc]
    rfl
  rw [Runs, hrun, Dialogue.runs_bind_iff]
  constructor
  · rintro ⟨part, rest, answer, rfl, hpart, hrest⟩
    exact ⟨part, answer, rest, rfl, hpart, runs_require_bind_iff.1 hrest⟩
  · rintro ⟨part, answer, rest, rfl, hpart, hrest⟩
    exact ⟨part, rest, answer, rfl, hpart, runs_require_bind_iff.2 hrest⟩

end Bind

/-! ## Beginning and end -/

variable {env : Environment}

/-- Where the store is: at the place that the command line names, or else the environment. -/
def storePath (env : Environment) : Option String → Except StoreError String
  | some path => .ok path
  | none => storeDirectory env.home env.storeDir

/-- The store is opened once its place is known, and a failure there ends the run. -/
theorem runs_openStore_bind_iff {dir : Option String} {path : String}
    {f : Unit → ProgramM β} {result : Except ProgramError β}
    (hpath : storePath env dir = .ok path) :
    Runs (openStore env dir >>= f) log result ↔
      ∃ answer rest, log = ⟨.openStore path, answer⟩ :: rest ∧
        ((∃ e, answer = .error e ∧ rest = [] ∧ result = .error (.opening e)) ∨
          ∃ a, answer = .ok a ∧ Runs (f a) rest result) := by
  have hopen : openStore env dir = require .store (storePath env dir) >>= fun path ↦
      ask (.openStore path) >>= fun answer ↦ require .opening answer := by
    cases dir <;> rfl
  have hask : openStore env dir = ask (.openStore path) >>= fun answer ↦
      require .opening answer := by
    rw [hopen, hpath]
    rfl
  rw [hask, bind_assoc, runs_ask_bind_iff]
  exact exists_congr fun answer ↦ exists_congr fun rest ↦ and_congr_right fun _ ↦
    runs_require_bind_iff

/-- The connection that is configured. -/
def connectionOf (env : Environment) (url : Option String) : Except ConnectionError Connection :=
  (Connection.ofEnvironment env.apiUrl env.apiTimeout).bind fun c ↦
    url.elim (.ok c) c.withBase

/-- To find the connection nothing is asked. -/
theorem connect_eq (env : Environment) (url : Option String) :
    connect env url = require .connection (connectionOf env url) := by
  rw [connect, connectionOf]
  cases Connection.ofEnvironment env.apiUrl env.apiTimeout with
  | error e => rfl
  | ok c =>
    -- what the address is read as does not matter
    show (match url with
      | some text => require .connection (c.withBase text)
      | none => pure c) = require .connection (url.elim (.ok c) c.withBase)
    generalize c.withBase = based
    cases url <;> rfl

/-- What is told at the end of a task: the error if it has failed. -/
def complaint : Except ProgramError α → Effect.Log
  | .ok _ => []
  | .error e => [⟨.complain e.report, ()⟩]

/-- How the program goes on after a task. -/
def ending : Except ProgramError (Option (Connection × Session)) → Ending
  | .ok none => .exit 0
  | .ok (some (c, session)) => .converse c session
  | .error _ => .exit 1

/-- **A run of the program** that is told what to do does that, and complains if it fails. -/
theorem runs_run_iff {words : List String} {a : Arguments} {outcome : Ending}
    (hwords : Arguments.parse words = .ok a) :
    Dialogue.Runs (run env words) log outcome ↔
      ∃ part result, Runs (perform env a) part result ∧ log = part ++ complaint result ∧
        outcome = ending result := by
  rw [run, hwords]
  constructor
  · intro h
    obtain ⟨part, rest, result, rfl, hpart, hrest⟩ := Dialogue.runs_bind_iff.1 h
    refine ⟨part, result, hpart, ?_⟩
    rcases result with e | _ | ⟨c, session⟩
    · obtain ⟨⟨⟩, last, rfl, hlast⟩ := Dialogue.runs_ask_iff.1 hrest
      obtain ⟨rfl, rfl⟩ := Dialogue.runs_done_iff.1 hlast
      exact ⟨rfl, rfl⟩
    · obtain ⟨rfl, rfl⟩ := Dialogue.runs_done_iff.1 hrest
      exact ⟨rfl, rfl⟩
    · obtain ⟨rfl, rfl⟩ := Dialogue.runs_done_iff.1 hrest
      exact ⟨rfl, rfl⟩
  · rintro ⟨part, result, hpart, rfl, rfl⟩
    refine Dialogue.runs_bind_iff.2 ⟨part, complaint result, result, rfl, hpart, ?_⟩
    rcases result with e | _ | ⟨c, session⟩
    · exact .ask (.done _)
    · exact .done _
    · exact .done _

end Program

end Sequitur
