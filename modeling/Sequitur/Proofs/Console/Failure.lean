import Sequitur.Console.Basic
import Sequitur.Proofs.Session.Application
import Sequitur.Proofs.Session.Completion

/-!
# What a command leaves behind when it fails

A command can fail at many depths, and most of what it does can only look.  The commands that change
the session change it in one step, after everything that can fail, with nothing behind it but
printing.  The only exception is an application: its completion is recorded once it is in the tree,
and the store may fail then.

* `Command.looks` — a command only looks at the session.
* `obey_atomic` — **a command that fails leaves the session as it was**, with that exception.
-/

set_option autoImplicit false

namespace Sequitur

/-- A command only looks at the session. -/
def Command.looks : Command → Bool
  | .focus _ => false
  | .focusRoot => false
  | .apply _ _ _ => false
  | .delete _ => false
  | _ => true

namespace Command

variable {words args : List String} {name : String} {command : Command}

/-- What is read as a rating is one. -/
theorem exists_rate (h : (feedback args).map (some ∘ rate) = .ok (some command)) :
    ∃ rating, command = .rate rating := by
  cases hrating : feedback args with
  | error e => simp [hrating, Except.map] at h
  | ok rating =>
    rw [hrating] at h
    cases h
    exact ⟨rating, rfl⟩

/-- Only a line that begins so is read as an application. -/
theorem eq_of_ofWords?_apply {reference ruleName : String} {texts : List String}
    (h : ofWords? words = .ok (some (.apply reference ruleName texts))) :
    words = "apply" :: reference :: ruleName :: texts := by
  rw [ofWords?.eq_def] at h
  split at h
  · cases h
  · split at h
    case h_21 =>
      obtain ⟨rating, hrating⟩ := exists_rate h
      cases hrating
    all_goals cases h
    rfl

/-- Any other line than one of the four that change the session only looks. -/
theorem looks_of_ofWords? (h : ofWords? (name :: args) = .ok (some command))
    (hname : name ∉ ["focus", "root", "apply", "delete"]) : command.looks = true := by
  rw [ofWords?.eq_def] at h
  dsimp only at h
  split at h
  case h_21 =>
    obtain ⟨rating, rfl⟩ := exists_rate h
    rfl
  all_goals first
    | exact absurd (by decide) hname
    | (cases h; rfl)
    | cases h

end Command

namespace Console

open Sequitur.Action (Still Sure Atomic Asks)

variable {α : Type} {s s' : Session} {log : Session.Log} {result : Except CommandError α}

/-- What a command does runs from a session to a result and a session, with some questions and their
answers. -/
abbrev Runs (x : ConsoleM α) (s : Session) (log : Session.Log) (result : Except CommandError α)
    (s' : Session) : Prop :=
  Action.Runs x s log result s'

/-! ## Looking and printing -/

theorem still_inSession {x : SessionM α} (hx : Session.Calm x) : Still (inSession x) :=
  Still.adapt (fun s log result s' h ↦ (hx s log result s' h).1) _

/-- A question that only prints. -/
def IsPrint (q : Question) : Prop :=
  ∃ text, q = .print text

/-- What a command does is nothing but printing: it never fails and leaves the session as it is. -/
structure Prints (x : ConsoleM α) : Prop where
  still : Still x
  sure : Sure x
  asks : Asks IsPrint x

namespace Prints

theorem pure (a : α) : Prints (Pure.pure a) where
  still := .pure a
  sure := .pure a
  asks := .pure a

theorem get : Prints MonadState.get where
  still := .get
  sure := .get
  asks := .get

theorem bind {β : Type} {x : ConsoleM α} {f : α → ConsoleM β} (hx : Prints x)
    (hf : ∀ a, Prints (f a)) : Prints (x >>= f) where
  still := .bind hx.still fun a ↦ (hf a).still
  sure := .bind hx.sure fun a ↦ (hf a).sure
  asks := .bind hx.asks fun a ↦ (hf a).asks

end Prints

theorem prints_print (text : String) : Prints (print text) where
  still := (Still.say _).adapt _
  sure := (Sure.say _).adapt _
  asks := (Asks.say ⟨text, rfl⟩).adapt _

theorem prints_printLines (lines : List String) : Prints (printLines lines) := by
  induction lines with
  | nil => exact .pure _
  | cons line lines ih => exact .bind (prints_print _) fun _ ↦ ih

theorem prints_printOutline (node : NodeId) : Prints (printOutline node) :=
  .bind .get fun _ ↦ prints_print _

theorem still_resolve (reference : String) : Still (inSession (Session.resolve reference)) :=
  still_inSession (Session.calm_resolve reference)

theorem still_nodeOrFocus (reference : Option String) : Still (nodeOrFocus reference) := by
  cases reference with
  | none => exact .bind .get fun _ ↦ .pure _
  | some reference => exact still_resolve reference

theorem still_ruleOfName (name : String) : Still (ruleOfName name) := by
  rw [ruleOfName]
  split
  · exact .pure _
  · exact .throw _

theorem still_rate (feedback : Feedback) : Still (inSession (Session.rate feedback)) :=
  Still.adapt (fun _ _ _ _ h ↦ (Session.runs_rate h).1) _

/-- **Commands that only look leave the session as it is**, whether they fail or not. -/
theorem still_perform {command : Command} (h : command.looks) : Still (perform command) := by
  cases command with
  | help => exact .bind (prints_printLines _).still fun _ ↦ .pure _
  | leave => exact .pure _
  | outline reference =>
    refine .bind (still_nodeOrFocus reference) fun node ↦ ?_
    exact .bind (prints_printOutline node).still fun _ ↦ .pure _
  | goals => exact .bind .get fun _ ↦ .bind (prints_printLines _).still fun _ ↦ .pure _
  | rules => exact .bind .get fun _ ↦ .bind (prints_printLines _).still fun _ ↦ .pure _
  | slots reference ruleName =>
    refine .bind (still_resolve reference) fun node ↦ ?_
    refine .bind (still_ruleOfName ruleName) fun rule ↦ ?_
    refine .bind (still_inSession (Session.calm_candidates node rule)) fun candidates ↦ ?_
    exact .bind (prints_print _).still fun _ ↦ .pure _
  | check reference =>
    refine .bind (still_nodeOrFocus reference) fun node ↦ ?_
    refine .bind (still_inSession (Session.calm_check node)) fun provable ↦ ?_
    exact .bind (prints_print _).still fun _ ↦ .pure _
  | hint reference =>
    refine .bind (still_nodeOrFocus reference) fun node ↦ ?_
    refine .bind (still_inSession (Session.calm_hint node)) fun hints ↦ ?_
    exact .bind (prints_printLines _).still fun _ ↦ .pure _
  | typeset path =>
    cases path with
    | none =>
      refine .bind (still_inSession Session.calm_typeset) fun text ↦ ?_
      exact .bind (prints_print _).still fun _ ↦ .pure _
    | some path =>
      refine .bind (still_inSession Session.calm_typeset) fun text ↦ ?_
      refine .bind ((Still.say _).adapt _) fun answer ↦ ?_
      split
      · exact .bind (prints_print _).still fun _ ↦ .pure _
      · exact .throw _
  | rate feedback =>
    refine .bind (still_rate feedback) fun _ ↦ ?_
    exact .bind (prints_print _).still fun _ ↦ .pure _
  | focus _ | focusRoot | apply _ _ _ | delete _ => cases h

/-! ## Changes in one step -/

theorem atomic_focus (node : NodeId) : Atomic (Session.focus node) := by
  refine .after_still .get fun s ↦ .after_still ?_ fun tree ↦ ?_
  · exact fun _ _ _ _ h ↦ (Session.runs_require_iff.1 h).2.2
  · exact (Sure.modify _).atomic

theorem atomic_delete (node : NodeId) : Atomic (Session.delete node) := by
  refine .after_still .get fun s ↦ .after_still ?_ fun found ↦ ?_
  · exact fun _ _ _ _ h ↦ (Session.runs_require_iff.1 h).2.2
  · exact (Sure.bind (Sure.modify _) fun _ ↦ .pure _).atomic

/-- A command other than an application fails without a trace. -/
theorem atomic_perform {command : Command}
    (h : ∀ reference ruleName texts, command ≠ .apply reference ruleName texts) :
    Atomic (perform command) := by
  cases command with
  | focus reference =>
    refine .after_still (still_resolve reference) fun node ↦ ?_
    refine .before_sure ((atomic_focus node).adapt _) fun _ ↦ ?_
    exact .bind (prints_printOutline node).sure fun _ ↦ .pure _
  | focusRoot =>
    refine .before_sure (Sure.atomic ?_) fun _ ↦ ?_
    · exact (Sure.bind .get fun _ ↦ Sure.modify _).adapt _
    · exact .bind .get fun _ ↦ .bind (prints_printOutline _).sure fun _ ↦ .pure _
  | delete reference =>
    refine .after_still (still_resolve reference) fun node ↦ ?_
    refine .before_sure ((atomic_delete node).adapt _) fun removed ↦ ?_
    exact .bind (prints_print _).sure fun _ ↦ .pure _
  | apply reference ruleName texts => exact absurd rfl (h reference ruleName texts)
  | help | leave | outline _ | goals | rules | slots _ _ | check _ | hint _ | typeset _ | rate _ =>
    exact (still_perform rfl).atomic

/-! ## Applications -/

/-- A reference means a node, or there is no such node. -/
theorem runs_resolve {reference : String} {result : Except CommandError NodeId}
    (h : Runs (inSession (Session.resolve reference)) s log result s') :
    log = [] ∧ s' = s ∧
      ((∃ node, Session.Runs (Session.resolve reference) s [] (.ok node) s ∧ result = .ok node) ∨
        result = .error (.session (.noSuchNode reference))) := by
  obtain ⟨r, hr, rfl⟩ := Action.runs_adapt_iff.1 h
  obtain ⟨rfl, rfl, ⟨node, rfl⟩ | rfl⟩ := Session.runs_resolve hr
  · exact ⟨rfl, rfl, .inl ⟨node, hr, rfl⟩⟩
  · exact ⟨rfl, rfl, .inr rfl⟩

/-- A rule is known by its name, or there is no such rule. -/
theorem runs_ruleOfName {name : String} {result : Except CommandError Rule}
    (h : Runs (ruleOfName name) s log result s') :
    log = [] ∧ s' = s ∧ ((∃ rule, Rule.ofName? name = some rule ∧ result = .ok rule) ∨
      result = .error (.unknownRuleName name)) := by
  rw [ruleOfName] at h
  split at h
  · next rule hrule =>
    obtain ⟨rfl, rfl, rfl⟩ := Action.runs_pure_iff.1 h
    exact ⟨rfl, rfl, .inl ⟨rule, hrule, rfl⟩⟩
  · obtain ⟨rfl, rfl, rfl⟩ := Action.runs_throw_iff.1 h
    exact ⟨rfl, rfl, .inr rfl⟩

/-- What follows an application that has failed: what is missing is printed, and the error stays the
same. -/
def reportFailure : CommandError → ConsoleM (Option Completion)
  | .session (.missingBindings candidates) => do
    print candidates.text
    throw (.session (.missingBindings candidates))
  | e => throw e

theorem runs_reportFailure {caught : CommandError}
    {result : Except CommandError (Option Completion)}
    (h : Runs (reportFailure caught) s log result s') : s' = s ∧ result = .error caught := by
  rw [reportFailure.eq_def] at h
  split at h
  · rcases Action.runs_bind_iff.1 h with ⟨_, -, hprint⟩ | ⟨_, _, _, _, -, hprint, hthrow⟩
    · exact absurd hprint ((prints_print _).sure _ _ _ _)
    · obtain ⟨-, rfl, rfl⟩ := Action.runs_throw_iff.1 hthrow
      exact ⟨(prints_print _).still _ _ _ _ hprint, rfl⟩
  · obtain ⟨-, rfl, rfl⟩ := Action.runs_throw_iff.1 h
    exact ⟨rfl, rfl⟩

theorem asks_reportFailure (caught : CommandError) : Asks IsPrint (reportFailure caught) := by
  rw [reportFailure.eq_def]
  split
  · exact .bind (prints_print _).asks fun _ ↦ .throw _
  · exact .throw _

/-- What follows an application that has gone through: the subtree in view is printed, and whether
the proof is complete. -/
def reportSuccess (completion : Option Completion) : ConsoleM Unit := do
  printOutline (← get).tree.focus
  if let some completion := completion then
    printLine "Proof complete!"
    if completion.askFeedback then
      printLine "Rate this exercise with `feedback like|dislike [difficulty 1-10]`."

theorem runs_reportSuccess {completion : Option Completion} {result : Except CommandError Unit}
    (h : Runs (reportSuccess completion) s log result s') :
    s' = s ∧ result = .ok () ∧ ∀ e ∈ log, IsPrint e.1 := by
  have hprints : Prints (reportSuccess completion) := by
    refine .bind .get fun s ↦ .bind (prints_printOutline _) fun _ ↦ ?_
    split
    · refine .bind (prints_print _) fun _ ↦ ?_
      split
      · exact prints_print _
      · exact .pure _
    · exact .pure _
  refine ⟨hprints.still s log result s' h, ?_, hprints.asks s log result s' h⟩
  cases result with
  | error e => exact absurd h (hprints.sure s log e s')
  | ok done => rfl

/-- **The stages of an application on the console.**  The node or the rule is not found, or the
application is made in the session; it then fails as it does there, and nothing follows but
printing. -/
theorem runs_apply_cases {reference ruleName : String} {texts : List String}
    {result : Except CommandError Unit}
    (h : Runs (apply reference ruleName texts) s log result s') :
    (s' = s ∧ log = [] ∧ (result = .error (.session (.noSuchNode reference)) ∨
      result = .error (.unknownRuleName ruleName))) ∨
      ∃ node rule r before after, Session.Runs (Session.resolve reference) s [] (.ok node) s ∧
        Rule.ofName? ruleName = some rule ∧ log = before ++ after ∧
        Session.Runs (Session.apply node rule texts) s before r s' ∧
        (∀ e ∈ after, IsPrint e.1) ∧ result = (r.map fun _ ↦ ()).mapError .session := by
  have hrun : Runs (do
      let node ← inSession (Session.resolve reference)
      let rule ← ruleOfName ruleName
      let completion ← tryCatch (inSession (Session.apply node rule texts)) reportFailure
      reportSuccess completion) s log result s' := h
  rcases Action.runs_bind_iff.1 hrun with ⟨e, rfl, hfail⟩ | ⟨_, rest, node, _, rfl, hnode, hafter⟩
  · obtain ⟨rfl, rfl, ⟨node, -, hfail⟩ | hfail⟩ := runs_resolve hfail <;> cases hfail
    exact .inl ⟨rfl, rfl, .inl rfl⟩
  obtain ⟨rfl, rfl, ⟨_, hnode, hfound⟩ | hfound⟩ := runs_resolve hnode <;> cases hfound
  rcases Action.runs_bind_iff.1 hafter with ⟨e, rfl, hfail⟩ | ⟨_, rest, rule, _, rfl, hrule, hrest⟩
  · obtain ⟨rfl, rfl, ⟨rule, -, hfail⟩ | hfail⟩ := runs_ruleOfName hfail <;> cases hfail
    exact .inl ⟨rfl, rfl, .inr rfl⟩
  obtain ⟨rfl, rfl, ⟨_, hrule, hfound⟩ | hfound⟩ := runs_ruleOfName hrule <;> cases hfound
  refine .inr ⟨node, rule, ?_⟩
  rcases Action.runs_bind_iff.1 hrest with
    ⟨e, rfl, hfail⟩ | ⟨before, after, completion, middle, rfl, hdone, hend⟩
  · rcases Action.runs_tryCatch_iff.1 hfail with ⟨completion, he, -⟩ |
      ⟨before, after, caught, _, rfl, hcaught, hreport⟩
    · cases he
    have hprints := asks_reportFailure caught _ _ _ _ hreport
    obtain ⟨rfl, hsame⟩ := runs_reportFailure hreport
    cases hsame
    obtain ⟨r, hr, hwrapped⟩ := Action.runs_adapt_iff.1 hcaught
    cases r with
    | ok completion => cases hwrapped
    | error e' =>
      cases hwrapped
      exact ⟨.error e', before, after, hnode, hrule, rfl, hr, hprints, rfl⟩
  · rcases Action.runs_tryCatch_iff.1 hdone with ⟨_, he, happly⟩ | ⟨_, _, caught, _, -, -, hreport⟩
    · cases he
      obtain ⟨r, hr, hwrapped⟩ := Action.runs_adapt_iff.1 happly
      obtain ⟨rfl, rfl, hprints⟩ := runs_reportSuccess hend
      cases r with
      | error e => cases hwrapped
      | ok completion => exact ⟨.ok completion, before, after, hnode, hrule, rfl, hr, hprints, rfl⟩
    · cases (runs_reportFailure hreport).2

/-- **An application on the console that fails leaves no trace, unless the store fails at the
end.** -/
theorem runs_apply_error {reference ruleName : String} {texts : List String} {e : CommandError}
    (h : Runs (apply reference ruleName texts) s log (.error e) s') :
    (s' = s ∧ ∀ fault, e ≠ .session (.store fault)) ∨
      ∃ node rule fault, Session.Runs (Session.resolve reference) s [] (.ok node) s ∧
        Rule.ofName? ruleName = some rule ∧ e = .session (.store fault) ∧
        Session.Unrecorded s node rule log fault s' := by
  rcases runs_apply_cases h with ⟨rfl, -, he | he⟩ |
    ⟨node, rule, r, before, after, hnode, hrule, rfl, happly, -, he⟩
  · cases he
    exact .inl ⟨rfl, by simp⟩
  · cases he
    exact .inl ⟨rfl, by simp⟩
  cases r with
  | ok completion => cases he
  | error e =>
    cases he
    rcases Session.runs_apply_error happly with ⟨rfl, hother⟩ | ⟨fault, rfl, hrecord⟩
    · exact .inl ⟨rfl, by simpa using hother⟩
    · exact .inr ⟨node, rule, fault, hnode, hrule, rfl, hrecord.append [] after⟩

/-! ## Lines -/

/-- The first words of the lines that only look. -/
def lookingWords : List String :=
  ["help", "?", "show", "tree", "goals", "rules", "slots", "check", "hint", "export", "feedback",
    "exit", "quit"]

/-- A line is an application that fails because of the store. -/
def FailsInStore (words : List String) (e : CommandError) : Prop :=
  ∃ reference ruleName texts fault,
    words = "apply" :: reference :: ruleName :: texts ∧ e = .session (.store fault)

/-- A line that only looks is none of the four that change the session. -/
theorem notMem_of_mem_lookingWords :
    ∀ name ∈ lookingWords, name ∉ ["focus", "root", "apply", "delete"] := by
  decide

/-- Nothing but the application itself can fail in it. -/
theorem runs_perform_apply {reference ruleName : String} {texts : List String} {e : CommandError}
    (h : Runs (perform (.apply reference ruleName texts)) s log (.error e) s') :
    Runs (apply reference ruleName texts) s log (.error e) s' := by
  rcases Action.runs_bind_iff.1 h with ⟨e, he, hfail⟩ | ⟨_, _, _, _, _, -, hend⟩
  · cases he
    exact hfail
  · cases (Action.runs_pure_iff.1 hend).2.1

/-- **A command that fails leaves the session as it was**, unless it is an application and the store
has failed. -/
theorem runs_perform_error {command : Command} {e : CommandError}
    (h : Runs (perform command) s log (.error e) s') :
    s' = s ∨ ∃ reference ruleName texts fault,
      command = .apply reference ruleName texts ∧ e = .session (.store fault) := by
  by_cases hother : ∀ reference ruleName texts, command ≠ .apply reference ruleName texts
  · exact .inl (atomic_perform hother s log e s' h)
  obtain ⟨reference, ruleName, texts, rfl⟩ : ∃ reference ruleName texts,
      command = .apply reference ruleName texts := by simpa using hother
  rcases runs_apply_error (runs_perform_apply h) with ⟨rfl, -⟩ | ⟨_, _, fault, -, -, rfl, -⟩
  · exact .inl rfl
  · exact .inr ⟨reference, ruleName, texts, fault, rfl, rfl⟩

/-- Nothing happens on a line that is refused or has no words; any other is one command. -/
theorem runs_obey_cases {words : List String} {result : Except CommandError Sequel}
    (h : Runs (obey words) s log result s') :
    (s' = s ∧ ∀ reference ruleName texts, words ≠ "apply" :: reference :: ruleName :: texts) ∨
      ∃ command, Command.ofWords? words = .ok (some command) ∧
        Runs (perform command) s log result s' := by
  rw [obey] at h
  cases hwords : Command.ofWords? words with
  | error e =>
    rw [hwords] at h
    obtain ⟨-, -, rfl⟩ := Action.runs_throw_iff.1 h
    refine .inl ⟨rfl, ?_⟩
    rintro reference ruleName texts rfl
    cases hwords
  | ok command =>
    rw [hwords] at h
    cases command with
    | none =>
      obtain ⟨-, -, rfl⟩ := Action.runs_pure_iff.1 h
      refine .inl ⟨rfl, ?_⟩
      rintro reference ruleName texts rfl
      cases hwords
    | some command => exact .inr ⟨command, rfl, h⟩

/-- **A line that fails leaves the session as it was, with one exception.**  The exception is an
application that fails because of the store: then the application is in the tree with the premises
that the backend answered, the root is complete, and the store has failed to record that.  The lines
that only look leave the session as it is whatever their outcome. -/
theorem obey_atomic {words : List String} {result : Except CommandError Sequel}
    (h : Runs (obey words) s log result s') :
    (∀ e, result = .error e → ¬ FailsInStore words e → s' = s) ∧
    (∀ reference ruleName texts fault, words = "apply" :: reference :: ruleName :: texts →
      result = .error (.session (.store fault)) → ∃ node rule,
        Session.Runs (Session.resolve reference) s [] (.ok node) s ∧
        Rule.ofName? ruleName = some rule ∧ Session.Unrecorded s node rule log fault s') ∧
    ∀ name args, words = name :: args → name ∈ lookingWords → s' = s := by
  rcases runs_obey_cases h with ⟨rfl, hother⟩ | ⟨command, hwords, hrun⟩
  · exact ⟨fun _ _ _ ↦ rfl, fun _ _ _ _ hwords ↦ absurd hwords (hother _ _ _), fun _ _ _ _ ↦ rfl⟩
  refine ⟨?_, ?_, ?_⟩
  · rintro e rfl hnot
    rcases runs_perform_error hrun with hsame | ⟨reference, ruleName, texts, fault, rfl, rfl⟩
    · exact hsame
    · have hline := Command.eq_of_ofWords?_apply hwords
      exact absurd ⟨reference, ruleName, texts, fault, hline, rfl⟩ hnot
  · rintro reference ruleName texts fault rfl rfl
    cases hwords
    rcases runs_apply_error (runs_perform_apply hrun) with
      ⟨-, hother⟩ | ⟨node, rule, fault', hnode, hrule, he, hrecord⟩
    · exact absurd rfl (hother fault)
    · cases he
      exact ⟨node, rule, hnode, hrule, hrecord⟩
  · rintro name args rfl hname
    exact still_perform (Command.looks_of_ofWords? hwords
      (notMem_of_mem_lookingWords name hname)) s log result s' hrun

/-- The axiom is applied to the root and the backend agrees, but there is no directory to record the
completion in. -/
def unrecordedLog : Session.Log :=
  Session.verumLog.take 2 ++ [⟨.store (.addCompleted (.ofNat 1)), .error .noDirectory⟩]

theorem obey_atomic_unrecorded :
    let words := ["apply", "root", "Ax"]
    let e : CommandError := .session (.store .noDirectory)
    Runs (obey words) Session.verumSession unrecordedLog (.error e) Session.verumProved ∧
      (∃ node rule, Rule.ofName? "Ax" = some rule ∧
        Session.Unrecorded Session.verumSession node rule unrecordedLog .noDirectory
          Session.verumProved) ∧
      "goals" ∈ lookingWords ∧
      Runs (obey ["goals", "now"]) Session.verumProved [] (.ok .stay) Session.verumProved := by
  intro words e
  have hname : Rule.ofName? "Ax" = some .axiomatic :=
    List.find?_cons_of_pos (by simp [Rule.name])
  have hrun : Runs (obey words) Session.verumSession unrecordedLog (.error e)
      Session.verumProved := by
    show Runs (perform (.apply "root" "Ax" [])) _ _ _ _
    simp only [perform, apply, ruleOfName, hname]
    exact Dialogue.Runs.ask (.ask (.ask (.done _)))
  obtain ⟨-, hunrecorded, -⟩ := obey_atomic hrun
  obtain ⟨node, rule, -, hrule, hrecord⟩ := hunrecorded _ _ _ _ rfl rfl
  exact ⟨hrun, ⟨node, rule, hrule, hrecord⟩, by decide, .done _⟩

end Console

end Sequitur
