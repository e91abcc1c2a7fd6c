import Sequitur.Proofs.Console.Failure
import Sequitur.Proofs.Session.Answer

/-!
# Applications on the console

Of all commands only `apply` puts an application to the backend (`asks_perform`), and what becomes
of the line is decided by the answer: `runs_obey_answer`.
-/

set_option autoImplicit false

namespace Sequitur

open Sequitur.Action (Asks)

/-- A question that is no application. -/
def Question.IsOther (q : Question) : Prop :=
  ∀ a, q ≠ .apply a

/-! ## What is asked for by other commands -/

namespace Session

variable {α : Type} {kind : Question → Prop}

theorem asks_require {ε : Type} (wrap : ε → SessionError) (given : Except ε α) :
    Asks kind (require wrap given) :=
  .of_silent fun _ _ _ _ h ↦ (runs_require_iff.1 h).1

theorem asks_resolve (reference : String) : Asks kind (resolve reference) :=
  .of_silent fun _ _ _ _ h ↦ (runs_resolve h).1

theorem asks_schemaOf (rule : Rule) : Asks kind (schemaOf rule) := by
  refine .bind .get fun s ↦ ?_
  split
  · exact .pure _
  · exact .throw _

theorem asks_sequentAt (node : NodeId) : Asks kind (sequentAt node) := by
  refine .bind .get fun s ↦ ?_
  split
  · exact .pure _
  · exact .throw _

theorem asks_delete (node : NodeId) : Asks kind (delete node) :=
  .of_silent fun _ _ _ _ h ↦ (runs_delete h).1

theorem asks_focus (node : NodeId) : Asks kind (focus node) :=
  .of_silent fun _ _ _ _ h ↦ (runs_focus h).1

theorem asks_focusRoot : Asks kind focusRoot :=
  .of_silent fun _ _ _ _ h ↦ (runs_focusRoot h).1

theorem asks_check (node : NodeId) : Asks Question.IsOther (check node) := by
  refine .bind (asks_sequentAt node) fun sequent ↦ ?_
  exact .bind (.say (by simp [Question.IsOther])) fun _ ↦ asks_require _ _

theorem asks_hint (node : NodeId) : Asks Question.IsOther (hint node) := by
  refine .bind (asks_sequentAt node) fun sequent ↦ ?_
  exact .bind (.say (by simp [Question.IsOther])) fun _ ↦ asks_require _ _

theorem asks_rate (feedback : Feedback) : Asks Question.IsOther (rate feedback) := by
  refine .bind .get fun s ↦ .bind (.say (by simp [Question.IsOther])) fun _ ↦ ?_
  refine .bind (asks_require _ _) fun _ ↦ ?_
  exact .bind (.say (by simp [Question.IsOther])) fun _ ↦ asks_require _ _

end Session

namespace Console

variable {α : Type} {s s' : Session} {log : Session.Log} {result : Except CommandError Sequel}

theorem Prints.asks_isOther {x : ConsoleM α} (hx : Prints x) : Asks Question.IsOther x := by
  intro s log result s' h e he a
  obtain ⟨text, hprint⟩ := hx.asks s log result s' h e he
  simp [hprint]

theorem asks_nodeOrFocus (reference : Option String) :
    Asks Question.IsOther (nodeOrFocus reference) := by
  cases reference with
  | none => exact .bind .get fun _ ↦ .pure _
  | some reference => exact (Session.asks_resolve reference).adapt _

theorem asks_ruleOfName (name : String) : Asks Question.IsOther (ruleOfName name) := by
  rw [ruleOfName]
  split
  · exact .pure _
  · exact .throw _

/-- **Only the command to apply puts an application to the backend.** -/
theorem asks_perform {command : Command}
    (h : ∀ reference ruleName texts, command ≠ .apply reference ruleName texts) :
    Asks Question.IsOther (perform command) := by
  have hprint := fun text ↦ (prints_print text).asks_isOther
  have hlines := fun lines ↦ (prints_printLines lines).asks_isOther
  have houtline := fun node ↦ (prints_printOutline node).asks_isOther
  cases command with
  | help => exact .bind (hlines _) fun _ ↦ .pure _
  | leave => exact .pure _
  | outline reference =>
    exact .bind (asks_nodeOrFocus reference) fun node ↦ .bind (houtline node) fun _ ↦ .pure _
  | goals => exact .bind .get fun _ ↦ .bind (hlines _) fun _ ↦ .pure _
  | rules => exact .bind .get fun _ ↦ .bind (hlines _) fun _ ↦ .pure _
  | focus reference =>
    refine .bind ((Session.asks_resolve reference).adapt _) fun node ↦ ?_
    refine .bind ((Session.asks_focus node).adapt _) fun _ ↦ ?_
    exact .bind (houtline node) fun _ ↦ .pure _
  | focusRoot =>
    refine .bind (Session.asks_focusRoot.adapt _) fun _ ↦ .bind .get fun _ ↦ ?_
    exact .bind (houtline _) fun _ ↦ .pure _
  | apply reference ruleName texts => exact absurd rfl (h reference ruleName texts)
  | slots reference ruleName =>
    refine .bind ((Session.asks_resolve reference).adapt _) fun node ↦ ?_
    refine .bind (asks_ruleOfName ruleName) fun rule ↦ ?_
    refine .bind (Asks.adapt ?_ _) fun candidates ↦ .bind (hprint _) fun _ ↦ .pure _
    exact .bind (Session.asks_schemaOf rule) fun _ ↦
      .bind (Session.asks_sequentAt node) fun _ ↦ .pure _
  | delete reference =>
    refine .bind ((Session.asks_resolve reference).adapt _) fun node ↦ ?_
    refine .bind ((Session.asks_delete node).adapt _) fun removed ↦ ?_
    exact .bind (hprint _) fun _ ↦ .pure _
  | check reference =>
    refine .bind (asks_nodeOrFocus reference) fun node ↦ ?_
    refine .bind ((Session.asks_check node).adapt _) fun provable ↦ ?_
    exact .bind (hprint _) fun _ ↦ .pure _
  | hint reference =>
    refine .bind (asks_nodeOrFocus reference) fun node ↦ ?_
    refine .bind ((Session.asks_hint node).adapt _) fun hints ↦ ?_
    exact .bind (hlines _) fun _ ↦ .pure _
  | typeset path =>
    have htypeset : Asks Question.IsOther Session.typeset :=
      .bind .get fun _ ↦ Session.asks_require _ _
    cases path with
    | none => exact .bind (htypeset.adapt _) fun text ↦ .bind (hprint _) fun _ ↦ .pure _
    | some path =>
      refine .bind (htypeset.adapt _) fun text ↦ ?_
      refine .bind ((Asks.say (by simp [Question.IsOther])).adapt _) fun answer ↦ ?_
      split
      · exact .bind (hprint _) fun _ ↦ .pure _
      · exact .throw _
  | rate feedback =>
    exact .bind ((Session.asks_rate feedback).adapt _) fun _ ↦ .bind (hprint _) fun _ ↦ .pure _

/-- On a line of another form nothing is applied. -/
theorem asks_obey {words : List String}
    (h : ∀ reference ruleName texts, words ≠ "apply" :: reference :: ruleName :: texts) :
    Asks Question.IsOther (obey words) := by
  rw [obey]
  split
  · exact .throw _
  · exact .pure _
  · next command hwords =>
    refine asks_perform fun reference ruleName texts hcommand ↦ ?_
    exact h reference ruleName texts (Command.eq_of_ofWords?_apply (hcommand ▸ hwords))

/-! ## What becomes of an application -/

/-- The session goes on after an application, which has failed if the command has. -/
theorem runs_perform_apply_cases {reference ruleName : String} {texts : List String}
    (h : Runs (perform (.apply reference ruleName texts)) s log result s') :
    ∃ done, Runs (apply reference ruleName texts) s log done s' ∧
      result = done.map fun _ ↦ .stay := by
  rcases Action.runs_bind_iff.1 h with ⟨e, rfl, hfail⟩ | ⟨_, _, _, _, rfl, hdone, hend⟩
  · exact ⟨.error e, hfail, rfl⟩
  · obtain ⟨rfl, rfl, rfl⟩ := Action.runs_pure_iff.1 hend
    rw [List.append_nil]
    exact ⟨_, hdone, rfl⟩

/-- **The answer to an application decides what becomes of the line**, which is an application to a
node that is found by a rule that is known. -/
theorem runs_obey_answer {words : List String} {a : Application}
    {answer : Except ApplyError (List Sequent)} (h : Runs (obey words) s log result s')
    (hanswer : ⟨.apply a, answer⟩ ∈ log) :
    ∃ reference ruleName texts node rule r,
      words = "apply" :: reference :: ruleName :: texts ∧
      Session.Runs (Session.resolve reference) s [] (.ok node) s ∧
      Rule.ofName? ruleName = some rule ∧ s.Settled log node rule answer r s' ∧
      ∀ e, r = .error e → result = .error (.session e) := by
  by_cases hother : ∀ reference ruleName texts, words ≠ "apply" :: reference :: ruleName :: texts
  · exact absurd rfl (asks_obey hother s log result s' h _ hanswer a)
  obtain ⟨reference, ruleName, texts, rfl⟩ : ∃ reference ruleName texts,
      words = "apply" :: reference :: ruleName :: texts := by simpa using hother
  obtain ⟨done, hdone, rfl⟩ := runs_perform_apply_cases h
  rcases runs_apply_cases hdone with ⟨-, rfl, -⟩ |
    ⟨node, rule, r, before, after, hnode, hrule, rfl, happly, hprints, rfl⟩
  · cases hanswer
  have hbefore : ⟨.apply a, answer⟩ ∈ before := by
    refine (List.mem_append.1 hanswer).resolve_right fun hafter ↦ ?_
    obtain ⟨text, hprint⟩ := hprints _ hafter
    cases hprint
  refine ⟨reference, ruleName, texts, node, rule, r, rfl, hnode, hrule,
    (Session.runs_apply_answer happly hbefore).append after, ?_⟩
  rintro e rfl
  rfl

end Console

end Sequitur
