import Sequitur.Proofs.Console.Application
import Sequitur.Proofs.Program.Effect
import Sequitur.Program.Basic

/-!
# What a response does to a session

A line typed during a session becomes requests, and what the responses mean decides what happens.
For an application it is decided by its one response, in whatever session and with whatever answers
to everything else (`hear_response`): a list of premises goes into the tree; everything else leaves
the session as it was, and the line ends with an error.  That the error of a refusal is the text of
the body rests on `Response.Faithful`.
-/

set_option autoImplicit false

namespace Sequitur

namespace Program

variable {c : Connection} {line : String} {s s' : Session} {log : Effect.Log} {sequel : Sequel}

/-! ## Lines -/

/-- The last thing that is told is an error in these words. -/
def Tells (log : Effect.Log) (message : String) : Prop :=
  log.getLast? = some ⟨.complain ("error: " ++ message ++ "\n"), ()⟩

/-- **A line is heard.**  A blank line is passed over, and the words of any other are obeyed; an
error is told last. -/
theorem runs_hear_iff :
    Dialogue.Runs (hear c line s) log (sequel, s') ↔
      ((Text.trim line).isEmpty = true ∧ log = [] ∧ sequel = .stay ∧ s' = s) ∨
      ((Text.trim line).isEmpty = false ∧ ∃ asked part outcome,
        Console.Runs (Console.obey (Console.words (Text.trim line))) s asked outcome s' ∧
        Dialogue.Answered (Effect.ofQuestion c) asked part ∧
        ((outcome = .ok sequel ∧ log = part) ∨
          ∃ e, outcome = .error e ∧ sequel = .stay ∧
            log = part ++ [⟨.complain ("error: " ++ e.message ++ "\n"), ()⟩])) := by
  rw [hear]
  split
  · next hblank =>
    simp only [hblank, true_and, reduceCtorEq, false_and, or_false]
    exact Dialogue.runs_done_iff.trans (by rw [Prod.mk.injEq])
  next hspoken =>
  rw [Bool.not_eq_true] at hspoken
  simp only [hspoken, Bool.false_eq_true, false_and, false_or, true_and]
  constructor
  · intro h
    obtain ⟨part, rest, ⟨outcome, t⟩, rfl, htold, hend⟩ := Dialogue.runs_bind_iff.1 h
    obtain ⟨asked, hasked, hanswered⟩ := Dialogue.runs_interpret_iff.1 htold
    refine ⟨asked, part, outcome, ?_⟩
    cases outcome with
    | ok next =>
      obtain ⟨rfl, heq⟩ := Dialogue.runs_done_iff.1 hend
      cases heq
      exact ⟨hasked, hanswered, .inl ⟨rfl, List.append_nil _⟩⟩
    | error e =>
      obtain ⟨told, last, rfl, hlast⟩ := Dialogue.runs_ask_iff.1 hend
      obtain ⟨rfl, heq⟩ := Dialogue.runs_done_iff.1 hlast
      cases heq
      exact ⟨hasked, hanswered, .inr ⟨e, rfl, rfl, rfl⟩⟩
  · rintro ⟨asked, part, outcome, hasked, hanswered, ⟨rfl, rfl⟩ | ⟨e, rfl, rfl, rfl⟩⟩
    · refine Dialogue.runs_bind_iff.2
        ⟨log, [], (.ok sequel, s'), (List.append_nil log).symm, ?_, ?_⟩
      · exact Dialogue.runs_interpret_iff.2 ⟨asked, hasked, hanswered⟩
      · exact .done _
    · refine Dialogue.runs_bind_iff.2 ⟨part, _, (.error e, s'), rfl, ?_, ?_⟩
      · exact Dialogue.runs_interpret_iff.2 ⟨asked, hasked, hanswered⟩
      · exact .ask (.done _)

/-! ## Responses to applications -/

/-- New ids are not in use in a tree. -/
def FreshFor (t : ProofTree) (log : Effect.Log) : Prop :=
  ∀ (n : Nat) (ids : Vector NodeId n), ⟨.fresh n, ids⟩ ∈ log → t.Unused ids.toList

/-- Nothing has changed, and the last thing that is told is that the application could not be
made. -/
def Miscarried (s : Session) (log : Effect.Log) (s' : Session) : Prop :=
  s' = s ∧ ∃ reason, Tells log (ApplyError.transport reason).message

/-- The premises that a body lists. -/
def premises? (body : List Symbol) : Option (List Sequent) :=
  (Json.read? body).bind (Json.decode? (Json.list? Sequent.decode?))

/-- A response decides what an application to a node does to a session and what is told. -/
structure Decides (response : Option Response) (s : Session) (node : NodeId) (rule : Rule)
    (log : Effect.Log) (s' : Session) : Prop where
  /-- Without a response nothing changes. -/
  of_none : response = none → Miscarried s log s'
  /-- Nothing changes when there have been too many requests. -/
  of_rateLimited : ∀ r, response = some r → r.status = 429 → Miscarried s log s'
  /-- Nothing changes when the application is refused, and the text of the refusal is told, as long
  as the body is read faithfully. -/
  of_refused : ∀ r, response = some r → r.status ≠ 429 → r.isSuccess = false →
    s' = s ∧ (r.Faithful → ∀ text, r.body = Symbol.ofString text → Tells log text)
  /-- Nothing changes when the body of a success is no list of premises. -/
  of_undecodable : ∀ r, response = some r → r.isSuccess = true → premises? r.body = none →
    Miscarried s log s'
  /-- The premises of a success go into the tree. -/
  of_premises : ∀ r subgoals, response = some r → r.isSuccess = true →
    premises? r.body = some subgoals → s.tree.Extended node rule subgoals s'.tree

/-- A line that sends the request of an application is one, and what the response means settles
it. -/
theorem runs_hear_answer (hrun : Dialogue.Runs (hear c line s) log (sequel, s'))
    {a : Application} {r : Request} {response : Option Response}
    (hrequest : (Call.apply a).request c = .ok r) (hsent : ⟨.send r, response⟩ ∈ log) :
    ∃ a' reference ruleName texts node rule asked result,
      Console.words (Text.trim line) = "apply" :: reference :: ruleName :: texts ∧
      Session.Runs (Session.resolve reference) s [] (.ok node) s ∧
      Rule.ofName? ruleName = some rule ∧
      (∀ (n : Nat) (ids : Vector NodeId n), ⟨.fresh n, ids⟩ ∈ asked → ⟨.fresh n, ids⟩ ∈ log) ∧
      s.Settled asked node rule
        (((Call.apply a').read r.url response).mapError BackendError.toApplyError) result s' ∧
      ∀ e, result = .error e → Tells log e.message := by
  rcases runs_hear_iff.1 hrun with ⟨-, rfl, -⟩ | ⟨-, asked, part, outcome, hobey, hanswered, hend⟩
  · cases hsent
  have hlog : part ⊆ log ∧ ⟨.send r, response⟩ ∈ part ∧
      ∀ e, outcome = .error e → Tells log e.message := by
    rcases hend with ⟨rfl, rfl⟩ | ⟨e, rfl, -, rfl⟩
    · exact ⟨List.Subset.refl _, hsent, fun _ he ↦ by cases he⟩
    · refine ⟨List.subset_append_left _ _, ?_, fun _ he ↦ by cases he; simp [Tells]⟩
      refine (List.mem_append.1 hsent).resolve_right fun hlast ↦ ?_
      cases List.mem_singleton.1 hlast
  obtain ⟨hsubset, hmem, htells⟩ := hlog
  obtain ⟨q, answer, own, hq, hown, hsend⟩ := hanswered.exists_of_mem hmem
  obtain ⟨a', heq⟩ := Effect.eq_apply_of_send hown hsend hrequest
  rw [heq] at hq
  obtain ⟨reference, ruleName, texts, node, rule, result, hwords, hnode, hrule, hsettled, herror⟩ :=
    Console.runs_obey_answer hobey hq
  exact ⟨a', reference, ruleName, texts, node, rule, asked, result, hwords, hnode, hrule,
    fun n ids hids ↦ hsubset (Effect.mem_fresh_of_answered hanswered hids), hsettled,
    fun e he ↦ htells _ (herror e he)⟩

/-- **The response to an application decides what becomes of it.**  Whatever the session and the
line, and whatever else is asked and answered, a line that sends the request of an application is an
application to a node that is found by a rule that is known.  If the response is a success whose
body lists premises, they go into the tree as open nodes, in their order.  Otherwise the session
stays as it was and an error is told: the text of the body word for word if the status is that of a
failure other than too many requests, and a failure on the way in all other cases. -/
theorem hear_response (hrun : Dialogue.Runs (hear c line s) log (sequel, s'))
    (hnew : FreshFor s.tree log) {a : Application} {r : Request} {response : Option Response}
    (hrequest : (Call.apply a).request c = .ok r) (hsent : ⟨.send r, response⟩ ∈ log) :
    ∃ reference ruleName texts node rule,
      Console.words (Text.trim line) = "apply" :: reference :: ruleName :: texts ∧
      Session.Runs (Session.resolve reference) s [] (.ok node) s ∧
      Rule.ofName? ruleName = some rule ∧ Decides response s node rule log s' := by
  obtain ⟨a', reference, ruleName, texts, node, rule, asked, result, hwords, hnode, hrule, hfresh,
    hsettled, htells⟩ := runs_hear_answer hrun hrequest hsent
  have hfailed : ∀ e, (Call.apply a').read r.url response = .error e →
      s' = s ∧ Tells log e.toApplyError.message := by
    intro e he
    obtain ⟨hsame, hresult⟩ := hsettled.of_error e.toApplyError (by rw [he]; rfl)
    exact ⟨hsame, htells _ hresult⟩
  refine ⟨reference, ruleName, texts, node, rule, hwords, hnode, hrule, ?_⟩
  refine ⟨?_, ?_, ?_, ?_, ?_⟩
  · rintro rfl
    obtain ⟨hsame, htold⟩ := hfailed _ rfl
    exact ⟨hsame, _, htold⟩
  · rintro response rfl hlimit
    obtain ⟨hsame, htold⟩ := hfailed _ (Call.read_rateLimited hlimit)
    exact ⟨hsame, _, htold⟩
  · rintro response rfl hlimit hrefused
    obtain ⟨hsame, htold⟩ := hfailed _ (Call.read_refused hlimit hrefused)
    refine ⟨hsame, fun hfaithful text htext ↦ ?_⟩
    rw [← hfaithful text htext]
    exact htold
  · rintro response rfl hsuccess hbody
    obtain ⟨reason, hread⟩ := Call.read_undecodable (k := .apply a') hsuccess hbody
    obtain ⟨hsame, htold⟩ := hfailed _ hread
    exact ⟨hsame, _, htold⟩
  · rintro response subgoals rfl hsuccess hbody
    have hread : (Call.apply a').read r.url (some response) = .ok subgoals :=
      Call.read_decoded hsuccess hbody
    obtain ⟨ids, hids, htree⟩ := hsettled.of_ok subgoals (by rw [hread]; rfl)
    rw [htree]
    exact ProofTree.extended_grafted hsettled.isOpenAt (by simp) (hnew _ ids (hfresh _ ids hids))

/-- Premises are listed by the body that is made of them. -/
theorem premises?_pretty {subgoals : List Sequent}
    (hfits : (Json.list Sequent.toJson subgoals).depth ≤ Json.depthLimit) :
    premises? (Symbol.ofString (Json.list Sequent.toJson subgoals).pretty) = some subgoals := by
  have hlist := Sequent.faithful.list
  rw [premises?, Json.read?_pretty (hlist.sound subgoals).wellFormed]
  exact hlist.decode_eq hfits (Json.Reordered.refl _)

/-- A backend on the same machine. -/
def localConnection : Connection where
  base := { scheme := "http", authority := some { host := .name "localhost" }, path := .rooted "/" }

/-- The goal to prove `⊤`. -/
def verumGoal : Sequent where
  hypotheses := []
  goal := .verum

/-- The axiom applied to it. -/
def verumApplication : Application where
  rule := .axiomatic
  sequent := verumGoal
  formulas := []
  elements := []

/-- The session after an answer that lists the goal itself as the only premise. -/
def verumPostponed : Session :=
  { Session.verumSession with
    tree := Session.verumSession.tree.grafted defaultRoot .axiomatic [(.ofNat 7, verumGoal)] }

/-- The line to apply the axiom to the goal. -/
def axiomLine : String :=
  "apply root Ax"

theorem words_axiomLine :
    (Text.trim axiomLine).isEmpty = false ∧
      Console.words (Text.trim axiomLine) = ["apply", "root", "Ax"] := by
  decide

section Verum

variable {r : Request} {response : Response}
  (hrequest : (Call.apply verumApplication).request c = .ok r)

include hrequest

/-- The backend refuses. -/
theorem runs_hear_refused {text : String} (hlimit : response.status ≠ 429)
    (hfailed : response.isSuccess = false) (htext : response.text = text) :
    Dialogue.Runs (hear c axiomLine Session.verumSession)
      [⟨.send r, some response⟩, ⟨.complain ("error: " ++ text ++ "\n"), ()⟩]
      (.stay, Session.verumSession) := by
  have hname : Rule.ofName? "Ax" = some .axiomatic := List.find?_cons_of_pos (by simp [Rule.name])
  let answer : Except ApplyError (List Sequent) := .error (.rejected text)
  refine runs_hear_iff.2 (.inr ⟨words_axiomLine.1, [⟨.apply verumApplication, answer⟩],
    [⟨.send r, some response⟩], .error (.session (.apply (.rejected text))), ?_, ?_,
    .inr ⟨_, rfl, rfl, rfl⟩⟩)
  · rw [words_axiomLine.2]
    show Console.Runs (Console.perform (.apply "root" "Ax" [])) _ _ _ _
    simp only [Console.perform, Console.apply, Console.ruleOfName, hname]
    exact Dialogue.Runs.ask (.done _)
  · refine Dialogue.Answered.cons (Effect.runs_ofQuestion_apply hrequest ?_) .nil
    rw [Call.read_refused hlimit hfailed, htext]
    rfl

/-- The backend lists the goal itself. -/
theorem runs_hear_postponed (hsuccess : response.isSuccess = true)
    (hbody : premises? response.body = some [verumGoal]) :
    Dialogue.Runs (hear c axiomLine Session.verumSession)
      [⟨.send r, some response⟩, ⟨.fresh 1, #v[.ofNat 7]⟩,
        ⟨.print (verumPostponed.tree.outline defaultRoot), ()⟩] (.stay, verumPostponed) := by
  have hname : Rule.ofName? "Ax" = some .axiomatic := List.find?_cons_of_pos (by simp [Rule.name])
  have hread : (Call.apply verumApplication).read r.url (some response) = .ok [verumGoal] :=
    Call.read_decoded hsuccess hbody
  let answer : Except ApplyError (List Sequent) := .ok [verumGoal]
  refine runs_hear_iff.2 (.inr ⟨words_axiomLine.1, [⟨.apply verumApplication, answer⟩,
    ⟨.fresh 1, #v[.ofNat 7]⟩, ⟨.print (verumPostponed.tree.outline defaultRoot), ()⟩],
    _, .ok .stay, ?_, ?_, .inl ⟨rfl, rfl⟩⟩)
  · rw [words_axiomLine.2]
    show Console.Runs (Console.perform (.apply "root" "Ax" [])) _ _ _ _
    simp only [Console.perform, Console.apply, Console.ruleOfName, hname]
    exact Dialogue.Runs.ask (.ask (.ask (.done _)))
  · refine Dialogue.answered_cons_iff.2
      ⟨[⟨.send r, some response⟩], _, rfl, Effect.runs_ofQuestion_apply hrequest ?_, ?_⟩
    · rw [hread]
      rfl
    · exact Effect.answered_fresh_cons_iff.2
        ⟨_, rfl, Effect.answered_print_cons_iff.2 ⟨_, rfl, .nil⟩⟩

end Verum

/-- A refusal. -/
def refusal : Response where
  status := 400
  body := Symbol.ofString "no such axiom"

theorem faithful_refusal : refusal.Faithful := by
  intro text htext
  show Symbol.lossyText refusal.body = text
  rw [htext, Symbol.lossyText_ofString]

/-- An answer that lists the goal itself. -/
def restatement : Response where
  status := 200
  body := Symbol.ofString (Json.list Sequent.toJson [verumGoal]).pretty

theorem hear_response_verum :
    ∃ r, (Call.apply verumApplication).request localConnection = .ok r ∧
      (∃ log, ⟨.send r, some refusal⟩ ∈ log ∧
        Dialogue.Runs (hear localConnection axiomLine Session.verumSession) log
          (.stay, Session.verumSession) ∧
        FreshFor Session.verumSession.tree log ∧ Tells log "no such axiom") ∧
      ∃ log, ⟨.send r, some restatement⟩ ∈ log ∧
        Dialogue.Runs (hear localConnection axiomLine Session.verumSession) log
          (.stay, verumPostponed) ∧
        FreshFor Session.verumSession.tree log ∧ premises? restatement.body = some [verumGoal] ∧
        ∃ node rule, Session.verumSession.tree.Extended node rule [verumGoal]
          verumPostponed.tree := by
  obtain ⟨r, hr⟩ : ∃ r, (Call.apply verumApplication).request localConnection = .ok r :=
    Call.exists_request rfl
  have hbody : premises? restatement.body = some [verumGoal] := premises?_pretty (by decide)
  have hlimit : refusal.status ≠ 429 := by decide
  have htext : refusal.text = "no such axiom" := faithful_refusal _ rfl
  have hrefused := runs_hear_refused hr hlimit rfl htext
  have hpostponed := runs_hear_postponed hr rfl hbody
  have hsilent : FreshFor Session.verumSession.tree [⟨.send r, some refusal⟩,
      ⟨.complain ("error: " ++ "no such axiom" ++ "\n"), ()⟩] := by
    intro n ids hids
    rcases hids with _ | ⟨_, _ | ⟨_, ⟨⟩⟩⟩
  have hfresh : FreshFor Session.verumSession.tree [⟨.send r, some restatement⟩,
      ⟨.fresh 1, #v[.ofNat 7]⟩, ⟨.print (verumPostponed.tree.outline defaultRoot), ()⟩] := by
    intro n ids hids
    rcases hids with _ | ⟨_, _ | ⟨_, _ | ⟨_, ⟨⟩⟩⟩⟩
    decide
  obtain ⟨-, -, -, _, _, -, -, -, hrefusal⟩ := hear_response hrefused hsilent hr (.head _)
  obtain ⟨-, -, -, node, rule, -, -, -, hpremises⟩ := hear_response hpostponed hfresh hr (.head _)
  have htold := (hrefusal.of_refused _ rfl hlimit rfl).2 faithful_refusal _ rfl
  exact ⟨r, hr, ⟨_, .head _, hrefused, hsilent, htold⟩, _, .head _, hpostponed, hfresh, hbody, node,
    rule, hpremises.of_premises _ _ rfl rfl hbody⟩

end Program

end Sequitur
