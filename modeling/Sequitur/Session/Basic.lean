import Sequitur.Session.Candidates
import Sequitur.Session.Question
import Sequitur.Text.Blank
import Sequitur.Tree.Delete
import Sequitur.Tree.Typeset

/-!
# Proving one exercise

A session holds the proof tree of one exercise and the rules on offer.  Rules are applied by the
backend; the session collects the bindings, asks, and puts the answer into the tree.

The first application that leaves nothing open completes the proof.  The exercise is then recorded
as completed, the tree is saved, and the backend is told; a failure to save fails the application,
a failure to tell does not.  A proof that has been opened again by a deletion can be completed
again.

## What is here

* `Session`, `SessionError`, and `SessionM`, in which a session changes and asks questions.
* `Session.apply`, `Session.delete`, `Session.check`, `Session.hint`, `Session.typeset`,
  `Session.rate`, `Session.candidates`, `Session.resolve`.
-/

set_option autoImplicit false

namespace Sequitur

/-- The id of the root of every proof. -/
def defaultRoot : NodeId :=
  .ofNat 0x80375c90d9f34f0f9c609263c605d57a

/-! ## Errors -/

/-- Why something that a session was told to do failed. -/
inductive SessionError where
  | noSuchNode (reference : String)
  | unknownRule (rule : Rule)
  | missingBindings (candidates : Candidates)
  | apply (error : ApplyError)
  | binding (error : BindingError)
  | tree (error : TreeError)
  | delete (error : DeleteError)
  | backend (error : BackendError)
  | store (error : StoreError)
  deriving DecidableEq

/-- The error in words. -/
def SessionError.message : SessionError → String
  | noSuchNode reference => "no node matches `" ++ reference ++ "`"
  | unknownRule r => "rule " ++ r.name ++ " is not offered by the backend"
  | missingBindings c => c.rule.name ++ " still needs a binding for " ++ c.slotsText
  | apply e => e.message
  | binding e => e.message
  | tree e => e.message
  | delete e => "cannot delete: " ++ e.message
  | backend e => e.message
  | store e => e.message

/-! ## Sessions -/

/-- The proof of one exercise under construction, the rules on offer, and whether its completion
has been recorded. -/
structure Session where
  exercise : ExerciseId
  tree : ProofTree
  rules : List Schema
  finished : Bool := false

/-- What is reported when a proof has been completed: whether to ask for a rating. -/
structure Completion where
  askFeedback : Bool
  deriving DecidableEq

/-- Something a session does: it may fail, change the session, and ask questions. -/
abbrev SessionM : Type → Type :=
  ExceptT SessionError (StateT Session (Dialogue Question Question.Answer))

namespace Session

/-- A session that starts with nothing but the goal. -/
def new (exercise : ExerciseId) (goal : Sequent) (rules : List Schema) : Session where
  exercise := exercise
  tree := .new defaultRoot goal
  rules := rules

/-! ## Asking -/

/-- A question that always has an answer. -/
def ask (q : Question) : SessionM q.Answer :=
  ExceptT.lift (StateT.lift (Dialogue.say q))

/-- A result, or a failure of the session. -/
def require {ε α : Type} (wrap : ε → SessionError) : Except ε α → SessionM α
  | .ok a => pure a
  | .error e => throw (wrap e)

/-- An operation on the store. -/
def askStore (op : StoreOperation) : SessionM op.Result := do
  require .store (← ask (.store op))

/-! ## Looking up -/

/-- The schema of a rule: the first one on offer. -/
def schemaOf (rule : Rule) : SessionM Schema := do
  match (← get).rules.find? fun s ↦ s.rule = rule with
  | some schema => pure schema
  | none => throw (.unknownRule rule)

/-- The sequent of a node. -/
def sequentAt (node : NodeId) : SessionM Sequent := do
  match (← get).tree.find? node with
  | some n => pure n.sequent
  | none => throw (.tree (.nodeNotFound node))

/-- The node meant by `root`, by a dot (the one in focus) or by the beginning of its id. -/
def resolve (reference : String) : SessionM NodeId := do
  let tree := (← get).tree
  match reference with
  | "root" => pure tree.root
  | "." => pure tree.focus
  | beginning =>
    match tree.resolve? beginning with
    | some id => pure id
    | none => throw (.noSuchNode beginning)

/-- What a rule needs at a node, and what the sequent there offers. -/
def candidates (node : NodeId) (rule : Rule) : SessionM Candidates := do
  let schema ← schemaOf rule
  let sequent ← sequentAt node
  pure (.of (.ofSchema schema) sequent)

/-! ## Changing the tree -/

/-- The tree of the session replaced. -/
def setTree (tree : ProofTree) : SessionM Unit :=
  modify fun s ↦ { s with tree }

/-- The view moved to a node. -/
def focus (node : NodeId) : SessionM Unit := do
  setTree (← require .tree ((← get).tree.setFocus node))

/-- The view moved back to the root. -/
def focusRoot : SessionM Unit := do
  setTree (← get).tree.focusRoot

/-- The rule application that produced a node taken back, which opens the proof again. -/
def delete (node : NodeId) : SessionM (List NodeId) := do
  let (removed, tree) ← require .delete ((← get).tree.delete node)
  modify fun s ↦ { s with tree, finished := s.finished && tree.isRootComplete }
  pure removed

/-- The formula that a text is bound as: for a variable placeholder the variable of that name, for
a formula placeholder what the backend reads in the text. -/
def readBinding (rule : Rule) (text : String) : Option Placeholder → SessionM Formula
  | none => throw (.binding (.full rule))
  | some (.element _) => pure (.atom (.element (Text.trim text)))
  | some (.formula _) => do require .backend (← ask (.parse text))

/-- The placeholders bound to texts, one after the other. -/
def bindTexts (b : Bindings) : List String → SessionM Bindings
  | [] => pure b
  | text :: texts => do
    let formula ← readBinding b.rule text b.next?
    let bound ← require .binding (b.pick formula)
    bindTexts bound texts

/-- What follows an application: the first time that nothing is left open, the completion is
recorded, the tree saved and the backend told. -/
def finishIfComplete : SessionM (Option Completion) := do
  let s ← get
  if s.finished || !s.tree.isRootComplete then pure none
  else do
    set { s with finished := true }
    askStore (.addCompleted s.exercise)
    askStore (.saveTree s.tree.root s.tree.snapshot)
    if let some report := s.tree.report? then
      let _ ← ask (.report report)
    let rated ← askStore (.hasFeedback s.exercise)
    pure (some { askFeedback := !rated })

/-- A rule applied to a node, its placeholders bound to texts in order. -/
def apply (node : NodeId) (rule : Rule) (texts : List String) : SessionM (Option Completion) := do
  let schema ← schemaOf rule
  let bindings ← bindTexts (.ofSchema schema) texts
  if bindings.isComplete then do
    let pending ← require .apply ((← get).tree.prepare node bindings)
    let subgoals ← require .apply (← ask (.apply pending.application))
    let ids : Vector NodeId subgoals.length ← ask (.fresh subgoals.length)
    setTree (← require .apply ((← get).tree.commit pending (ids.toList.zip subgoals)))
    finishIfComplete
  else do
    throw (.missingBindings (.of bindings (← sequentAt node)))

/-! ## Asking the backend about the proof -/

/-- Whether the sequent of a node can still be proved. -/
def check (node : NodeId) : SessionM Bool := do
  let sequent ← sequentAt node
  require .backend (← ask (.check sequent))

/-- The next steps that the backend suggests for a node. -/
def hint (node : NodeId) : SessionM (List Hint) := do
  let sequent ← sequentAt node
  require .backend (← ask (.hint sequent))

/-- The exercise rated, which is recorded once the backend has taken the rating. -/
def rate (feedback : Feedback) : SessionM Unit := do
  let s ← get
  require .backend (← ask (.rate s.exercise feedback))
  askStore (.addFeedback s.exercise)

/-- The whole proof as a document. -/
def typeset : SessionM String := do
  let tree := (← get).tree
  require .tree (tree.typeset tree.root)

end Session

end Sequitur
