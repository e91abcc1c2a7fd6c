import Sequitur.Store.Directory
import Sequitur.Store.Progress

/-!
# Operations of the store

The store keeps progress in `data.json` and the last completed proof in `nodes.json` and
`rootId.json`.  An operation reads what it needs, answers, and writes only when something has
changed; a `data.json` that is missing or does not decode stands for empty progress.

An operation is a value, so that whoever uses the store can hold it as a question and let somebody
else answer it; `StoreOperation.perform` answers it on a `Directory`, given what the system refuses
to write meanwhile.  No operation writes a file twice.

## What is here

* `StoreOperation`, with the type `StoreOperation.Result` of its answer.
* `StoreOperation.perform`.
* `storeDirectory` — where the store is, from the environment.
-/

set_option autoImplicit false

namespace Sequitur

/-! ## Where the store is -/

/-- The directory of the store: the one named in the environment, or `.ndtutor` in the home
directory. -/
def storeDirectory (home ndtutorHome : Option String) : Except StoreError String :=
  match ndtutorHome, home with
  | some dir, _ => .ok dir
  | none, some dir => .ok (Directory.join dir ".ndtutor")
  | none, none => .error .noDirectory

/-! ## Operations -/

/-- A question to the store. -/
inductive StoreOperation where
  | progress
  | addFavorite (id : ExerciseId)
  | removeFavorite (id : ExerciseId)
  | toggleFavorite (id : ExerciseId)
  | isFavorite (id : ExerciseId)
  | favorites
  | addFeedback (id : ExerciseId)
  | hasFeedback (id : ExerciseId)
  | addCompleted (id : ExerciseId)
  | isCompleted (id : ExerciseId)
  | completed
  | welcomeCollapsed
  | setWelcomeCollapsed (collapsed : Bool)
  | saveTree (root : NodeId) (nodes : List Node)
  | loadTree

namespace StoreOperation

/-- What an operation answers when it succeeds. -/
def Result : StoreOperation → Type
  | progress => Progress
  | addFavorite _ => Unit
  | removeFavorite _ => Unit
  | toggleFavorite _ => Bool
  | isFavorite _ => Bool
  | favorites => List ExerciseId
  | addFeedback _ => Unit
  | hasFeedback _ => Bool
  | addCompleted _ => Unit
  | isCompleted _ => Bool
  | completed => List ExerciseId
  | welcomeCollapsed => Bool
  | setWelcomeCollapsed _ => Unit
  | saveTree _ _ => Unit
  | loadTree => Option ProofTree

end StoreOperation

namespace Directory

/-! ## Progress -/

/-- The name of the file that holds progress. -/
def dataFile : String := "data.json"

/-- The name of the file that holds the root of the last completed proof. -/
def rootFile : String := "rootId.json"

/-- The name of the file that holds the nodes of the last completed proof. -/
def nodesFile : String := "nodes.json"

/-- The progress kept in a directory. -/
def progress (d : Directory) : Except StoreError Progress :=
  match d.readJson dataFile Progress.decode? with
  | .error e => .error e
  | .ok p => .ok (p.getD {})

/-- An answer read off progress. -/
def ask {α : Type} (d : Directory) (f : Progress → α) : Except StoreError α × Directory :=
  match d.progress with
  | .error e => (.error e, d)
  | .ok p => (.ok (f p), d)

/-- An answer, and progress written back if it has changed. -/
def update {α : Type} (d : Directory) (f : Progress → Option Progress × α)
    (refused : Refusals := .none) : Except StoreError α × Directory :=
  match d.progress with
  | .error e => (.error e, d)
  | .ok p =>
    match f p with
    | (none, answer) => (.ok answer, d)
    | (some changed, answer) =>
      match d.writeJson dataFile changed.toJson refused with
      | .error e => (.error e, d)
      | .ok written => (.ok answer, written)

/-! ## The last proof -/

/-- The last completed proof replaced: first the nodes, then the root. -/
def saveTree (d : Directory) (root : NodeId) (nodes : List Node) (refused : Refusals := .none) :
    Except StoreError Unit × Directory :=
  match d.writeJson nodesFile (.list Node.toJson nodes) refused with
  | .error e => (.error e, d)
  | .ok d =>
    match d.writeJson rootFile root.toJson refused with
    | .error e => (.error e, d)
    | .ok d => (.ok (), d)

/-- The last completed proof, if there is one.  Nodes that do not form a tree are an error. -/
def loadTree (d : Directory) : Except StoreError (Option ProofTree) :=
  match d.readJson rootFile Json.uuid? with
  | .error e => .error e
  | .ok none => .ok none
  | .ok (some root) =>
    match d.readJson nodesFile (Json.list? Node.decode?) with
    | .error e => .error e
    | .ok none => .ok none
    | .ok (some nodes) =>
      match ProofTree.ofSnapshot root nodes with
      | .error e => .error (.tree e)
      | .ok t => .ok (some t)

end Directory

namespace StoreOperation

/-! ## Answers -/

/-- The answer of a directory to an operation, and the directory afterwards, when the system refuses
some writes. -/
def perform (op : StoreOperation) (d : Directory) (refused : Refusals := .none) :
    Except StoreError op.Result × Directory :=
  match op with
  | progress => d.ask fun p ↦ p
  | addFavorite id => d.update (fun p ↦ (p.addFavorite? id, ())) refused
  | removeFavorite id => d.update (fun p ↦ (p.removeFavorite? id, ())) refused
  | toggleFavorite id =>
    d.update (fun p ↦ (some (p.toggleFavorite id).1, (p.toggleFavorite id).2)) refused
  | isFavorite id => d.ask fun p ↦ decide (id ∈ p.favorites)
  | favorites => d.ask Progress.favorites
  | addFeedback id => d.update (fun p ↦ (p.addFeedback? id, ())) refused
  | hasFeedback id => d.ask fun p ↦ decide (id ∈ p.feedback)
  | addCompleted id => d.update (fun p ↦ (p.addCompleted? id, ())) refused
  | isCompleted id => d.ask fun p ↦ decide (id ∈ p.completed)
  | completed => d.ask Progress.completed
  | welcomeCollapsed => d.ask Progress.welcomeCollapsed
  | setWelcomeCollapsed collapsed =>
    d.update (fun p ↦ (p.setWelcomeCollapsed? collapsed, ())) refused
  | saveTree root nodes => d.saveTree root nodes refused
  | loadTree => (d.loadTree, d)

end StoreOperation

end Sequitur
