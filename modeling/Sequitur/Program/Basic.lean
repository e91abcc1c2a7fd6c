import Sequitur.Console.Basic
import Sequitur.Program.Arguments
import Sequitur.Program.Effect
import Sequitur.Program.Error

/-!
# The program

What one run of the program does, from the words of its command line on.  Tasks that only need the
store never look at how the backend is configured.  The task of proving an exercise ends with a
session, which then hears the lines that the user types.

## What is here

* `Environment`, `Ending`.
* `Program.run` — a run up to its end or to the beginning of a session.
* `Program.hear` — a line typed during a session.
-/

set_option autoImplicit false

namespace Sequitur

/-- What the program takes from its environment. -/
structure Environment where
  home : Option String := none
  storeDir : Option String := none
  apiUrl : Option String := none
  apiTimeout : Option String := none

/-- How a run goes on: it ends with a code, or a session begins. -/
inductive Ending where
  | exit (code : Nat)
  | converse (connection : Connection) (session : Session)

/-- What a task does: it may fail, and asks the system. -/
abbrev ProgramM : Type → Type :=
  ExceptT ProgramError (Dialogue Effect Effect.Answer)

namespace Program

/-! ## Asking -/

/-- Something asked of the system. -/
def ask (e : Effect) : ProgramM e.Answer :=
  ExceptT.lift (Dialogue.say e)

/-- A result, or a failure of the program. -/
def require {ε α : Type} (wrap : ε → ProgramError) : Except ε α → ProgramM α
  | .ok a => pure a
  | .error e => throw (wrap e)

/-- An operation on the store. -/
def askStore (op : StoreOperation) : ProgramM op.Result := do
  require .store (← ask (.store op))

/-- A call to the backend, whose failure is told in a given way. -/
def callOr (wrap : BackendError → ProgramError) (c : Connection) (k : Call) :
    ProgramM k.Result := do
  require wrap (← ExceptT.lift (Effect.call c k))

/-- A call to the backend. -/
def call (c : Connection) (k : Call) : ProgramM k.Result :=
  callOr .backend c k

/-- A line printed. -/
def printLine (line : String) : ProgramM Unit :=
  ask (.print (line ++ "\n"))

/-- Lines printed one after the other. -/
def printLines : List String → ProgramM Unit
  | [] => pure ()
  | line :: lines => do
    printLine line
    printLines lines

/-! ## Store and connection -/

/-- The store opened where the command line or else the environment says. -/
def openStore (env : Environment) (dir : Option String) : ProgramM Unit := do
  let path ← match dir with
    | some path => pure path
    | none => require .store (storeDirectory env.home env.storeDir)
  require .opening (← ask (.openStore path))

/-- The connection that the environment configures, with the address of the command line. -/
def connect (env : Environment) (url : Option String) : ProgramM Connection := do
  let c ← require .connection (Connection.ofEnvironment env.apiUrl env.apiTimeout)
  match url with
  | some text => require .connection (c.withBase text)
  | none => pure c

/-! ## Tasks without the backend -/

/-- An exercise marked as a favourite, or no longer. -/
def toggleFavorite (id : ExerciseId) : ProgramM Unit := do
  let favorite : Bool ← askStore (.toggleFavorite id)
  if favorite then printLine ("favorite: " ++ toString id)
  else printLine ("removed " ++ toString id ++ " from favorites")

/-- The last completed proof as a document, printed or written to a file. -/
def typeset (path : Option String) : ProgramM Unit := do
  match ← askStore .loadTree with
  | none => throw .noProof
  | some tree => do
    let tree : ProofTree := tree
    let text ← require .tree (tree.typeset tree.root)
    match path with
    | none => printLine text
    | some path => do
      require (.writing path) (← ask (.write path text))
      printLine ("wrote " ++ path)

/-- What a new user is told. -/
def welcomeLines : List String :=
  ["Welcome to the natural-deduction tutor.",
    "",
    "Pick an exercise with `ndtutor exercises`, then start proving it with",
    "`ndtutor session <id>`. Inside a session, apply rules to open goals until",
    "every branch is closed; `hint` suggests a next step and `delete` undoes one.",
    "Finished proofs can be exported as Typst source with `export`."]

/-- The welcome text put away or brought back if that was asked for, and printed unless it has been
put away. -/
def welcome (collapsed : Option Bool) : ProgramM Unit := do
  match collapsed with
  | some collapsed => askStore (.setWelcomeCollapsed collapsed)
  | none => pure ()
  let collapsed : Bool ← askStore .welcomeCollapsed
  if collapsed then pure ()
  else printLines welcomeLines

/-! ## Tasks with the backend -/

/-- The lines of a view of the exercise list. -/
def listLines (mode : ListMode) (exercises : List Exercise) (p : Progress) : List String :=
  let line (e : Exercise) : String :=
    e.line (decide (e.id ∈ p.favorites)) (decide (e.id ∈ p.completed))
  match mode with
  | .all => exercises.map line
  | .likes => (Catalog.byLikes exercises).map line
  | .difficulty => (Catalog.byDifficulty exercises).flatMap fun group ↦
    group.1.name :: if group.2.isEmpty then ["  (none)"] else group.2.map line
  | .favorites => (Catalog.favorites exercises p.favorites).map line
  | .incomplete => (Catalog.incomplete exercises p.completed).map line

/-- The exercise list in a view, or as it was received. -/
def list (c : Connection) (mode : ListMode) (json : Bool) : ProgramM Unit := do
  let exercises : List Exercise ← call c .exercises
  if json then printLine (Json.list Exercise.toJson exercises).pretty
  else do
    let progress : Progress ← askStore .progress
    printLines (listLines mode exercises progress)

/-- An exercise: its id, whether it is a favourite and done, and its sequent. -/
def describe (c : Connection) (id : ExerciseId) : ProgramM Unit := do
  let sequent : Sequent ← call c (.exercise id)
  let favorite : Bool ← askStore (.isFavorite id)
  let completed : Bool ← askStore (.isCompleted id)
  printLine (toString id ++ (if favorite then " *" else "") ++
    (if completed then " (done)" else ""))
  printLine ("  " ++ sequent.display)

/-- A formula parsed and printed. -/
def parse (c : Connection) (text : String) : ProgramM Unit := do
  let formula : Formula ← call c (.parse text)
  printLine formula.display

/-- Hypotheses parsed one after the other. -/
def readHypotheses (c : Connection) : List String → ProgramM (List Formula)
  | [] => pure []
  | text :: texts => do
    let formula : Formula ← callOr (.hypothesis text) c (.parse text)
    return formula :: (← readHypotheses c texts)

/-- A sequent parsed: its hypotheses, then its goal. -/
def readSequent (c : Connection) (typed : TypedSequent) : ProgramM Sequent := do
  let hypotheses ← readHypotheses c typed.hypotheses
  let goal : Formula ← callOr (.goal typed.goal) c (.parse typed.goal)
  pure { hypotheses, goal }

/-- Whether a sequent can still be proved. -/
def check (c : Connection) (typed : TypedSequent) : ProgramM Unit := do
  let sequent ← readSequent c typed
  let provable : Bool ← call c (.check sequent)
  printLine ((if provable then "provable: " else "not provable: ") ++ sequent.display)

/-- The next steps that the backend suggests for a sequent. -/
def hint (c : Connection) (typed : TypedSequent) : ProgramM Unit := do
  let sequent ← readSequent c typed
  let hints : List Hint ← call c (.hint sequent)
  printLines (if hints.isEmpty then ["no hint available"] else hints.map Hint.line)

/-- An exercise submitted. -/
def create (c : Connection) (typed : TypedSequent) : ProgramM Unit := do
  let sequent ← readSequent c typed
  let accepted : Bool ← call c (.create { hypotheses := sequent.hypotheses, goal := sequent.goal })
  if accepted then printLine "exercise created"
  else throw .notAccepted

/-- The rules on offer. -/
def rules (c : Connection) : ProgramM Unit := do
  let schemas : List Schema ← call c .rules
  printLines (schemas.map Schema.line)

/-- An exercise rated, unless it has been rated before. -/
def rate (c : Connection) (id : ExerciseId) (feedback : Feedback) : ProgramM Unit := do
  let rated : Bool ← askStore (.hasFeedback id)
  if rated then throw (.alreadyRated id)
  else do
    let _ ← call c (.rate id feedback)
    askStore (.addFeedback id)
    printLine "thanks for the feedback"

/-- A session on an exercise. -/
def begin (c : Connection) (id : ExerciseId) : ProgramM Session := do
  let sequent : Sequent ← callOr (.loadingExercise id) c (.exercise id)
  let schemas : List Schema ← callOr .loadingRules c .rules
  printLine ("exercise: " ++ sequent.display)
  let session := Session.new id sequent schemas
  printLine "ndtutor proof session"
  printLine "Type `help` for commands. Type `exit` to quit.\n"
  ask (.print (session.tree.outline session.tree.focus))
  pure session

/-! ## Running -/

/-- A task carried out; the result is a session if the task is to prove. -/
def perform (env : Environment) (a : Arguments) : ProgramM (Option (Connection × Session)) := do
  openStore env a.storeDir
  match a.task with
  | .typeset path => do
    typeset path
    pure none
  | .welcome collapsed => do
    welcome collapsed
    pure none
  | .toggleFavorite id => do
    toggleFavorite id
    pure none
  | .list mode json => do
    list (← connect env a.apiUrl) mode json
    pure none
  | .describe id => do
    describe (← connect env a.apiUrl) id
    pure none
  | .parse text => do
    parse (← connect env a.apiUrl) text
    pure none
  | .check typed => do
    check (← connect env a.apiUrl) typed
    pure none
  | .hint typed => do
    hint (← connect env a.apiUrl) typed
    pure none
  | .create typed => do
    create (← connect env a.apiUrl) typed
    pure none
  | .rules => do
    rules (← connect env a.apiUrl)
    pure none
  | .rate id feedback => do
    rate (← connect env a.apiUrl) id feedback
    pure none
  | .prove id => do
    let c ← connect env a.apiUrl
    return some (c, ← begin c id)

/-- How the program is used. -/
def usage : String :=
  "Usage: ndtutor [--api-url <URL>] [--store-dir <DIR>] [-v...] <TASK>\n\n" ++
    "Tasks:\n" ++
    "  exercises [--mode <MODE>] [--json]\n" ++
    "  show <ID>\n" ++
    "  favorite <ID>\n" ++
    "  parse <FORMULA>\n" ++
    "  check <GOAL> [--hyp <FORMULA>]...\n" ++
    "  hint <GOAL> [--hyp <FORMULA>]...\n" ++
    "  create <GOAL> [--hyp <FORMULA>]...\n" ++
    "  rules\n" ++
    "  feedback <ID> --like|--dislike [--difficulty <1-10>]\n" ++
    "  export [-o <FILE>]\n" ++
    "  welcome [--collapse|--expand]\n" ++
    "  session <ID>\n"

/-- A run of the program with the words of its command line. -/
def run (env : Environment) (words : List String) : Dialogue Effect Effect.Answer Ending :=
  match Arguments.parse words with
  | .error .usage => do
    let _ ← Dialogue.say (.complain usage)
    pure (.exit 2)
  | .error .help => do
    let _ ← Dialogue.say (.print usage)
    pure (.exit 0)
  | .error .version => do
    let _ ← Dialogue.say (.print "ndtutor 0.3.0\n")
    pure (.exit 0)
  | .ok a => do
    match ← (perform env a).run with
    | .ok none => pure (.exit 0)
    | .ok (some (c, session)) => pure (.converse c session)
    | .error e => do
      let _ ← Dialogue.say (.complain e.report)
      pure (.exit 1)

/-- A line typed during a session; blank lines are passed over.  An error is told and leaves the
session usable. -/
def hear (c : Connection) (line : String) (session : Session) :
    Dialogue Effect Effect.Answer (Sequel × Session) := do
  let trimmed := Text.trim line
  if trimmed.isEmpty then pure (.stay, session)
  else do
    let told := ((Console.obey (Console.words trimmed)).run session)
    let (outcome, session) ← told.interpret (Effect.ofQuestion c)
    match outcome with
    | .ok sequel => pure (sequel, session)
    | .error e => do
      let _ ← Dialogue.say (.complain ("error: " ++ e.message ++ "\n"))
      pure (.stay, session)

end Program

end Sequitur
