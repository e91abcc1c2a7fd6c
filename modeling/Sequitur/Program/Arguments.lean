import Sequitur.Exercise.Catalog
import Sequitur.Program.Switch
import Sequitur.Text.Decimal

/-!
# The command line of the program

What the program can be told to do, and how it is read off the command line.  Three switches may
stand anywhere; if one of them is given both in front of the task and behind its name, the latter
counts.

## What is here

* `Task`, `Arguments`, with `Arguments.parse`.
-/

set_option autoImplicit false

namespace Sequitur

/-! ## Tasks -/

/-- A sequent as it is typed. -/
structure TypedSequent where
  goal : String
  hypotheses : List String
  deriving DecidableEq

/-- What the program can be told to do. -/
inductive Task where
  | list (mode : ListMode) (json : Bool)
  | describe (id : ExerciseId)
  | toggleFavorite (id : ExerciseId)
  | parse (formula : String)
  | check (sequent : TypedSequent)
  | hint (sequent : TypedSequent)
  | create (sequent : TypedSequent)
  | rules
  | rate (id : ExerciseId) (feedback : Feedback)
  | typeset (path : Option String)
  | welcome (collapsed : Option Bool)
  | prove (id : ExerciseId)
  deriving DecidableEq

/-- A task with where the backend and the store are, if that was said. -/
structure Arguments where
  apiUrl : Option String
  storeDir : Option String
  task : Task
  deriving DecidableEq

/-! ## Grammars -/

namespace Arguments

/-- A path, which is not empty. -/
def isPath (text : String) : Bool :=
  text ≠ ""

/-- The switches that may stand anywhere. -/
def globalSwitches : List Switch :=
  [{ name := "api-url", arity := .value },
    { name := "store-dir", arity := .value, accepts := isPath },
    { name := "verbose", letter := some 'v', arity := .count }]

/-- What may stand in front of the name of a task. -/
def frontGrammar : Grammar :=
  { switches := globalSwitches, hasVersion := true }

/-- The difficulty that a text denotes: a number from 1 to 10. -/
def difficulty? (text : String) : Option UInt32 :=
  match Text.natBelow? 11 text with
  | some (n + 1) => some (.ofNat (n + 1))
  | _ => none

/-- Whether a text is the id of an exercise. -/
def isId (text : String) : Bool :=
  (Uuid.parse? text).isSome

/-- The grammar of a sequent: the goal, and a switch for each hypothesis. -/
def sequentGrammar : Grammar :=
  { switches := [{ name := "hyp", arity := .values }], words := [fun _ ↦ true] }

/-- What may stand behind the name of a task, the global switches apart; nothing if no task has the
name. -/
def grammarOf? : String → Option Grammar
  | "exercises" => some { switches := [
      { name := "mode", arity := .value, accepts := fun s ↦ (ListMode.ofName? s).isSome },
      { name := "json" }] }
  | "show" => some { switches := [], words := [isId] }
  | "favorite" => some { switches := [], words := [isId] }
  | "parse" => some { switches := [], words := [fun _ ↦ true] }
  | "check" => some sequentGrammar
  | "hint" => some sequentGrammar
  | "create" => some sequentGrammar
  | "rules" => some { switches := [] }
  | "feedback" => some {
      switches := [{ name := "like" }, { name := "dislike" },
        { name := "difficulty", arity := .value, accepts := fun s ↦ (difficulty? s).isSome }]
      words := [isId] }
  | "export" => some { switches := [
      { name := "output", letter := some 'o', arity := .value, accepts := isPath }] }
  | "welcome" => some { switches := [{ name := "collapse" }, { name := "expand" }] }
  | "session" => some { switches := [], words := [isId] }
  | _ => none

/-- What may stand behind the name of a task with a grammar of its own. -/
def backGrammar (own : Grammar) : Grammar :=
  { own with switches := own.switches ++ globalSwitches }

/-! ## Reading -/

/-- A value that has to be there. -/
def require {α : Type} : Option α → Except Refusal α
  | some a => .ok a
  | none => .error .usage

/-- The only word of a task. -/
def onlyWord (s : Scan) : Except Refusal String :=
  match s.words with
  | [word] => .ok word
  | _ => .error .usage

/-- The exercise that the only word of a task names. -/
def onlyId (s : Scan) : Except Refusal ExerciseId := do
  require (Uuid.parse? (← onlyWord s))

/-- A rating: either liked or disliked, perhaps with a difficulty. -/
def rating (s : Scan) : Except Refusal Feedback :=
  if s.has "like" = s.has "dislike" then .error .usage
  else .ok { like := s.has "like", difficulty := (s.value? "difficulty").bind difficulty? }

/-- A sequent: the goal, and a hypothesis for each time that the switch is given. -/
def sequent (s : Scan) : Except Refusal TypedSequent := do
  pure { goal := ← onlyWord s, hypotheses := s.valuesOf "hyp" }

/-- The task of a name, with its switches and words. -/
def readTask (name : String) (s : Scan) : Except Refusal Task :=
  match name with
  | "exercises" => do
    let mode ← require (ListMode.ofName? ((s.value? "mode").getD "all"))
    pure (.list mode (s.has "json"))
  | "show" => return .describe (← onlyId s)
  | "favorite" => return .toggleFavorite (← onlyId s)
  | "parse" => return .parse (← onlyWord s)
  | "check" => return .check (← sequent s)
  | "hint" => return .hint (← sequent s)
  | "create" => return .create (← sequent s)
  | "rules" => pure .rules
  | "feedback" => return .rate (← onlyId s) (← rating s)
  | "export" => pure (.typeset (s.value? "output"))
  | "welcome" =>
    if s.has "collapse" && s.has "expand" then throw .usage
    else if s.has "collapse" then pure (.welcome (some true))
    else if s.has "expand" then pure (.welcome (some false))
    else pure (.welcome none)
  | "session" => return .prove (← onlyId s)
  | _ => throw .usage

/-- What is asked for by the word `help`: help, in general or on the one task named behind it. -/
def helpFor : List String → Refusal
  | [] => .help
  | [name] => if (grammarOf? name).isSome ∨ name = "help" then .help else .usage
  | _ => .usage

/-- The arguments in the words of a command line.  What stands last in front of the name of the task
is judged after what stands behind it. -/
def parse (words : List String) : Except Refusal Arguments := do
  match ← frontGrammar.scanFront {} words with
  | (_, []) => throw .usage
  | (_, "help" :: rest) => throw (helpFor rest)
  | (front, name :: rest) =>
    let own ← require (grammarOf? name)
    let back ← (backGrammar own).scan {} rest
    let task ← readTask name back
    let front ← front.settle
    pure {
      apiUrl := (back.value? "api-url").or (front.value? "api-url")
      storeDir := (back.value? "store-dir").or (front.value? "store-dir")
      task }

end Arguments

end Sequitur
