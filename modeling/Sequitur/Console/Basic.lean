import Sequitur.Console.Command
import Sequitur.Console.Words
import Sequitur.Tree.Outline
import Sequitur.Tree.Walk

/-!
# The console

A session driven by lines of text.  Each line is one command; its output is printed as it is
produced, and a command that fails leaves the session usable.

## What is here

* `Console.perform` — a command carried out.
* `Console.obey` — the words of a line as a command, carried out.
-/

set_option autoImplicit false

namespace Sequitur

/-- Whether the session goes on after a command. -/
inductive Sequel where
  | stay
  | leave
  deriving DecidableEq

/-- What a command does: it may fail, change the session, and ask questions. -/
abbrev ConsoleM : Type → Type :=
  ExceptT CommandError (StateT Session (Dialogue Question Question.Answer))

namespace Console

/-- Something the session does on behalf of a command. -/
def inSession {α : Type} (act : SessionM α) : ConsoleM α :=
  act.adapt .session

/-- A text printed. -/
def print (text : String) : ConsoleM Unit :=
  inSession (Session.ask (.print text))

/-- A line printed. -/
def printLine (line : String) : ConsoleM Unit :=
  print (line ++ "\n")

/-- Lines printed one after the other. -/
def printLines : List String → ConsoleM Unit
  | [] => pure ()
  | line :: lines => do
    printLine line
    printLines lines

/-- The node of a reference, or the one in focus without one. -/
def nodeOrFocus : Option String → ConsoleM NodeId
  | some reference => inSession (Session.resolve reference)
  | none => return (← get).tree.focus

/-- The rule of a name. -/
def ruleOfName (name : String) : ConsoleM Rule :=
  match Rule.ofName? name with
  | some rule => pure rule
  | none => throw (.unknownRuleName name)

/-- The subtree at a node printed. -/
def printOutline (node : NodeId) : ConsoleM Unit := do
  print ((← get).tree.outline node)

/-- The line of an open goal: its short id and its sequent. -/
def goalLine (n : Node) : String :=
  n.id.short ++ "  " ++ n.sequent.display

/-- The commands and what they do. -/
def helpLines : List String :=
  ["Commands",
    "  show [node]                      print the tree below a node (default: focus)",
    "  goals                            list open goals",
    "  rules                            list derivation rules",
    "  focus <node> | root              move the view",
    "  apply <node> <rule> [binding..]  apply a rule; bindings fill the rule's",
    "                                   placeholders in order (quote formulas)",
    "  slots <node> <rule>              placeholders of a rule and bindings on offer",
    "  delete <node>                    undo the rule application above a node",
    "  check [node]                     ask whether a goal is still provable",
    "  hint [node]                      ask for a next step",
    "  export [file]                    Typst source of the whole proof",
    "  feedback like|dislike [1-10]     rate the exercise",
    "  exit                             leave the session"]

/-- A rule applied to a node.  When bindings are missing, what could be bound is printed before the
command fails. -/
def apply (reference ruleName : String) (texts : List String) : ConsoleM Unit := do
  let node ← inSession (Session.resolve reference)
  let rule ← ruleOfName ruleName
  let completion ← tryCatch (inSession (Session.apply node rule texts)) fun
    | .session (.missingBindings candidates) => do
      print candidates.text
      throw (.session (.missingBindings candidates))
    | e => throw e
  printOutline (← get).tree.focus
  if let some completion := completion then
    printLine "Proof complete!"
    if completion.askFeedback then
      printLine "Rate this exercise with `feedback like|dislike [difficulty 1-10]`."

/-- A command carried out. -/
def perform : Command → ConsoleM Sequel
  | .help => do
    printLines helpLines
    return .stay
  | .leave => return .leave
  | .outline reference => do
    printOutline (← nodeOrFocus reference)
    return .stay
  | .goals => do
    let tree := (← get).tree
    printLines ((tree.openGoals tree.root).filterMap fun id ↦ (tree.find? id).map goalLine)
    return .stay
  | .rules => do
    printLines ((← get).rules.map Schema.line)
    return .stay
  | .focus reference => do
    let node ← inSession (Session.resolve reference)
    inSession (Session.focus node)
    printOutline node
    return .stay
  | .focusRoot => do
    inSession Session.focusRoot
    printOutline (← get).tree.root
    return .stay
  | .apply reference ruleName texts => do
    apply reference ruleName texts
    return .stay
  | .slots reference ruleName => do
    let node ← inSession (Session.resolve reference)
    let rule ← ruleOfName ruleName
    print (← inSession (Session.candidates node rule)).text
    return .stay
  | .delete reference => do
    let node ← inSession (Session.resolve reference)
    let removed ← inSession (Session.delete node)
    printLine ("removed " ++ toString removed.length ++ " node(s)")
    return .stay
  | .check reference => do
    let node ← nodeOrFocus reference
    let provable ← inSession (Session.check node)
    printLine (if provable then "still provable" else "this goal can no longer be proved")
    return .stay
  | .hint reference => do
    let node ← nodeOrFocus reference
    let hints ← inSession (Session.hint node)
    printLines (if hints.isEmpty then ["no hint available"] else hints.map Hint.line)
    return .stay
  | .typeset none => do
    printLine (← inSession Session.typeset)
    return .stay
  | .typeset (some path) => do
    let text ← inSession Session.typeset
    match ← inSession (Session.ask (.write path text)) with
    | .ok () => printLine ("wrote " ++ path)
    | .error fault => throw (.file fault)
    return .stay
  | .rate feedback => do
    inSession (Session.rate feedback)
    printLine "thanks for the feedback"
    return .stay

/-- The words of a line carried out as a command; a line without words does nothing. -/
def obey (words : List String) : ConsoleM Sequel :=
  match Command.ofWords? words with
  | .error e => throw e
  | .ok none => pure .stay
  | .ok (some command) => perform command

end Console

end Sequitur
