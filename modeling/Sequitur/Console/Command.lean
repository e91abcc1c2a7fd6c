import Sequitur.Exercise.Basic
import Sequitur.Session.Basic
import Sequitur.Text.Decimal

/-!
# Commands of the console

What a user can tell a session to do.  A command is read from the words of a line; arguments beyond
those that a command takes are ignored.  Whether the nodes and rules that it names exist is only
found out when it is carried out.

## What is here

* `Command`, with `Command.ofWords?`.
* `Command.feedback?` — a rating from its arguments.
* `CommandError`, with `CommandError.message`.
-/

set_option autoImplicit false

namespace Sequitur

/-! ## Errors -/

/-- Why a command was not understood or failed. -/
inductive CommandError where
  | usage (form : String)
  | unknownCommand (word : String)
  | unknownRuleName (word : String)
  | difficultyNotNumber (word : String)
  | difficultyOutOfRange
  | file (fault : FileFault)
  | session (error : SessionError)
  deriving DecidableEq

/-- The error in words. -/
def CommandError.message : CommandError → String
  | usage form => "usage: " ++ form
  | unknownCommand word => "unknown command `" ++ word ++ "` (try `help`)"
  | unknownRuleName word => "unknown rule `" ++ word ++ "`"
  | difficultyNotNumber word => "difficulty must be a number, got `" ++ word ++ "`"
  | difficultyOutOfRange => "difficulty must be between 1 and 10"
  | file fault => fault.message
  | session e => e.message

/-! ## Commands -/

/-- What a session can be told to do.  Nodes are given as references, bindings and rules as they
were typed. -/
inductive Command where
  | help
  | leave
  | outline (node : Option String)
  | goals
  | rules
  | focus (node : String)
  | focusRoot
  | apply (node rule : String) (bindings : List String)
  | slots (node rule : String)
  | delete (node : String)
  | check (node : Option String)
  | hint (node : Option String)
  | typeset (path : Option String)
  | rate (feedback : Feedback)
  deriving DecidableEq

namespace Command

/-- How difficult a rating says the exercise is, from 1 to 10. -/
def difficulty (word : String) : Except CommandError UInt32 :=
  match Text.natBelow? UInt32.size word with
  | none => .error (.difficultyNotNumber word)
  | some n => if 1 ≤ n ∧ n ≤ 10 then .ok (.ofNat n) else .error .difficultyOutOfRange

/-- Whether a word means that the exercise is liked, if it means either. -/
def like? (word : String) : Option Bool :=
  if word = "like" ∨ word = "+" then some true
  else if word = "dislike" ∨ word = "-" then some false
  else none

/-- A rating from its arguments: like or dislike, and perhaps a difficulty. -/
def feedback : List String → Except CommandError Feedback
  | [] => .error (.usage "feedback like|dislike [difficulty 1-10]")
  | word :: rest =>
    match like? word with
    | none => .error (.usage "feedback like|dislike [difficulty 1-10]")
    | some like =>
      match rest with
      | [] => .ok { like }
      | number :: _ => (difficulty number).map fun d ↦ { like, difficulty := some d }

/-- The command that the words of a line spell; nothing for a line without words. -/
def ofWords? : List String → Except CommandError (Option Command)
  | [] => .ok none
  | name :: args =>
    match name, args with
    | "help", _ => .ok help
    | "?", _ => .ok help
    | "exit", _ => .ok leave
    | "quit", _ => .ok leave
    | "show", _ => .ok (outline args.head?)
    | "tree", _ => .ok (outline args.head?)
    | "goals", _ => .ok goals
    | "rules", _ => .ok rules
    | "focus", node :: _ => .ok (focus node)
    | "focus", [] => .error (.usage "focus <node>")
    | "root", _ => .ok focusRoot
    | "apply", node :: rule :: bindings => .ok (apply node rule bindings)
    | "apply", _ => .error (.usage "apply <node> <rule> [binding ...]")
    | "slots", node :: rule :: _ => .ok (slots node rule)
    | "slots", _ => .error (.usage "slots <node> <rule>")
    | "delete", node :: _ => .ok (delete node)
    | "delete", [] => .error (.usage "delete <node>")
    | "check", _ => .ok (check args.head?)
    | "hint", _ => .ok (hint args.head?)
    | "export", _ => .ok (typeset args.head?)
    | "feedback", _ => (feedback args).map (some ∘ rate)
    | other, _ => .error (.unknownCommand other)

end Command

end Sequitur
