import Sequitur.Backend.Connection
import Sequitur.Store.Operation

/-!
# Failures of the program

Why a run of the program failed, and how it is reported: the error in words, then what caused it,
one cause after the other.

## What is here

* `ProgramError`, with `ProgramError.report`.
-/

set_option autoImplicit false

namespace Sequitur

/-- Why a run of the program failed. -/
inductive ProgramError where
  | store (error : StoreError)
  | opening (error : StoreError)
  | connection (error : ConnectionError)
  | backend (error : BackendError)
  | hypothesis (text : String) (error : BackendError)
  | goal (text : String) (error : BackendError)
  | loadingExercise (id : ExerciseId) (error : BackendError)
  | loadingRules (error : BackendError)
  | tree (error : TreeError)
  | writing (path : String) (fault : FileFault)
  | alreadyRated (id : ExerciseId)
  | notAccepted
  | noProof
  deriving DecidableEq

namespace ProgramError

/-- The error in words. -/
def message : ProgramError → String
  | store e => e.message
  | opening _ => "failed to open local store"
  | connection e => e.message
  | backend e => e.message
  | hypothesis text _ => "in hypothesis `" ++ text ++ "`"
  | goal text _ => "in goal `" ++ text ++ "`"
  | loadingExercise id _ => "failed to load exercise " ++ toString id
  | loadingRules _ => "failed to load rules"
  | tree e => e.message
  | writing path _ => "failed to write " ++ path
  | alreadyRated id => "feedback for " ++ toString id ++ " was already given"
  | notAccepted => "the backend did not accept the exercise"
  | noProof => "no finished proof has been saved yet"

/-- What caused the error, in words, the immediate cause first. -/
def causes : ProgramError → List String
  | store e => e.cause?.toList
  | opening e => e.message :: e.cause?.toList
  | connection e => e.cause?.toList
  | backend _ => []
  | hypothesis _ e => [e.message]
  | goal _ e => [e.message]
  | loadingExercise _ e => [e.message]
  | loadingRules e => [e.message]
  | tree _ => []
  | writing _ fault => [fault.message]
  | alreadyRated _ => []
  | notAccepted => []
  | noProof => []

/-- A text with something in front of its first line and of the others. -/
def indent (first others text : String) : String :=
  first ++ ("\n" ++ others).intercalate (text.splitOn "\n")

/-- Causes with their numbers, which stand to the right in five columns. -/
def numbered : Nat → List String → List String
  | _, [] => []
  | n, cause :: causes =>
    let number := toString n
    let padding := String.ofList (List.replicate (5 - number.length) ' ')
    indent (padding ++ number ++ ": ") "       " cause :: numbered (n + 1) causes

/-- Causes as they are reported: a single one is indented, several are numbered from zero on. -/
def causeLines : List String → List String
  | [cause] => [indent "    " "    " cause]
  | causes => numbered 0 causes

/-- The error as it is reported, with its causes. -/
def report (e : ProgramError) : String :=
  "Error: " ++ e.message ++
    (if e.causes.isEmpty then ""
      else "\n\nCaused by:\n" ++ "\n".intercalate (causeLines e.causes)) ++ "\n"

end ProgramError

end Sequitur
