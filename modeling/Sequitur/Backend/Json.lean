import Sequitur.Backend.Basic
import Sequitur.Exercise.Json

/-!
# What is sent to the backend in JSON

Most calls send a value that has a JSON form of its own.  The call that parses a formula sends an
object around the text.

## What is here

* `ParseRequest`.
-/

set_option autoImplicit false

namespace Sequitur

/-- A text to be parsed as a formula. -/
structure ParseRequest where
  formula : String
  deriving DecidableEq

namespace ParseRequest

/-- The JSON form of a request to parse. -/
def toJson (r : ParseRequest) : Json :=
  .record [("formula", .text r.formula)]

/-- A request to parse from its JSON form. -/
def decode? : Decoder ParseRequest :=
  Json.enter fun room j ↦ do
    let fields ← Json.fields? ["formula"] j
    some { formula := ← Json.required? fields "formula" (Json.text? room) }

end ParseRequest

end Sequitur
