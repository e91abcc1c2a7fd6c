import Sequitur.Backend.Basic
import Sequitur.Text.Blank
import Sequitur.Url.Resolve

/-!
# Where the backend is

The address of the backend and how long to wait for it, as configured by the environment and
changed by the command line.  The base address always ends in a slash, so that the paths of the
backend come below it.

## What is here

* `Connection`, with `Connection.ofEnvironment` and `Connection.withBase`.
* `Connection.endpoint` — the address of a path.
* `ConnectionError`, with `ConnectionError.message`.
-/

set_option autoImplicit false

namespace Sequitur

/-! ## Errors -/

/-- Why a configuration is refused. -/
inductive ConnectionError where
  | url (text : String) (error : UrlError)
  | timeout (text : String)
  deriving DecidableEq

namespace ConnectionError

/-- The error in words. -/
def message : ConnectionError → String
  | url text e => "invalid backend URL `" ++ text ++ "`: " ++ e.message
  | timeout text =>
    "invalid configuration: NDTUTOR_API_TIMEOUT must be a number of seconds, got `" ++ text ++ "`"

/-- The words of the error that caused it, if there is one. -/
def cause? : ConnectionError → Option String
  | url _ e => some e.message
  | timeout _ => none

end ConnectionError

/-! ## Connections -/

/-- The base address of the backend and the time to wait for it in seconds. -/
structure Connection where
  base : Url
  timeout : Nat := 30
  deriving DecidableEq

namespace Connection

/-- The base address when none is configured. -/
def defaultBase : String := "http://localhost:8080"

/-- A base address as it was typed, blanks around it and the slash at its end left to us. -/
def readBase (text : String) : Except ConnectionError Url :=
  let trimmed := Text.trim text
  match Url.parse (if trimmed.endsWith "/" then trimmed else trimmed ++ "/") with
  | .ok u => .ok u
  | .error e => .error (.url text e)

/-- A time to wait as it was typed. -/
def readTimeout (text : String) : Except ConnectionError Nat :=
  match Text.natBelow? UInt64.size (Text.trim text) with
  | some n => .ok n
  | none => .error (.timeout text)

/-- The connection that the environment configures. -/
def ofEnvironment (base timeout : Option String) : Except ConnectionError Connection := do
  let base ← readBase (base.getD defaultBase)
  match timeout with
  | none => pure { base }
  | some text => pure { base, timeout := ← readTimeout text }

/-- Another base address. -/
def withBase (c : Connection) (text : String) : Except ConnectionError Connection :=
  (readBase text).map fun base ↦ { c with base }

/-- Another time to wait. -/
def withTimeout (c : Connection) (seconds : Nat) : Connection :=
  { c with timeout := seconds }

/-- The address of a path, which lies below the base whether or not it begins with slashes. -/
def endpoint (c : Connection) (path : String) : Except BackendError Url :=
  match Url.resolve (some c.base) (String.ofList (path.toList.dropWhile (· = '/'))) with
  | .ok u => .ok u
  | .error _ => .error (.invalidEndpoint path)

end Connection

end Sequitur
