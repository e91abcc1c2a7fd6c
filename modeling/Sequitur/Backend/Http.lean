import Sequitur.Backend.Connection
import Sequitur.Backend.Json
import Sequitur.Json.Reader

/-!
# Calls over HTTP

Each call is one request: a method, a path below the base address and perhaps a JSON body.  What the
response means depends on its status first.  Too many requests is an error of its own, any other
failure is a refusal whose text is the body, and a success is an answer if its body decodes.

A response comes through a library that also reads its body as text and finds words for a body that
does not decode.  What these are is part of the response and may be anything; that the text is the
one that the body spells is the assumption `Response.Faithful`.

## What is here

* `Request`, `Response`, `Response.Faithful`.
* `Call.request` — the request that makes a call.
* `Call.read` — what a response means; no response means that the request could not be delivered.
-/

set_option autoImplicit false

namespace Sequitur

/-! ## Messages -/

/-- What a request wants done. -/
inductive Method where
  | get
  | post
  deriving DecidableEq

/-- The name of a method. -/
def Method.name : Method → String
  | get => "GET"
  | post => "POST"

/-- A request. -/
structure Request where
  method : Method
  url : Url
  body : Option Json

/-- A response as it is received: its status, its body, which need not be text, the body read as
text, and what is said of a body that does not decode. -/
structure Response where
  status : Nat
  body : List Symbol
  text : String := Symbol.lossyText body
  complaint : String := "the body is not what was asked for"
  deriving DecidableEq

namespace Response

/-- The body is read faithfully: if it spells a text, this is the text that is read. -/
def Faithful (r : Response) : Prop :=
  ∀ text, r.body = Symbol.ofString text → r.text = text

/-- Whether the request succeeded. -/
def isSuccess (r : Response) : Bool :=
  200 ≤ r.status && r.status < 300

end Response

namespace Call

/-! ## Requests -/

/-- The path of a call. -/
def path : Call → String
  | parse _ => "api/parse"
  | check _ => "api/check"
  | apply _ => "api/apply"
  | rules => "api/rules"
  | exercises => "api/exercise"
  | exercise id => "api/exercise/" ++ toString id
  | create _ => "api/exercise"
  | rate id _ => "api/exercise/" ++ toString id ++ "/feedback"
  | report _ => "api/add_tree"
  | hint _ => "api/statement/hint"

/-- What a call sends; a call that sends nothing only reads. -/
def body? : Call → Option Json
  | parse text => some (ParseRequest.mk text).toJson
  | check s => some s.toJson
  | apply a => some a.toJson
  | rules => none
  | exercises => none
  | exercise _ => none
  | create e => some e.toJson
  | rate _ f => some f.toJson
  | report t => some t.toJson
  | hint s => some s.toJson

/-- The request that makes a call. -/
def request (c : Connection) (call : Call) : Except BackendError Request := do
  let url ← c.endpoint call.path
  pure { method := if call.body?.isSome then .post else .get, url, body := call.body? }

/-! ## Responses -/

/-- The answer in the body of a successful response, if there is one. -/
def decodeAnswer? (body : Option Json) : (call : Call) → Option call.Result
  | parse _ => body.bind (Json.decode? Formula.decode?)
  | check _ => body.bind (Json.decode? Json.bool?)
  | apply _ => body.bind (Json.decode? (Json.list? Sequent.decode?))
  | rules => body.bind (Json.decode? (Json.list? Schema.decode?))
  | exercises => body.bind (Json.decode? (Json.list? Exercise.decode?))
  | exercise _ => body.bind (Json.decode? Sequent.decode?)
  | create _ => body.bind (Json.decode? Json.bool?)
  | rate _ _ => some ()
  | report _ => some ()
  | hint _ => body.bind (Json.decode? (Json.list? Hint.decode?))

/-- What is said when a request cannot be delivered. -/
def undelivered (url : Url) : String :=
  (if url.scheme = "http" ∨ url.scheme = "https" then "error sending request for url ("
    else "builder error for url (") ++ toString url ++ ")"

/-- What a response to the request of a call means. -/
def read (call : Call) (url : Url) : Option Response → Except BackendError call.Result
  | none => .error (.network (undelivered url))
  | some r =>
    if r.status = 429 then .error .rateLimited
    else if r.isSuccess then
      match decodeAnswer? (Json.read? r.body) call with
      | some a => .ok a
      | none => .error (.invalidResponse r.complaint)
    else .error (.refused r.status r.text)

end Call

end Sequitur
