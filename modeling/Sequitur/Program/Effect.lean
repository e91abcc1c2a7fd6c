import Sequitur.Backend.Http
import Sequitur.Session.Question

/-!
# What the program asks of the system

All that the program does is to come to a result while asking the system for something to be done:
to open the store and to work on it, to deliver a request, to think up new ids, to write a file, to
print, and to print errors.  A session asks more abstractly; its questions to the backend become
requests here.

## What is here

* `Effect`, with the type `Effect.Answer` of its answer.
* `Effect.call` — a call made by a request.
* `Effect.ofQuestion` — a question of a session.
-/

set_option autoImplicit false

namespace Sequitur

/-- Something the system is asked to do. -/
inductive Effect where
  | openStore (path : String)
  | store (operation : StoreOperation)
  | send (request : Request)
  | fresh (count : Nat)
  | write (path text : String)
  | print (text : String)
  | complain (text : String)

namespace Effect

/-- What the system answers.  A request that could not be delivered has no response. -/
def Answer : Effect → Type
  | openStore _ => Except StoreError Unit
  | store op => Except StoreError op.Result
  | send _ => Option Response
  | fresh n => Vector NodeId n
  | write _ _ => Except FileFault Unit
  | print _ => Unit
  | complain _ => Unit

/-- A call to the backend made by a request. -/
def call (c : Connection) (k : Call) : Dialogue Effect Answer (Except BackendError k.Result) :=
  match k.request c with
  | .error e => .done (.error e)
  | .ok r => .ask (.send r) fun response ↦ .done (k.read r.url response)

/-- A question of a session put to the system. -/
def ofQuestion (c : Connection) : (q : Question) → Dialogue Effect Answer q.Answer
  | .parse text => call c (.parse text)
  | .apply a => do return (← call c (.apply a)).mapError BackendError.toApplyError
  | .check s => call c (.check s)
  | .hint s => call c (.hint s)
  | .report t => call c (.report t)
  | .rate id f => call c (.rate id f)
  | .store op => .ask (.store op) .done
  | .fresh n => .ask (.fresh n) .done
  | .write path text => .ask (.write path text) .done
  | .print text => .ask (.print text) .done

end Effect

end Sequitur
