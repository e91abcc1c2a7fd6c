import Sequitur.Rule.Bindings
import Sequitur.Tree.Basic

/-!
# Applications on their way

Applying a rule takes a round trip to the backend, which answers with the sequents of the premises.
The tree may change meanwhile.  `ProofTree.prepare` checks the target and notes the revision of the
tree; `ProofTree.commit` puts the answer into the tree, unless the target is no longer the open goal
that the request was made for.

## What is here

* `Pending`, `ProofTree.prepare`, `ProofTree.commit`.
* `ApplyError`, with `ApplyError.message`.
-/

set_option autoImplicit false

namespace Sequitur

/-- Why a rule was not applied.  A refusal of the backend carries the text meant for the user. -/
inductive ApplyError where
  | rejected (text : String)
  | transport (text : String)
  | binding (error : BindingError)
  | tree (error : TreeError)
  | notOpen (id : NodeId)
  | stale (id : NodeId)
  deriving DecidableEq

/-- The error in words. -/
def ApplyError.message : ApplyError → String
  | rejected text => text
  | transport text => "rule application failed: " ++ text
  | binding e => e.message
  | tree e => e.message
  | notOpen id => "node " ++ toString id ++ " is not an open goal"
  | stale id =>
    "node " ++ toString id ++ " changed while the rule application was in flight"

/-- An application that has been asked for and not yet put into the tree. -/
structure Pending where
  target : NodeId
  revision : Nat
  application : Application
  deriving DecidableEq

namespace ProofTree

/-- The application of a rule to an open goal, with the bindings made. -/
def prepare (t : ProofTree) (target : NodeId) (bindings : Bindings) :
    Except ApplyError Pending :=
  match t.find? target with
  | none => .error (.tree (.nodeNotFound target))
  | some node =>
    if node.isOpen then
      match bindings.application node.sequent with
      | .error e => .error (.binding e)
      | .ok application => .ok { target, revision := t.revision, application }
    else
      .error (.notOpen target)

/-- Whether the target of an application is still the open goal it was meant for. -/
def isCurrent (t : ProofTree) (p : Pending) : Bool :=
  (t.find? p.target).any fun n ↦ n.isOpen && n.sequent = p.application.sequent

/-- The answer to an application put into the tree.  A tree of the same revision is taken to be the
one that was prepared for; in another one the target is looked at again.  It is assumed that there
have been fewer than 2 ^ 64 changes in between. -/
def commit (t : ProofTree) (p : Pending) (leaves : List (NodeId × Sequent)) :
    Except ApplyError ProofTree :=
  if t.revision = p.revision ∨ t.isCurrent p then
    match t.graft p.target p.application.rule leaves with
    | .error e => .error (.tree e)
    | .ok grown => .ok grown
  else
    .error (.stale p.target)

end ProofTree

end Sequitur
