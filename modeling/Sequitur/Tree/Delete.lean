import Sequitur.Tree.Walk

/-!
# Taking back a rule application

`ProofTree.delete` removes a node together with its siblings and all that lies below any of them:
the rule application that produced the node is undone, and the node it was applied to becomes an
open goal again.  The root is not the product of a rule application, and the node in focus is not
deleted under the user's eyes.

## What is here

* `ProofTree.delete`.
* `DeleteError`, with `DeleteError.message`.
-/

set_option autoImplicit false

namespace Sequitur

/-- Why a deletion is refused; the tree then stays as it is. -/
inductive DeleteError where
  | root
  | focused (id : NodeId)
  | noParent (id : NodeId)
  | nodeNotFound (id : NodeId)
  deriving DecidableEq

/-- The error in words. -/
def DeleteError.message : DeleteError → String
  | root => "cannot delete the root node"
  | focused id => "cannot delete the focused node " ++ toString id ++ "; move focus away first"
  | noParent id => "node " ++ toString id ++ " has no parent"
  | nodeNotFound id => "node " ++ toString id ++ " does not exist"

namespace ProofTree

/-- The tree with everything below a node removed and the node open again.  A focus that has been
removed moves to the node. -/
def reopen (t : ProofTree) (parent : NodeId) (removed : List NodeId) : ProofTree :=
  { (t.remove removed).modify parent Node.reopen with
    focus := if t.focus ∈ removed then parent else t.focus
    revision := t.revision + 1 }

/-- The rule application that produced a node taken back.  The result is the removed ids, parents
before premises, and the remaining tree. -/
def delete (t : ProofTree) (id : NodeId) : Except DeleteError (List NodeId × ProofTree) :=
  if id = t.root then .error .root
  else if id = t.focus then .error (.focused id)
  else if !t.contains id then .error (.nodeNotFound id)
  else
    match t.parent? id with
    | none => .error (.noParent id)
    | some parent =>
      let removed := t.descendants parent
      .ok (removed, t.reopen parent removed)

end ProofTree

end Sequitur
