import Sequitur.Tree.Basic

/-!
# Walks through a proof tree

Questions about a whole subtree: what hangs below a node, whether it is proved, which goals are
still open.  A walk follows premises from node to node, and nothing in the shape of the data says
that it comes to an end; what does is that a tree has no cycle.  Each walk is therefore defined with
a bound on the number of nodes along a path, and asked with the number of nodes of the tree, which
no path without repetition exceeds.

## What is here

* `ProofTree.descendants` — everything below a node, parents first and premises from left to right.
* `ProofTree.isComplete` — every node of a subtree has a rule.
* `ProofTree.openGoals` — the open nodes of a subtree, from left to right.
-/

set_option autoImplicit false

namespace Sequitur

namespace ProofTree

/-! ## Descendants -/

/-- A node and what lies below it, as far as it is not yet in `seen`, added to `seen` in the order
in which the walk meets it.  Paths go on below at most `bound` nodes. -/
def visit (t : ProofTree) : Nat → List NodeId → NodeId → List NodeId
  | 0, seen, id => if id ∈ seen then seen else seen ++ [id]
  | bound + 1, seen, id =>
    if id ∈ seen then seen else (t.premisesOf id).foldl (visit t bound) (seen ++ [id])

/-- Everything below a node, parents before premises and premises from left to right, along paths
that go on below at most `bound` nodes. -/
def descendantsWithin (t : ProofTree) (bound : Nat) (id : NodeId) : List NodeId :=
  (t.premisesOf id).foldl (visit t bound) []

/-- Everything below a node, parents before premises and premises from left to right. -/
def descendants (t : ProofTree) (id : NodeId) : List NodeId :=
  t.descendantsWithin t.size id

/-! ## Completeness -/

/-- Whether every node has a rule along all paths of at most `bound` nodes, and all those paths
end. -/
def isCompleteWithin (t : ProofTree) : Nat → NodeId → Bool
  | 0, _ => false
  | bound + 1, id =>
    match t.find? id with
    | none => false
    | some n => n.rule.isSome && n.premises.all (isCompleteWithin t bound)

/-- Whether a node and everything below it has a rule.  What is not in the tree is not complete. -/
def isComplete (t : ProofTree) (id : NodeId) : Bool :=
  t.isCompleteWithin t.size id

/-- Whether the whole proof is complete. -/
def isRootComplete (t : ProofTree) : Bool :=
  t.isComplete t.root

/-! ## Open goals -/

/-- Whether there is a node of this id and it is open. -/
def isOpenAt (t : ProofTree) (id : NodeId) : Bool :=
  (t.find? id).any Node.isOpen

/-- The open nodes of the subtree at a node, from left to right. -/
def openGoals (t : ProofTree) (id : NodeId) : List NodeId :=
  (id :: t.descendants id).filter t.isOpenAt

end ProofTree

end Sequitur
