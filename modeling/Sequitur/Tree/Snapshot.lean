import Sequitur.Tree.Walk

/-!
# Storing and restoring a tree

A snapshot of a tree is its list of nodes.  The list alone may be anything, so restoring a tree
checks that it is one: no id twice, the root among the nodes, every premise a node, no node the
premise of two nodes or twice of one, the root nobody's premise, and a way up from every node to the
root.

The way up is followed for at most as many steps as there are nodes; a longer one would repeat a
node and never arrive.

## What is here

* `ProofTree.snapshot`, `ProofTree.ofSnapshot`.
* `ProofTree.report?` — a complete proof as it is reported, with `ClosedNode` and `TreeReport`.
-/

set_option autoImplicit false

namespace Sequitur

/-! ## Complete proofs -/

/-- A node of a complete proof. -/
structure ClosedNode where
  id : NodeId
  sequent : Sequent
  rule : Rule
  premises : List NodeId
  deriving DecidableEq

/-- A complete proof as it is reported to the backend. -/
structure TreeReport where
  root : NodeId
  nodes : List ClosedNode
  deriving DecidableEq

/-- A node that has a rule, as a node of a complete proof. -/
def Node.closed? (n : Node) : Option ClosedNode :=
  n.rule.map fun rule ↦ ⟨n.id, n.sequent, rule, n.premises⟩

namespace ProofTree

/-- The nodes in the order in which they were added. -/
def snapshot (t : ProofTree) : List Node :=
  t.nodes

/-- A complete proof as it is reported; nothing while the root is incomplete. -/
def report? (t : ProofTree) : Option TreeReport :=
  if t.isRootComplete then
    (t.nodes.mapM Node.closed?).map fun nodes ↦ { root := t.root, nodes := nodes }
  else
    none

/-! ## Checking a list of nodes -/

/-- The first id of a list that has occurred before it, in `seen` or in the list. -/
def firstRepeated? : List NodeId → List NodeId → Option NodeId
  | _, [] => none
  | seen, id :: rest => if id ∈ seen then some id else firstRepeated? (id :: seen) rest

/-- Where each node hangs: pairs of a premise and the node that lists it. -/
abbrev ParentTable := List (NodeId × NodeId)

/-- The table with the premises of one node added, or the first fault among them. -/
def linkPremises (root : NodeId) (ids : List NodeId) (id : NodeId) :
    List NodeId → ParentTable → Except TreeError ParentTable
  | [], table => .ok table
  | p :: rest, table =>
    if p ∉ ids then .error (.danglingPremise id p)
    else if p = root ∨ (table.lookup p).isSome then .error (.disconnected p)
    else linkPremises root ids id rest ((p, id) :: table)

/-- The table of all nodes, or the first fault among their premises. -/
def linkNodes (root : NodeId) (nodes : List Node) : Except TreeError ParentTable :=
  nodes.foldlM (fun table n ↦ linkPremises root (nodes.map Node.id) n.id n.premises table) []

/-- Whether the way up from an id arrives at the root in at most `steps` steps. -/
def climbs (root : NodeId) (table : ParentTable) : Nat → NodeId → Bool
  | 0, id => id = root
  | steps + 1, id =>
    id = root ||
      match table.lookup id with
      | none => false
      | some parent => climbs root table steps parent

/-! ## Restoring -/

/-- The tree of a root and a list of nodes, with the focus on the root and the first revision, or
the first fault for which the list is no tree. -/
def ofSnapshot (root : NodeId) (nodes : List Node) : Except TreeError ProofTree :=
  let ids := nodes.map Node.id
  match firstRepeated? [] ids with
  | some id => .error (.duplicateNode id)
  | none =>
    if root ∉ ids then .error (.missingRoot root)
    else
      match linkNodes root nodes with
      | .error e => .error e
      | .ok table =>
        match ids.find? fun id ↦ !climbs root table nodes.length id with
        | some id => .error (.disconnected id)
        | none => .ok (ofNodes root nodes)

end ProofTree

end Sequitur
