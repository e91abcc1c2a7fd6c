import Sequitur.Rule.Basic
import Sequitur.Sequent.Basic
import Sequitur.Uuid

/-!
# Proof trees

A proof under construction is a collection of nodes, each named by an id.  A node holds a sequent
and, once a rule has been applied to it, the rule and the ids of the nodes for its premises.  The
tree is what one sees by following those ids from the root.

The collection is a partial map from ids to nodes, and beside it stands the order in which the ids
were added, which is the order of every listing.  One node is in focus, which decides what is shown
and protects it from deletion.  Every change of structure raises the revision, so that a change
which was prepared earlier can tell whether the tree is still the one it was meant for.  The
revision has no bound here.  Wherever two revisions are compared it is assumed that there have been
fewer than 2 ^ 64 changes between them, as many as a counter of 64 bits can tell apart.

Two operations change the structure: `ProofTree.graft` closes a node by a rule and adds one open
node per premise, and `ProofTree.delete` takes back the rule application that produced a node, with
all that has been built on it.  The ids of new nodes are chosen by the caller, who is expected to
choose ids that are not in use.

## What is here

* `Node`, `ProofTree`, `ProofTree.new`, `ProofTree.seed`.
* `ProofTree.insert`, `ProofTree.modify`, `ProofTree.remove` — the changes to single entries that
  everything else is made of.
* `ProofTree.nodes`, `ProofTree.parent?`, `ProofTree.graft`, `ProofTree.setFocus`.
* `TreeError`, with `TreeError.message`.
-/

set_option autoImplicit false

namespace Sequitur

/-- Nodes are named by UUIDs. -/
abbrev NodeId := Uuid

/-! ## Nodes -/

/-- One step of a proof: a sequent, the rule applied to it, and the nodes of the premises. -/
structure Node where
  id : NodeId
  sequent : Sequent
  rule : Option Rule := none
  premises : List NodeId := []
  deriving DecidableEq

namespace Node

/-- A node as it is added: a goal to which nothing has been applied. -/
def leaf (id : NodeId) (sequent : Sequent) : Node where
  id := id
  sequent := sequent

/-- A node closed by a rule, with the nodes of its premises. -/
def close (rule : Rule) (premises : List NodeId) (n : Node) : Node :=
  { n with rule := some rule, premises := premises }

/-- A node with the rule application taken back. -/
def reopen (n : Node) : Node :=
  { n with rule := none, premises := [] }

/-- A node is open when it has neither a rule nor premises. -/
def isOpen (n : Node) : Bool :=
  n.rule.isNone && n.premises.isEmpty

theorem isOpen_iff {n : Node} : n.isOpen = true ↔ n.rule = none ∧ n.premises = [] := by
  simp [isOpen]

end Node

/-! ## Errors -/

/-- Why an operation on a tree, or the restoration of one, is refused. -/
inductive TreeError where
  | nodeNotFound (id : NodeId)
  | alreadyClosed (id : NodeId) (rule : Rule)
  | missingRoot (id : NodeId)
  | duplicateNode (id : NodeId)
  | danglingPremise (id premise : NodeId)
  | disconnected (id : NodeId)
  deriving DecidableEq

/-- The error in words. -/
def TreeError.message : TreeError → String
  | nodeNotFound id => "node " ++ toString id ++ " does not exist"
  | alreadyClosed id r => "node " ++ toString id ++ " is already closed by " ++ r.name
  | missingRoot id => "snapshot does not contain root node " ++ toString id
  | duplicateNode id => "snapshot contains node " ++ toString id ++ " more than once"
  | danglingPremise id p =>
    "node " ++ toString id ++ " references unknown premiss " ++ toString p
  | disconnected id => "node " ++ toString id ++ " is not connected to the root"

/-! ## Trees -/

/-- The nodes of a proof by their ids and the order in which they were added, with the root, the
focus and the revision, which counts the changes of structure. -/
structure ProofTree where
  root : NodeId
  find? : NodeId → Option Node
  order : List NodeId
  focus : NodeId
  revision : Nat

namespace ProofTree

/-! ## Entries -/

/-- A tree without nodes, not even at its root. -/
def empty (root : NodeId) : ProofTree where
  root := root
  find? _ := none
  order := []
  focus := root
  revision := 0

/-- A node stored under its id and put last in the order. -/
def insert (t : ProofTree) (n : Node) : ProofTree :=
  { t with
    find? := fun id ↦ if id = n.id then some n else t.find? id
    order := t.order ++ [n.id] }

/-- The node of an id replaced by its image. -/
def modify (t : ProofTree) (id : NodeId) (f : Node → Node) : ProofTree :=
  { t with find? := fun i ↦ if i = id then (t.find? i).map f else t.find? i }

/-- The nodes of some ids taken out of the collection and out of the order. -/
def remove (t : ProofTree) (ids : List NodeId) : ProofTree :=
  { t with
    find? := fun id ↦ if id ∈ ids then none else t.find? id
    order := t.order.filter fun id ↦ id ∉ ids }

/-! ## Starting -/

/-- The tree emptied and started again with another goal at the same root. -/
def seed (t : ProofTree) (goal : Sequent) : ProofTree :=
  { (empty t.root).insert (.leaf t.root goal) with revision := t.revision + 1 }

/-- A tree that holds nothing but the goal at its root. -/
def new (root : NodeId) (goal : Sequent) : ProofTree :=
  (empty root).seed goal

/-- The tree of a list of nodes, added one after the other. -/
def ofNodes (root : NodeId) (nodes : List Node) : ProofTree :=
  { nodes.foldl insert (empty root) with revision := 1 }

/-! ## Looking up -/

/-- The nodes in the order in which they were added. -/
def nodes (t : ProofTree) : List Node :=
  t.order.filterMap t.find?

/-- How many nodes there are. -/
def size (t : ProofTree) : Nat :=
  t.order.length

/-- Whether there is a node of this id. -/
def contains (t : ProofTree) (id : NodeId) : Bool :=
  (t.find? id).isSome

/-- The premises of the node of an id, none when there is no such node. -/
def premisesOf (t : ProofTree) (id : NodeId) : List NodeId :=
  ((t.find? id).map Node.premises).getD []

/-- The node that lists an id among its premises. -/
def parent? (t : ProofTree) (id : NodeId) : Option NodeId :=
  (t.nodes.find? fun n ↦ id ∈ n.premises).map Node.id

/-- The node of the only id that begins with a text, whatever the case of the text's ASCII
letters; nothing when no id or more than one does. -/
def resolve? (t : ProofTree) (beginning : String) : Option NodeId :=
  match t.order.filter fun id ↦ beginning.toLower.toList.isPrefixOf (toString id).toList with
  | [id] => some id
  | _ => none

/-! ## Changing -/

/-- An open node put last for each leaf. -/
def addLeaves (t : ProofTree) (leaves : List (NodeId × Sequent)) : ProofTree :=
  leaves.foldl (fun t leaf ↦ t.insert (.leaf leaf.1 leaf.2)) t

/-- The tree with a node closed by a rule and a new open node for each leaf as its premises. -/
def grafted (t : ProofTree) (target : NodeId) (rule : Rule) (leaves : List (NodeId × Sequent)) :
    ProofTree :=
  { (t.addLeaves leaves).modify target (.close rule (leaves.map Prod.fst)) with
    revision := t.revision + 1 }

/-- A rule put on a node that has none, with a new open node for each leaf. -/
def graft (t : ProofTree) (target : NodeId) (rule : Rule) (leaves : List (NodeId × Sequent)) :
    Except TreeError ProofTree :=
  match t.find? target with
  | none => .error (.nodeNotFound target)
  | some node =>
    match node.rule with
    | some existing => .error (.alreadyClosed target existing)
    | none => .ok (t.grafted target rule leaves)

/-- The view moved to a node. -/
def setFocus (t : ProofTree) (id : NodeId) : Except TreeError ProofTree :=
  if t.contains id then .ok { t with focus := id } else .error (.nodeNotFound id)

/-- The view moved back to the root. -/
def focusRoot (t : ProofTree) : ProofTree :=
  { t with focus := t.root }

end ProofTree

end Sequitur
