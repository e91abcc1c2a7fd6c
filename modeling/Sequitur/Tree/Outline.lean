import Sequitur.Tree.Basic

/-!
# A proof tree in the terminal

A subtree as lines of text, one per node, in the order parents first and premises from left to
right.  A line begins with the branches that lead to its node, four characters for each level, and
goes on with the short id, the sequent, the rule (or that the node is open) and a mark if the node
is in focus without being the root.

## What is here

* `ProofTree.outline`.
-/

set_option autoImplicit false

namespace Sequitur

namespace ProofTree

/-- Where a node stands among its siblings: at the top of the outline, before a later sibling, or
last. -/
inductive Position where
  | top
  | inner
  | last
  deriving DecidableEq

namespace Position

/-- The branch sign in front of a node. -/
def branch : Position → String
  | top => ""
  | inner => "├── "
  | last => "└── "

/-- What continues the branch in front of the lines below a node. -/
def continuation : Position → String
  | top => ""
  | inner => "│   "
  | last => "    "

/-- The positions of so many siblings. -/
def ofSiblings : Nat → List Position
  | 0 => []
  | n + 1 => List.replicate n inner ++ [last]

end Position

/-- The rule of a node in brackets, or that it is open. -/
def outlineTag (n : Node) : String :=
  match n.rule with
  | some r => "[" ++ r.symbol ++ "]"
  | none => "(open)"

/-- The mark of the node in focus, unless it is the root. -/
def outlineMark (t : ProofTree) (n : Node) : String :=
  if n.id = t.focus ∧ n.id ≠ t.root then "  <- focus" else ""

/-- The line of one node after its branches. -/
def outlineLine (t : ProofTree) (n : Node) : String :=
  n.id.short ++ "  " ++ n.sequent.display ++ "   " ++ outlineTag n ++ t.outlineMark n

/-- The lines of the subtree at an id, down at most `bound` nodes.  `indent` stands in front of
every line. -/
def outlineWithin (t : ProofTree) : Nat → String → Position → NodeId → List String
  | 0, _, _, _ => []
  | bound + 1, indent, position, id =>
    match t.find? id with
    | none => []
    | some n =>
      (indent ++ position.branch ++ t.outlineLine n) ::
        ((n.premises.zip (Position.ofSiblings n.premises.length)).flatMap fun p ↦
          outlineWithin t bound (indent ++ position.continuation) p.2 p.1)

/-- The lines of the subtree at an id. -/
def outlineLines (t : ProofTree) (id : NodeId) : List String :=
  t.outlineWithin t.size "" .top id

/-- The subtree at an id as text, each line ended. -/
def outline (t : ProofTree) (id : NodeId) : String :=
  String.join ((t.outlineLines id).map (· ++ "\n"))

end ProofTree

end Sequitur
