import Sequitur.Text.Replace
import Sequitur.Tree.Basic

/-!
# Typesetting a proof

A proof as a Typst document.  Each node becomes a call of `rule`, nested as the tree is.  A rule
with a side condition gets the number of a footnote; numbers are handed out on the way down, a node
before its premises and premises from left to right, so they grow along the document.

A premise that is not in the tree is left out, so that a proof under construction can be shown.

## What is here

* `ProofTree.typesetNode` — one subtree, with its footnotes and the next free number.
* `ProofTree.typeset` — the whole document.
-/

set_option autoImplicit false

namespace Sequitur

/-- A typeset subtree: its text, its footnotes with their numbers, and the first free number. -/
structure Typesetting where
  text : String
  footnotes : List (Nat × String)
  next : Nat
  deriving DecidableEq

namespace ProofTree

/-! ## Footnotes -/

/-- The variable of the first premise whose goal is an existential. -/
def eliminatedVariable? (t : ProofTree) (n : Node) : Option Identifier :=
  n.premises.findSome? fun id ↦ (t.find? id).bind fun p ↦ p.sequent.goal.existentialVariable?

/-- The variable that the footnote of a node speaks of: for the elimination of an existential the
one eliminated, or else the one that the goal binds; for the other rules the other way round; `x`
when there is neither. -/
def footnoteVariable (t : ProofTree) (n : Node) : String :=
  let bound := n.sequent.goal.boundIdentifier?
  let eliminated := t.eliminatedVariable? n
  let found := if n.rule = some .existsElim then eliminated <|> bound else bound <|> eliminated
  (found.map Identifier.name).getD "x"

/-- A template with its places filled one after the other: the variable, then the hypotheses, then
the goal. -/
def fillFootnote (template identifier hypotheses goal : String) : String :=
  Text.replace "%%rhs%%" goal
    (Text.replace "%%lhs%%" hypotheses (Text.replace "%%identifier%%" identifier template))

/-- The footnote of a node, if its rule has one. -/
def footnote? (t : ProofTree) (n : Node) : Option String :=
  (n.rule.bind Rule.footnoteTemplate?).map fun template ↦
    fillFootnote template (t.footnoteVariable n) n.sequent.typstHypotheses n.sequent.goal.typst

/-! ## Subtrees -/

/-- The call that typesets one node, around the calls for its premises. -/
def typesetCall (n : Node) (number : Nat) (premises : List String) : String :=
  "rule(name: $" ++ ((n.rule.map (Rule.typst number)).getD "") ++ "$,$" ++
    n.sequent.typstHypotheses ++ " tack " ++ n.sequent.goal.typst ++ "$," ++
    ",\n".intercalate premises ++ ")"

/-- The typeset subtrees of a list, each numbered on from the one before: their texts, all
footnotes, and the first free number. -/
def typesetAll (typesetOne : Node → Nat → Typesetting) :
    List Node → Nat → List String × List (Nat × String) × Nat
  | [], number => ([], [], number)
  | n :: rest, number =>
    let one := typesetOne n number
    let others := typesetAll typesetOne rest one.next
    (one.text :: others.1, one.footnotes ++ others.2.1, others.2.2)

/-- The subtree at a node, footnotes numbered from `number`, down at most `bound` nodes. -/
def typesetWithin (t : ProofTree) : Nat → Node → Nat → Typesetting
  | 0, _, number => { text := "", footnotes := [], next := number }
  | bound + 1, n, number =>
    let own := match t.footnote? n with
      | some note => [(number, note)]
      | none => []
    let below := typesetAll (typesetWithin t bound) (n.premises.filterMap t.find?)
      (number + own.length)
    { text := typesetCall n number below.1
      footnotes := own ++ below.2.1
      next := below.2.2 }

/-- The subtree at a node, footnotes numbered from `number`. -/
def typesetNode (t : ProofTree) (n : Node) (number : Nat) : Typesetting :=
  t.typesetWithin t.size n number

/-! ## The document -/

/-- What every document begins with. -/
def typesetHead : String :=
  "#import \"@preview/curryst:0.5.0\": rule, prooftree\n" ++
    "#set page(fill: none, width: auto, height: auto, margin: (x: 1em, y: 1em))\n"

/-- The definition that sets notes under a rule of their own width. -/
def typesetNotesHelper : String :=
  "#let footnotes(body) = context \x7b\n" ++
    "\tpad(top: 4pt, line(length: measure(body).width, stroke: 0.5pt + black))\n" ++
    "\tbody\n" ++ "\x7d"

/-- A footnote with its number. -/
def typesetNote (note : Nat × String) : String :=
  "$\"" ++ toString note.1 ++ ":\" " ++ note.2 ++ "$"

/-- The block of notes at the end of a document; nothing without notes. -/
def typesetNotes (notes : List String) : String :=
  if notes.isEmpty then ""
  else
    "\n#set text(size: 7pt)\n" ++ typesetNotesHelper ++
      "\n#footnotes[#stack(dir: ttb, spacing: 4pt, " ++ ", ".intercalate notes ++ ")]"

/-- The subtree at an id as a complete document, followed by the freshness conditions of its sequent
and by its footnotes. -/
def typeset (t : ProofTree) (id : NodeId) : Except TreeError String :=
  match t.find? id with
  | none => .error (.nodeNotFound id)
  | some n =>
    let body := t.typesetNode n 1
    .ok (typesetHead ++ "#prooftree(" ++ body.text ++ ")" ++
      typesetNotes (n.sequent.freshness.map Freshness.typst ++ body.footnotes.map typesetNote))

end ProofTree

end Sequitur
