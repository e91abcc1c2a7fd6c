import Sequitur.Rule.Json
import Sequitur.Tree.Snapshot

/-!
# Nodes and reports in JSON

A node of a tree under construction is written with all its fields, the rule `null` while it is
open; its rule and premises may be missing when it is read.  A node of a complete proof has a rule.
-/

set_option autoImplicit false

namespace Sequitur

namespace Uuid

/-- The JSON form of an id. -/
def toJson (u : Uuid) : Json :=
  .text (toString u)

end Uuid

namespace Node

/-- The JSON form of a node. -/
def toJson (n : Node) : Json :=
  .record [("name", n.id.toJson), ("statement", n.sequent.toJson),
    ("rule", .orNull (n.rule.map Rule.toJson)), ("premisses", .list Uuid.toJson n.premises)]

/-- A node from its JSON form. -/
def decode? : Decoder Node :=
  Json.enter fun room j ↦ do
    let fields ← Json.fields? ["name", "statement", "rule", "premisses"] j
    some {
      id := ← Json.required? fields "name" (Json.uuid? room)
      sequent := ← Json.required? fields "statement" (Sequent.decode? room)
      rule := ← Json.optional? fields "rule" (Json.nullable? Rule.decode? room) none
      premises := ← Json.optional? fields "premisses" (Json.list? Json.uuid? room) [] }

end Node

namespace ClosedNode

/-- The JSON form of a node of a complete proof. -/
def toJson (n : ClosedNode) : Json :=
  .record [("name", n.id.toJson), ("statement", n.sequent.toJson), ("rule", n.rule.toJson),
    ("premisses", .list Uuid.toJson n.premises)]

/-- A node of a complete proof from its JSON form. -/
def decode? : Decoder ClosedNode :=
  Json.enter fun room j ↦ do
    let fields ← Json.fields? ["name", "statement", "rule", "premisses"] j
    some {
      id := ← Json.required? fields "name" (Json.uuid? room)
      sequent := ← Json.required? fields "statement" (Sequent.decode? room)
      rule := ← Json.required? fields "rule" (Rule.decode? room)
      premises := ← Json.required? fields "premisses" (Json.list? Json.uuid? room) }

end ClosedNode

namespace TreeReport

/-- The JSON form of a report. -/
def toJson (r : TreeReport) : Json :=
  .record [("root_id", r.root.toJson), ("nodes", .list ClosedNode.toJson r.nodes)]

/-- A report from its JSON form. -/
def decode? : Decoder TreeReport :=
  Json.enter fun room j ↦ do
    let fields ← Json.fields? ["root_id", "nodes"] j
    some {
      root := ← Json.required? fields "root_id" (Json.uuid? room)
      nodes := ← Json.required? fields "nodes" (Json.list? ClosedNode.decode? room) }

end TreeReport

end Sequitur
