import Sequitur.Backend.Basic
import Sequitur.Backend.Connection
import Sequitur.Backend.Http
import Sequitur.Backend.Json
import Sequitur.Backend.Message
import Sequitur.Console.Basic
import Sequitur.Console.Command
import Sequitur.Console.Words
import Sequitur.Dialogue
import Sequitur.Distinct
import Sequitur.Double.Shortest
import Sequitur.Exercise.Basic
import Sequitur.Exercise.Catalog
import Sequitur.Exercise.Json
import Sequitur.Formula.Basic
import Sequitur.Formula.Display
import Sequitur.Formula.Json
import Sequitur.Formula.Order
import Sequitur.Formula.Placeholders
import Sequitur.Json.Basic
import Sequitur.Json.Decoder
import Sequitur.Json.Double
import Sequitur.Json.Printer
import Sequitur.Json.Reader
import Sequitur.Main
import Sequitur.Program.Arguments
import Sequitur.Program.Basic
import Sequitur.Program.Effect
import Sequitur.Program.Error
import Sequitur.Program.Switch
import Sequitur.Proofs.Dialogue
import Sequitur.Proofs.Json.Coding
import Sequitur.Proofs.Json.Decoding
import Sequitur.Proofs.Json.Reordering
import Sequitur.Proofs.Json.Spelling
import Sequitur.Proofs.Json.Token
import Sequitur.Proofs.Session.Completion
import Sequitur.Proofs.Session.Move
import Sequitur.Proofs.Session.Operation
import Sequitur.Proofs.Session.Run
import Sequitur.Proofs.Store.Directory
import Sequitur.Proofs.Store.Operation
import Sequitur.Proofs.Tree.Ancestry
import Sequitur.Proofs.Tree.Change
import Sequitur.Proofs.Tree.Completion
import Sequitur.Proofs.Tree.Growth
import Sequitur.Proofs.Tree.History
import Sequitur.Proofs.Tree.Pending
import Sequitur.Proofs.Tree.Snapshot
import Sequitur.Proofs.Tree.Walk
import Sequitur.Proofs.Uuid
import Sequitur.Rule.Basic
import Sequitur.Rule.Bindings
import Sequitur.Rule.Json
import Sequitur.Rule.Schema
import Sequitur.Sequent.Basic
import Sequitur.Sequent.Json
import Sequitur.Session.Basic
import Sequitur.Session.Candidates
import Sequitur.Session.Question
import Sequitur.Store.Directory
import Sequitur.Store.FileTree
import Sequitur.Store.Operation
import Sequitur.Store.Progress
import Sequitur.Text.Blank
import Sequitur.Text.CodeTable
import Sequitur.Text.Composed
import Sequitur.Text.Decimal
import Sequitur.Text.Direction
import Sequitur.Text.Hex
import Sequitur.Text.Joining
import Sequitur.Text.Mark
import Sequitur.Text.Replace
import Sequitur.Text.Split
import Sequitur.Text.Symbol
import Sequitur.Tree.Basic
import Sequitur.Tree.Delete
import Sequitur.Tree.Json
import Sequitur.Tree.Outline
import Sequitur.Tree.Pending
import Sequitur.Tree.Snapshot
import Sequitur.Tree.Typeset
import Sequitur.Tree.Walk
import Sequitur.Url.Basic
import Sequitur.Url.Domain
import Sequitur.Url.Domain.Folding
import Sequitur.Url.Domain.Label
import Sequitur.Url.Host
import Sequitur.Url.Path
import Sequitur.Url.Percent
import Sequitur.Url.Punycode
import Sequitur.Url.Resolve
import Sequitur.Uuid
import Sequitur.Proofs.Action
import Sequitur.Proofs.Distinct
import Sequitur.Proofs.Rule.Bindings
import Sequitur.Proofs.Tree.Renaming
import Sequitur.Proofs.Tree.Restore
import Sequitur.Proofs.Tree.Resume
import Sequitur.Proofs.Tree.Confluence
import Sequitur.Proofs.Tree.Undo
import Sequitur.Proofs.Tree.Deletion
import Sequitur.Proofs.Tree.Report
import Sequitur.Proofs.Formula.Json
import Sequitur.Proofs.Rule.Json
import Sequitur.Proofs.Tree.Json
import Sequitur.Proofs.Exercise.Json
import Sequitur.Proofs.Wire
import Sequitur.Proofs.Tree.Depth
import Sequitur.Proofs.Session.Saved
import Sequitur.Proofs.Session.Application
import Sequitur.Proofs.Session.Answer
import Sequitur.Proofs.Console.Failure
import Sequitur.Proofs.Console.Application
import Sequitur.Proofs.Program.Effect
import Sequitur.Proofs.Program.Run
import Sequitur.Proofs.Program.Response
import Sequitur.Proofs.Program.Rating
import Sequitur.Proofs.Store.Refinement
import Sequitur.Proofs.Store.Rating
import Sequitur.Proofs.Formula.Reading
import Sequitur.Proofs.Tree.OpenGoals
import Sequitur.Proofs.Tree.Footnotes
import Sequitur.Proofs.Rule.Picking
import Sequitur.Proofs.Store.LastProof
import Sequitur.Proofs.Console.Words
import Sequitur.Proofs.Store.Saving
import Sequitur.Proofs.Text.Replace
import Sequitur.Proofs.Tree.FootnoteText
import Sequitur.Proofs.Tree.Outline
import Sequitur.Proofs.Rule.Occurrence
import Sequitur.Proofs.Formula.Placeholders
import Sequitur.Proofs.Session.Candidates
import Sequitur.Proofs.Session.Reference
import Sequitur.Proofs.Double.Order
import Sequitur.Proofs.Exercise.Catalog
import Sequitur.Proofs.Tree.Descent
import Sequitur.Proofs.Tree.Recursion
