import Autotools.Command.Check
import Autotools.Command.GenerateSchema
import Autotools.Command.Line
import Autotools.Docs.Artifact
import Autotools.Docs.Builtin
import Autotools.Docs.Builtin.Config
import Autotools.Docs.Builtin.Make
import Autotools.Docs.Error
import Autotools.Docs.FileType
import Autotools.Docs.Manual
import Autotools.Docs.Schema
import Autotools.Docs.Source
import Autotools.Docs.Table
import Autotools.Document.Basic
import Autotools.Document.Store
import Autotools.Files.Path
import Autotools.Files.System
import Autotools.Gzip.Bits
import Autotools.Gzip.Checksum
import Autotools.Gzip.Failure
import Autotools.Gzip.Huffman
import Autotools.Gzip.Inflate
import Autotools.Gzip.Member
import Autotools.Json.Basic
import Autotools.Json.Canonical
import Autotools.Json.Number
import Autotools.Json.Parser
import Autotools.Json.Printer
import Autotools.Json.Text
import Autotools.Main
import Autotools.Number.Binary64
import Autotools.Number.Shortest
import Autotools.Position
import Autotools.Proofs.Document.History
import Autotools.Proofs.Document.MakeTrees
import Autotools.Proofs.Files.Resolve
import Autotools.Proofs.Report.Agreement
import Autotools.Proofs.Server.Publication
import Autotools.Proofs.Symbol.Effective
import Autotools.Proofs.Syntax.Walk
import Autotools.Proofs.Workspace.Definition
import Autotools.Proofs.Workspace.Reachable
import Autotools.Report.Diagnosis
import Autotools.Report.Finding
import Autotools.Report.Terminal
import Autotools.Server.Config
import Autotools.Server.Message
import Autotools.Server.Method
import Autotools.Server.Session
import Autotools.Server.Shape.Basic
import Autotools.Server.Shape.Client
import Autotools.Server.Shape.Complaint
import Autotools.Server.Shape.Document
import Autotools.Server.Shape.Request
import Autotools.Server.Uri.Basic
import Autotools.Server.Uri.File
import Autotools.Server.Uri.Host
import Autotools.SortedMap
import Autotools.Symbol.Role
import Autotools.Symbol.Search
import Autotools.Symbol.Shadow
import Autotools.Symbol.Statement
import Autotools.Syntax.Expression
import Autotools.Syntax.Interchange
import Autotools.Syntax.Kind
import Autotools.Syntax.Lookup
import Autotools.Syntax.Node
import Autotools.Syntax.Tree
import Autotools.Syntax.Vocabulary
import Autotools.Text.Blank
import Autotools.Text.Bytes
import Autotools.Text.Line
import Autotools.Text.Utf8
import Autotools.Text.Width
import Autotools.Text.Word
import Autotools.Workspace.Basic
import Autotools.Workspace.Completion
import Autotools.Workspace.Hover
import Autotools.Workspace.Navigation
import Autotools.Proofs.Docs.Artifact
import Autotools.Proofs.Files.Write
import Autotools.Proofs.Docs.Cache
import Autotools.Proofs.Workspace.Order
import Autotools.Proofs.Symbol.Converse
import Autotools.Proofs.Symbol.Statement
import Autotools.Proofs.Workspace.References
import Autotools.Proofs.Workspace.Hover
import Autotools.Proofs.Workspace.Outside
import Autotools.Proofs.Report.Header
import Autotools.Proofs.Server.Introduction
import Autotools.Proofs.Server.SortText
import Autotools.Proofs.Command.Verdict
import Autotools.Proofs.Document.Detection
import Autotools.Proofs.Docs.ManualChoice
import Autotools.Proofs.Docs.Names
import Autotools.Proofs.Docs.Schema
import Autotools.Proofs.Docs.Sections
import Autotools.Proofs.Workspace.Inclusion
import Autotools.Proofs.Text.Rows
import Autotools.Proofs.Position.Inverse
import Autotools.Proofs.Symbol.Occurrences
import Autotools.Proofs.Symbol.Shadowing
import Autotools.Proofs.Text.Words
import Autotools.Proofs.Workspace.Completion
import Autotools.Proofs.Workspace.Scope
import Autotools.Proofs.Workspace.Words
import Autotools.Proofs.Position.Source
import Autotools.Proofs.Text.Blank
import Autotools.Proofs.Docs.Paragraphs
import Autotools.Proofs.Syntax.Traversal
