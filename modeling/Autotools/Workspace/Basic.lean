import Autotools.Docs.Table
import Autotools.Document.Store
import Autotools.Report.Diagnosis
import Autotools.Symbol.Statement
import Autotools.Syntax.Lookup
import Autotools.Text.Blank

/-! The workspace: the open documents and the documentation table. Requests about it always have an
answer, which is empty for URIs that are not open and positions that are not there. -/

namespace Autotools

open Syntax

/-- The open documents and the documentation table. -/
structure Workspace where
  store : Store
  docs : Table
deriving Inhabited

/-- The findings of an open document; only make files have any. -/
def Document.findings (d : Document) (fs : FileSystem) : List Finding :=
  match d.tree with
  | some tree => diagnose fs tree d.directory?
  | none => []

namespace Workspace

/-- The workspace of a table, with no document open. -/
def ofTable (docs : Table) : Workspace := ⟨.empty, docs⟩

/-- The findings of the document with a URI. -/
def findings (w : Workspace) (fs : FileSystem) (uri : String) : List Finding :=
  ((w.store.get? uri).map (·.findings fs)).getD []

/-- The workspace with a document opened. -/
def opened (w : Workspace) (parser : Parser) (uri : String) (path : Option Path) (text : String)
    (version : Int) : Workspace :=
  { w with store := w.store.opened parser uri path text version }

/-- The workspace with the text of a document replaced. -/
def changed (w : Workspace) (parser : Parser) (uri text : String) (version : Int) : Workspace :=
  { w with store := w.store.changed parser uri text version }

/-- The workspace with a document closed. -/
def closed (w : Workspace) (uri : String) : Workspace :=
  { w with store := w.store.closed uri }

/-- The workspace with another table. -/
def withDocs (w : Workspace) (docs : Table) : Workspace := { w with docs }

/-- What a request reads: the document under a URI, the trees in the order of a request about a
URI, and the table. -/
structure View where
  document? : String → Option Document
  trees : String → Scope
  docs : Table

/-- What requests read of a workspace. -/
def view (w : Workspace) : View := ⟨w.store.get?, w.store.makeTrees, w.docs⟩

@[simp] theorem document?_view (w : Workspace) : w.view.document? = w.store.get? := rfl

@[simp] theorem trees_view (w : Workspace) : w.view.trees = w.store.makeTrees := rfl

@[simp] theorem docs_view (w : Workspace) : w.view.docs = w.docs := rfl

/-- The document with a URI and its node at a position, in a make file. -/
def View.makeNode? (v : View) (uri : String) (position : Point) : Option (Document × Node) := do
  let document ← v.document? uri
  let tree ← document.tree
  let node ← tree.nodeAtPoint? position
  return (document, node)

/-- A definition shown in Markdown: its document, and the statement it belongs to. -/
def showDefinition (o : Occurrence) : String :=
  let statement := Text.trimEnd (Statement.ofNode o.node).text.toList
  "<" ++ o.uri ++ ">\n```make\n" ++ String.ofList statement ++ "\n```"

end Workspace

end Autotools
