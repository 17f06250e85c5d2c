import Autotools.Workspace.Basic

/-! From a symbol to the places where it is defined and used. -/

namespace Autotools

open Syntax

/-- An open document, or a file that need not be open. -/
inductive Place where
  | document (uri : String)
  | file (path : Path)
deriving DecidableEq, Inhabited, Repr

/-- A range in a document or file. -/
structure Location where
  place : Place
  range : Range
deriving DecidableEq, Inhabited, Repr

/-- Where an occurrence is. -/
def Occurrence.location (o : Occurrence) : Location := ⟨.document o.uri, o.range⟩

namespace Workspace

/-- The file that a path in a document names, if there is one. -/
def includedFile? (fs : FileSystem) (document : Document) (text : String) : Option Location :=
  ((document.directory?.map (·.join text)).filter fs.isFile).map fun path =>
    ⟨.file path, .origin⟩

/-- Where the symbol at a position is defined; an included path is defined by its file. -/
def View.definition (v : View) (fs : FileSystem) (uri : String) (position : Point) :
    List Location :=
  match v.makeNode? uri position with
  | none => []
  | some (document, node) =>
    let symbol := Symbol.ofNode node
    if symbol.role = .pathLiteral then (includedFile? fs document symbol.name).toList
    else
      match Query.ofSymbol? symbol .definitions with
      | none => []
      | some query => (query.definitions (v.trees uri)).map (·.location)

/-- Every use of the symbol at a position, after its definitions if they are wanted too. -/
def View.references (v : View) (uri : String) (position : Point) (withDefinitions : Bool) :
    List Location :=
  match v.makeNode? uri position with
  | none => []
  | some (_, node) =>
    let scope := v.trees uri
    let symbol := Symbol.ofNode node
    let found (search : Search) : List Occurrence :=
      match Query.ofSymbol? symbol search with
      | some query => query.findAll scope
      | none => []
    ((if withDefinitions then found .definitions else []) ++ found .references).map (·.location)

/-- Where a workspace has the definitions of the symbol at a position. -/
def definition (w : Workspace) (fs : FileSystem) (uri : String) (position : Point) :
    List Location :=
  w.view.definition fs uri position

/-- Where a workspace has the uses of the symbol at a position. -/
def references (w : Workspace) (uri : String) (position : Point) (withDefinitions : Bool) :
    List Location :=
  w.view.references uri position withDefinitions

end Workspace

end Autotools
