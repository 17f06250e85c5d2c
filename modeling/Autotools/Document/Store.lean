import Autotools.Document.Basic
import Autotools.SortedMap
import Autotools.Symbol.Search

/-! The open documents, each under its URI. -/

namespace Autotools

open Syntax

/-- The open documents by URI. -/
structure Store where
  documents : SortedMap Document
deriving Inhabited

namespace Store

def empty : Store := ⟨.empty⟩

/-- The open document with a URI. -/
def get? (s : Store) (uri : String) : Option Document := s.documents.get? uri

/-- The store with a document opened, in place of one with the same URI. -/
def opened (s : Store) (parser : Parser) (uri : String) (path : Option Path) (text : String)
    (version : Int) : Store :=
  ⟨s.documents.insert uri (.ofText parser uri path text version)⟩

/-- The path that a change keeps: that of the document it changes. -/
def pathOf (s : Store) (uri : String) : Option Path := (s.get? uri).bind (·.path)

/-- The store with the text of a document replaced; a document that is not open is opened. -/
def changed (s : Store) (parser : Parser) (uri text : String) (version : Int) : Store :=
  s.opened parser uri (s.pathOf uri) text version

/-- The store without a document. -/
def closed (s : Store) (uri : String) : Store := ⟨s.documents.erase uri⟩

/-- The tree of an open make file. -/
def tree? (s : Store) (uri : String) : Option SyntaxTree := (s.get? uri).bind (·.tree)

/-- The number of open documents. -/
def size (s : Store) : Nat := s.documents.size

def isEmpty (s : Store) : Bool := s.documents.isEmpty

/-- The trees of the open make files: that of `first` if it is one, then the others by URI. -/
def makeTrees (s : Store) (first : String) : Scope :=
  let own := (s.tree? first).toList.map fun tree => (first, tree)
  let others := s.documents.toList.filterMap fun entry =>
    if entry.1 = first then none else entry.2.tree.map fun tree => (entry.1, tree)
  own ++ others

@[simp] theorem get?_empty (u : String) : empty.get? u = none := rfl

@[simp] theorem get?_opened (s : Store) (parser : Parser) (uri : String) (path : Option Path)
    (text : String) (version : Int) (u : String) :
    (s.opened parser uri path text version).get? u =
      if u = uri then some (.ofText parser uri path text version) else s.get? u :=
  SortedMap.get?_insert ..

@[simp] theorem get?_closed (s : Store) (uri u : String) :
    (s.closed uri).get? u = if u = uri then none else s.get? u :=
  SortedMap.get?_erase ..

/-- Two stores with the same document under every URI are the same store. -/
theorem ext {s t : Store} (h : ∀ uri, s.get? uri = t.get? uri) : s = t := by
  cases s
  cases t
  exact congrArg Store.mk (SortedMap.ext h)

end Store

end Autotools
