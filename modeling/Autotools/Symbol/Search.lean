import Autotools.Symbol.Role

/-! Search for the places of a name. A query is matched against every node of the documents in its
scope, document by document and in pre-order. -/

namespace Autotools

open Syntax

/-- Which places of a name are wanted. -/
inductive Search where
  | definitions
  | references
deriving DecidableEq, Inhabited, Repr

/-- A name in a family, and which of its places are wanted. -/
structure Query where
  name : String
  family : Family
  search : Search
deriving DecidableEq, Inhabited, Repr

/-- The documents a query runs over, each under its URI. -/
abbrev Scope := List (String × SyntaxTree)

/-- A node that a query found, and the document it is in. -/
structure Occurrence where
  uri : String
  node : Node
deriving Inhabited

namespace Query

/-- The query for the definitions, or the uses, of a symbol; paths and other nodes make none. -/
def ofSymbol? (symbol : Symbol) (search : Search) : Option Query :=
  symbol.role.family?.map fun family => ⟨symbol.name, family, search⟩

/-- The role of the places that a query wants. -/
def role (q : Query) : Role :=
  match q.search with
  | .definitions => q.family.definition
  | .references => q.family.reference

/-- Whether a node is a place that a query wants. A call is a use of every segment of its argument
text, since arguments of nested calls run together. -/
def wants (q : Query) (n : Node) : Bool :=
  Role.ofNode n == q.role &&
    match q.role with
    | .functionCall => (Symbol.segments n.text).contains q.name
    | _ => n.text == q.name

/-- Every place that a query wants, in the order of its scope. -/
def findAll (q : Query) (scope : Scope) : List Occurrence :=
  scope.flatMap fun document =>
    (document.2.nodes.filter q.wants).map fun node => ⟨document.1, node⟩

/-- The first place that a query wants. -/
def findFirst? (q : Query) (scope : Scope) : Option Occurrence :=
  scope.findSome? fun document =>
    (document.2.nodes.find? q.wants).map fun node => ⟨document.1, node⟩

/-- The definition in effect moved to the front: of several rules for a target the last one counts,
so the last place in the document of the first place comes first. -/
def effectiveFirst : List Occurrence → List Occurrence
  | [] => []
  | first :: rest =>
    let elsewhere (o : Occurrence) : Bool := o.uri != first.uri
    let found := (first :: rest).reverse
    match found.dropWhile elsewhere with
    | [] => first :: rest
    | last :: earlier => last :: earlier.reverse ++ (found.takeWhile elsewhere).reverse

/-- The definitions of a query's name, for a target the one in effect first. -/
def definitions (q : Query) (scope : Scope) : List Occurrence :=
  let found := { q with search := .definitions }.findAll scope
  match q.family with
  | .targets => effectiveFirst found
  | _ => found

end Query

namespace Occurrence

def range (o : Occurrence) : Range := o.node.range

def text (o : Occurrence) : String := o.node.text

end Occurrence

end Autotools
