import Autotools.Text.Line
import Autotools.Syntax.Kind

/-! Syntax trees of make files. A tree comes from a parser, which is a parameter of the library: any
function from closed source texts to trees. -/

namespace Autotools.Syntax

/-- What a node says of itself: its name in the grammar, whether the grammar names it or it is a
token, whether it stands for something expected that was not there, whether there is an error at or
below it, its byte bounds in the source, and the field it fills in its parent. -/
structure Tag where
  name : String
  named : Bool
  missing : Bool
  hasError : Bool
  start : Nat
  stop : Nat
  field : Option String
deriving DecidableEq, Inhabited, Repr

/-- A tree of nodes, the children in document order with the tokens among them. -/
inductive Tree where
  | node (tag : Tag) (children : List Tree)
deriving Repr

namespace Tree

def tag : Tree → Tag
  | .node tag _ => tag

def children : Tree → List Tree
  | .node _ children => children

instance : Inhabited Tree := ⟨.node default []⟩

def kind (t : Tree) : Kind := Kind.ofGrammar t.tag.name t.tag.named

/-- Whether a node may stand under a cursor at an offset: it is there, and its bounds, both counted,
hold the offset. -/
def covers (t : Tree) (offset : Nat) : Bool :=
  !t.tag.missing && t.tag.start ≤ offset && offset ≤ t.tag.stop

mutual

/-- The number of nodes of a tree. -/
def size : Tree → Nat
  | .node _ children => 1 + sizeAll children

/-- The number of nodes of several trees. -/
def sizeAll : List Tree → Nat
  | [] => 0
  | t :: rest => size t + sizeAll rest

end

end Tree

/-- A parser gives the tree of every closed source text; errors are nodes of the tree. -/
abbrev Parser := String → Tree

/-- A source text with the tree a parser gave for it. -/
structure SyntaxTree where
  source : String
  root : Tree
deriving Inhabited

/-- A text as it is handed to a parser: closed by a newline unless it is empty. -/
def closedSource (text : String) : String := String.ofList (Text.closed text.toList)

/-- The tree of a text. -/
def SyntaxTree.parse (parser : Parser) (text : String) : SyntaxTree :=
  ⟨closedSource text, parser (closedSource text)⟩

end Autotools.Syntax
