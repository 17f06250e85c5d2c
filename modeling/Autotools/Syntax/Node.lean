import Autotools.Position
import Autotools.Syntax.Tree

/-! Nodes of a syntax tree. A node is a place in a tree: the tree below it and the steps that lead
down to it, so that its parent, its index and its ancestors can be read off. -/

namespace Autotools.Syntax

/-- A step down the tree: the parent that was left and the index of the child that was entered. -/
structure Step where
  parent : Tree
  index : Nat
deriving Inhabited

/-- A place in the tree of a source text, with the last step down to it first. -/
structure Node where
  source : String
  tree : Tree
  trail : List Step
deriving Inhabited

namespace Node

def tag (n : Node) : Tag := n.tree.tag

def kind (n : Node) : Kind := n.tree.kind

/-- The grammar's name of a node, for a token its own text. -/
def name (n : Node) : String := n.tag.name

def isNamed (n : Node) : Bool := n.tag.named

def isMissing (n : Node) : Bool := n.tag.missing

/-- Whether a node holds input that could not be parsed. -/
def isError (n : Node) : Bool := n.isNamed && n.name == "ERROR"

def hasError (n : Node) : Bool := n.tag.hasError

def start (n : Node) : Nat := n.tag.start

def stop (n : Node) : Nat := n.tag.stop

/-- What a missing node stands for. -/
def missingText? (n : Node) : Option String := if n.isMissing then some n.name else none

/-- The source text of a node. -/
def text (n : Node) : String :=
  String.ofList ((Text.slice? n.source.toList n.start n.stop).getD [])

/-- The rows and columns of a node. -/
def range (n : Node) : Range := Position.rangeAt n.source.toList n.start n.stop

def parent? (n : Node) : Option Node :=
  match n.trail with
  | [] => none
  | step :: trail => some ⟨n.source, step.parent, trail⟩

/-- The place of a node among its parent's children. -/
def index? (n : Node) : Option Nat := n.trail.head?.map (·.index)

/-- The field that a node fills in its parent. -/
def field? (n : Node) : Option String :=
  match n.trail with
  | [] => none
  | _ :: _ => n.tag.field

/-- The node one step down, at a tree with an index among the children. -/
def below (n : Node) (index : Nat) (tree : Tree) : Node :=
  ⟨n.source, tree, ⟨n.tree, index⟩ :: n.trail⟩

/-- The children in document order, tokens included. -/
def children (n : Node) : List Node := n.tree.children.mapIdx n.below

def child? (n : Node) (index : Nat) : Option Node := n.children[index]?

def namedChildren (n : Node) : List Node := n.children.filter (·.isNamed)

/-- The first child that fills a field. -/
def childByField? (n : Node) (field : String) : Option Node :=
  n.children.find? (·.field? == some field)

/-- The nodes above a place of which a trail leads down, the nearest first. -/
def above (source : String) : List Step → List Node
  | [] => []
  | step :: trail => ⟨source, step.parent, trail⟩ :: above source trail

/-- The parent, its parent, and so on to the root. -/
def ancestors (n : Node) : List Node := above n.source n.trail

def parentKind? (n : Node) : Option Kind := n.parent?.map (·.kind)

def grandparentKind? (n : Node) : Option Kind := n.parent?.bind (·.parentKind?)

mutual

/-- The nodes of a tree in pre-order, for a tree to which a trail leads. -/
def walk (source : String) (trail : List Step) : Tree → List Node
  | .node tag children =>
    ⟨source, .node tag children, trail⟩ ::
      walkAll source (.node tag children) trail 0 children

/-- The walks of the children of a parent, from the child with an index on. -/
def walkAll (source : String) (parent : Tree) (trail : List Step) (index : Nat) :
    List Tree → List Node
  | [] => []
  | t :: rest =>
    walk source (⟨parent, index⟩ :: trail) t ++ walkAll source parent trail (index + 1) rest

end

/-- A node and everything below it, in pre-order. -/
def descendants (n : Node) : List Node := walk n.source n.trail n.tree

end Node

namespace SyntaxTree

def rootNode (t : SyntaxTree) : Node := ⟨t.source, t.root, []⟩

/-- Every node in pre-order, the root first. -/
def nodes (t : SyntaxTree) : List Node := t.rootNode.descendants

/-- The number of nodes. -/
def size (t : SyntaxTree) : Nat := t.nodes.length

/-- Whether the tree is only a root. -/
def isEmpty (t : SyntaxTree) : Bool := t.root.children.isEmpty

end SyntaxTree

end Autotools.Syntax
