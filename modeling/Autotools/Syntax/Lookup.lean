import Autotools.Syntax.Node

/-! The node under a cursor. -/

namespace Autotools.Syntax

namespace Node

mutual

/-- The deepest node under an offset: a step goes to the first named child that covers the offset,
or to the first token that does when no named child does. -/
def locate (source : String) (offset : Nat) (trail : List Step) : Tree → Node
  | .node tag children =>
    (locateIn source offset true (.node tag children) trail 0 children
      <|> locateIn source offset false (.node tag children) trail 0 children).getD
      ⟨source, .node tag children, trail⟩

/-- The deepest node under an offset in the first child that covers it and is named, or is a token,
as asked. -/
def locateIn (source : String) (offset : Nat) (named : Bool) (parent : Tree) (trail : List Step)
    (index : Nat) : List Tree → Option Node
  | [] => none
  | t :: rest =>
    if t.covers offset && t.tag.named == named then
      some (locate source offset (⟨parent, index⟩ :: trail) t)
    else
      locateIn source offset named parent trail (index + 1) rest

end

end Node

namespace SyntaxTree

/-- The node at a byte offset; there is none past the end of the root. -/
def nodeAt? (t : SyntaxTree) (offset : Nat) : Option Node :=
  if offset > t.root.tag.stop then none
  else some (Node.locate t.source offset [] t.root)

/-- The node at a row and column. -/
def nodeAtPoint? (t : SyntaxTree) (p : Point) : Option Node :=
  (Position.offsetAt? t.source.toList p).bind t.nodeAt?

end SyntaxTree

end Autotools.Syntax
