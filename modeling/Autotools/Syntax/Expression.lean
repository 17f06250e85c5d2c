import Autotools.Syntax.Node

/-! The S-expression of a tree: its named and missing nodes, with the fields they fill. -/

namespace Autotools.Syntax

namespace Tree

/-- The name of a node as an S-expression shows it. -/
def label (tag : Tag) : String :=
  if tag.missing then
    "MISSING " ++ (if tag.named then tag.name else "\"" ++ tag.name ++ "\"")
  else
    tag.name

mutual

/-- A node after `lead`, with its children. A token shows only what is below it. -/
def expression (lead : String) : Tree → String
  | .node tag children =>
    if tag.named || tag.missing then
      lead ++ "(" ++ label tag ++ expressions children ++ ")"
    else
      expressions children

/-- Nodes below another, each after a blank and the field it fills. -/
def expressions : List Tree → String
  | [] => ""
  | t :: rest =>
    expression (" " ++ (t.tag.field.map (· ++ ": ")).getD "") t ++ expressions rest

end

end Tree

/-- The S-expression of a whole tree. -/
def SyntaxTree.expression (t : SyntaxTree) : String := t.root.expression ""

end Autotools.Syntax
