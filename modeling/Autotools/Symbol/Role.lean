import Autotools.Syntax.Node

/-! What a node of a make file means: the role it plays, and the name it plays it for. -/

namespace Autotools

/-- What a node is to someone who asks for its definition or its uses. -/
inductive Role where
  /-- The name of an assignment. -/
  | variableDefinition
  /-- A variable in `$(...)`, or listed by `export`, `ifdef` and the like. -/
  | variableReference
  /-- The name of a `define` block. -/
  | functionDefinition
  /-- The argument text of a function call, such as the callee of `$(call name,...)`. -/
  | functionCall
  /-- The target of a rule. -/
  | targetDefinition
  /-- The prerequisite of a rule. -/
  | targetReference
  /-- The file that an `include` directive names. -/
  | pathLiteral
  /-- Nothing that could be looked up. -/
  | other
deriving DecidableEq, Inhabited, Repr

/-- The three separate spaces of names in a make file. -/
inductive Family where
  | variables
  | functions
  | targets
deriving DecidableEq, Inhabited, Repr

namespace Role

/-- The space of names that a role belongs to; paths and other nodes belong to none. -/
def family? : Role → Option Family
  | .variableDefinition | .variableReference => some .variables
  | .functionDefinition | .functionCall => some .functions
  | .targetDefinition | .targetReference => some .targets
  | .pathLiteral | .other => none

/-- Whether a role defines its name. -/
def isDefinition : Role → Bool
  | .variableDefinition | .functionDefinition | .targetDefinition => true
  | _ => false

end Role

namespace Family

/-- The role that defines a name of a family. -/
def definition : Family → Role
  | .variables => .variableDefinition
  | .functions => .functionDefinition
  | .targets => .targetDefinition

/-- The role that uses a name of a family. -/
def reference : Family → Role
  | .variables => .variableReference
  | .functions => .functionCall
  | .targets => .targetReference

end Family

open Syntax

/-- The role of a word, told by the field it fills and the kinds of the two nodes above it. Only the
`name` field of an assignment defines a variable, so the targets of `foo: CFLAGS += -g` are neither
definitions nor targets of a rule. -/
def Role.ofWord (n : Node) : Role :=
  match n.parentKind? with
  | some .variableAssignment | some .shellAssignment =>
    if n.field? = some "name" then .variableDefinition else .other
  | some .defineDirective => if n.field? = some "name" then .functionDefinition else .other
  | some .targets => .targetDefinition
  | some .prerequisites => .targetReference
  | some .variableReference | some .ifdefDirective | some .ifndefDirective
  | some .undefineDirective => .variableReference
  | some .substitutionReference => if n.field? = some "text" then .variableReference else .other
  | some .list =>
    match n.grandparentKind? with
    | some .exportDirective | some .unexportDirective => .variableReference
    | some .includeDirective => .pathLiteral
    | _ => .other
  | _ => .other

/-- The role of a node. A missing node has none. -/
def Role.ofNode (n : Node) : Role :=
  if n.isMissing then .other
  else match n.kind with
    | .word => Role.ofWord n
    | .text => if n.parentKind? = some .arguments then .functionCall else .other
    | _ => .other

/-- A name and the role in which it stands. -/
structure Symbol where
  name : String
  role : Role
deriving DecidableEq, Inhabited, Repr

namespace Symbol

/-- The parts of a text between its commas. -/
def segments (text : String) : List String := (text.toList.splitOn ',').map String.ofList

/-- The symbol at a node. A call is named by the first segment of its argument text, every other
node by its whole text. -/
def ofNode (n : Node) : Symbol :=
  match Role.ofNode n with
  | .functionCall => ⟨(segments n.text).headD "", .functionCall⟩
  | role => ⟨n.text, role⟩

end Symbol

end Autotools
