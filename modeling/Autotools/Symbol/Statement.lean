import Autotools.Symbol.Role

/-! The statement that a definition belongs to. -/

namespace Autotools

open Syntax

namespace Statement

/-- The directives that stand in front of an assignment and belong to it. -/
def isWrapper : Kind → Bool
  | .exportDirective | .overrideDirective | .privateDirective => true
  | _ => false

/-- The rule of a target, or the assignment or block of a name. -/
def base (n : Node) : Node :=
  match n.parent? with
  | none => n
  | some parent => if parent.kind = .targets then parent.parent?.getD parent else parent

/-- The whole statement that a defining node belongs to, with a directive that wraps it. -/
def ofNode (n : Node) : Node :=
  match (base n).parent? with
  | some directive => if isWrapper directive.kind then directive else base n
  | none => base n

end Statement

end Autotools
