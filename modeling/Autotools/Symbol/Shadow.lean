import Autotools.Symbol.Role

/-! Targets that a later rule takes over. -/

namespace Autotools

open Syntax

/-- A target of a rule, and the target of the later rule that is in effect instead. -/
structure Shadowed where
  node : Node
  definition : Node
deriving Inhabited

namespace Shadowed

/-- The names that rules may repeat start with a dot, like `.PHONY`. -/
def mayRepeat (name : String) : Bool := name.toList.head? = some '.'

/-- The targets of the rules of a tree with their names, in document order. -/
def targets (t : SyntaxTree) : List (String × Node) :=
  (t.nodes.filter (Role.ofNode · == .targetDefinition)).map fun n => (n.text, n)

/-- What is known of the targets after some place: the one in effect for every name, and the
shadowed ones in document order. -/
structure Later where
  effective : List (String × Node)
  shadowed : List Shadowed
deriving Inhabited

/-- Takes one more target in front: the first target met from the end is in effect for its name, and
every further one is shadowed by it. -/
def Later.before (target : String × Node) (later : Later) : Later :=
  match later.effective.lookup target.1 with
  | some definition =>
    if mayRepeat target.1 then later
    else { later with shadowed := ⟨target.2, definition⟩ :: later.shadowed }
  | none => { later with effective := target :: later.effective }

/-- The shadowed targets of a tree, in document order. -/
def ofTree (t : SyntaxTree) : List Shadowed :=
  ((targets t).foldr Later.before ⟨[], []⟩).shadowed

end Shadowed

end Autotools
