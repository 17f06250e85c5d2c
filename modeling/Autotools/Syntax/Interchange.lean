import Autotools.Json.Basic
import Autotools.Syntax.Tree

/-! Trees as JSON, the form in which a parser hands them over. A node is an array of its name, its
flags, its bounds, the field it fills or null, and its children. -/

namespace Autotools.Syntax

/-- The tag of a node. The flags are a sum: one for a named node, two for a missing one, four for
one with an error at or below it. -/
def Tag.ofValues? (name flags start stop field : Json.Value) : Option Tag := do
  let flags ← flags.asNat?
  return {
    name := ← name.asString?
    named := flags.testBit 0
    missing := flags.testBit 1
    hasError := flags.testBit 2
    start := ← start.asNat?
    stop := ← stop.asNat?
    field := field.asString? }

namespace Tree

mutual

/-- The tree in a value. -/
def ofValue? : Json.Value → Option Tree
  | .array [name, flags, start, stop, field, .array children] => do
    let tag ← Tag.ofValues? name flags start stop field
    let children ← ofValues? children
    return .node tag children
  | _ => none

/-- The trees in several values. -/
def ofValues? : List Json.Value → Option (List Tree)
  | [] => some []
  | v :: rest => do
    let tree ← ofValue? v
    let others ← ofValues? rest
    return tree :: others

end

end Tree

end Autotools.Syntax
