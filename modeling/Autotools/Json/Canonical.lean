import Autotools.Json.Basic
import Autotools.SortedMap

/-! JSON values in canonical form: the members of an object stand in the order of their keys, the
last of several with one key counts, and numbers are written in one way. -/

namespace Autotools.Json

mutual

/-- The canonical form of a value. -/
def canonical : Value → Value
  | .null => .null
  | .bool b => .bool b
  | .number literal => .number (Number.canonical literal)
  | .string s => .string s
  | .array items => .array (canonicalItems items)
  | .object members => .object (SortedMap.ofList (canonicalMembers members)).toList

/-- The canonical forms of the items of an array. -/
def canonicalItems : List Value → List Value
  | [] => []
  | v :: rest => canonical v :: canonicalItems rest

/-- The members of an object with canonical values. -/
def canonicalMembers : List (String × Value) → List (String × Value)
  | [] => []
  | (key, v) :: rest => (key, canonical v) :: canonicalMembers rest

end

end Autotools.Json
