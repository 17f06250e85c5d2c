import Autotools.Json.Basic
import Autotools.Json.Text

/-! Writing JSON, without spaces or with one item on a line. -/

namespace Autotools.Json

mutual

/-- A value without spaces. -/
def compact : Value → List Char
  | .null => "null".toList
  | .bool true => "true".toList
  | .bool false => "false".toList
  | .number literal => literal.toList
  | .string s => quote s
  | .array [] => "[]".toList
  | .array (v :: rest) => '[' :: (compact v ++ compactItems rest ++ [']'])
  | .object [] => ['\x7b', '\x7d']
  | .object ((key, v) :: rest) =>
    '\x7b' :: (quote key ++ ':' :: compact v ++ compactMembers rest ++ ['\x7d'])

/-- The items after the first. -/
def compactItems : List Value → List Char
  | [] => []
  | v :: rest => ',' :: (compact v ++ compactItems rest)

/-- The members after the first. -/
def compactMembers : List (String × Value) → List Char
  | [] => []
  | (key, v) :: rest => ',' :: (quote key ++ ':' :: compact v ++ compactMembers rest)

end

/-- The start of a line at a depth. -/
def newLine (indent depth : Nat) : List Char := '\n' :: List.replicate (indent * depth) ' '

mutual

/-- A value at a depth, with every item and member on a line of its own. -/
def pretty (indent depth : Nat) : Value → List Char
  | .null => "null".toList
  | .bool true => "true".toList
  | .bool false => "false".toList
  | .number literal => literal.toList
  | .string s => quote s
  | .array [] => "[]".toList
  | .array (v :: rest) =>
    '[' :: (newLine indent (depth + 1) ++ pretty indent (depth + 1) v
      ++ prettyItems indent (depth + 1) rest ++ newLine indent depth ++ [']'])
  | .object [] => ['\x7b', '\x7d']
  | .object ((key, v) :: rest) =>
    '\x7b' :: (newLine indent (depth + 1) ++ quote key ++ ':' :: ' '
      :: pretty indent (depth + 1) v ++ prettyMembers indent (depth + 1) rest
      ++ newLine indent depth ++ ['\x7d'])

/-- The items after the first. -/
def prettyItems (indent depth : Nat) : List Value → List Char
  | [] => []
  | v :: rest =>
    ',' :: (newLine indent depth ++ pretty indent depth v ++ prettyItems indent depth rest)

/-- The members after the first. -/
def prettyMembers (indent depth : Nat) : List (String × Value) → List Char
  | [] => []
  | (key, v) :: rest =>
    ',' :: (newLine indent depth ++ quote key ++ ':' :: ' ' :: pretty indent depth v
      ++ prettyMembers indent depth rest)

end

/-- The text of a value without spaces. -/
def render (v : Value) : String := String.ofList v.compact

/-- The text of a value over lines, with `indent` spaces for every level. -/
def renderPretty (v : Value) (indent : Nat) : String := String.ofList (v.pretty indent 0)

end Autotools.Json
