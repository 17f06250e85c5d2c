import Autotools.Json.Number

/-! JSON values. The texts in a value are a parameter: a value that was read may hold texts that are
not well-formed, one that is written holds strings. -/

namespace Autotools

/-- A JSON value with texts of type `σ`. Numbers are kept as they are written, and objects keep
their members in order, with repetitions. -/
inductive Json (σ : Type) where
  | null
  | bool (b : Bool)
  | number (literal : String)
  | string (s : σ)
  | array (items : List (Json σ))
  | object (members : List (σ × Json σ))
deriving Inhabited, Repr

namespace Json

/-- A value whose texts are strings. -/
abbrev Value := Json String

/-- A whole number. -/
def int (n : Int) : Value := .number (toString n)

def nat (n : Nat) : Value := .number (toString n)

/-- A value, or null for none. -/
def ofOption (v : Option Value) : Value := v.getD .null

/-- The member of an object with a key, the last one of several. -/
def member? (v : Value) (key : String) : Option Value :=
  match v with
  | .object members => members.reverse.lookup key
  | _ => none

/-- A member that is there and not null. -/
def present? (v : Value) (key : String) : Option Value :=
  match v.member? key with
  | some .null => none
  | found => found

def asString? : Value → Option String
  | .string s => some s
  | _ => none

def asItems? : Value → Option (List Value)
  | .array items => some items
  | _ => none

def asBool? : Value → Option Bool
  | .bool b => some b
  | _ => none

/-- The whole number that a value is. -/
def asInt? : Value → Option Int
  | .number literal => Number.whole? literal
  | _ => none

/-- The number without sign that a value is. -/
def asNat? (v : Value) : Option Nat :=
  match v.asInt? with
  | some (.ofNat n) => some n
  | _ => none

mutual

/-- A value whose texts are all well-formed. -/
def strict : Json (Option String) → Option Value
  | .null => some .null
  | .bool b => some (.bool b)
  | .number literal => some (.number literal)
  | .string s => s.map .string
  | .array items => (strictItems items).map .array
  | .object members => (strictMembers members).map .object

/-- The items of an array whose texts are all well-formed. -/
def strictItems : List (Json (Option String)) → Option (List Value)
  | [] => some []
  | v :: rest => do
    let v ← strict v
    let rest ← strictItems rest
    return v :: rest

/-- The members of an object whose texts are all well-formed. -/
def strictMembers : List (Option String × Json (Option String)) → Option (List (String × Value))
  | [] => some []
  | (key, v) :: rest => do
    let key ← key
    let v ← strict v
    let rest ← strictMembers rest
    return (key, v) :: rest

end

end Json

end Autotools
