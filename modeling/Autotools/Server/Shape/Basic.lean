import Autotools.Json.Basic
import Autotools.Server.Shape.Complaint
import Autotools.Server.Uri.Basic

/-! The shapes of what a client may send. A value is read in a shape: an array that gives the fields
of a record one after the other becomes the object it stands for, and a value that does not have the
shape is refused with a complaint. -/

namespace Autotools

open Json (Value)

/-- The shape of a value. -/
inductive Shape where
  /-- Any value. -/
  | anything
  | boolean
  | text
  /-- A number of 32 bits without sign. -/
  | unsigned
  /-- A number of 32 bits with sign. -/
  | signed
  /-- Any number. -/
  | decimal
  | uri
  /-- One of some words, alone or as the only key of an object with null under it. -/
  | word (names : List String)
  /-- Null, or a value of a shape. In an object the member may be absent. -/
  | optional (s : Shape)
  /-- A value of a shape, which may be absent in an object and at the end of an array. -/
  | omissible (s : Shape)
  /-- Null, a truth value, or a value of a shape. -/
  | flagOr (s : Shape)
  | listOf (s : Shape)
  | pairOf (s : Shape)
  /-- An object with values of one shape under keys that are texts, or URIs. -/
  | mapOf (uriKeys : Bool) (s : Shape)
  /-- A value of the first of several shapes that it has. -/
  | either (title : String) (choices : List Shape)
  /-- An object with fields, or an array of all fields in their order. -/
  | record (title : String) (fields : List (String × Shape))
  /-- An object with fields of its own and those of several parts. -/
  | merged (fields : List (String × Shape)) (parts : List Shape)
deriving Inhabited

namespace Shape

/-- Whether a field of a shape must be there. -/
def isRequired : Shape → Bool
  | .optional _ | .omissible _ => false
  | _ => true

/-- A number within bounds. -/
def readWhole (low high : Int) : Value → Except Complaint Value
  | .number literal =>
    match Json.Number.whole? literal with
    | some n => if low ≤ n && n ≤ high then .ok (.number literal) else .error .invalidValue
    | none => .error .invalidType
  | _ => .error .invalidType

def readUri (s : String) : Except Complaint Value :=
  match Uri.parse s with
  | .ok _ => .ok (.string s)
  | .error cause => .error (.badUri cause)

/-- One of some words. -/
def readWord (names : List String) (name : String) : Except Complaint Value :=
  if names.contains name then .ok (.string name) else .error (.unknownWord name names)

/-- What the fields of an object give, from what was read for those that are there. Of several
complaints the one about the first member counts, and fields that are absent come last. -/
def settle (fields : List (String × Shape)) (members : List (String × Value))
    (found : List (String × Except Complaint Value)) :
    Except Complaint (List (String × Value)) :=
  let complaint? (member : String × Value) : Option Complaint :=
    match found.lookup member.1 with
    | some (.error complaint) => some complaint
    | _ => none
  match members.findSome? complaint? with
  | some complaint => .error complaint
  | none =>
    match fields.find? fun f => f.2.isRequired && (found.lookup f.1).isNone with
    | some f => .error (.missingField f.1)
    | none => .ok (found.filterMap fun f => f.2.toOption.map fun v => (f.1, v))

/-- The complaint about an array with more items than there are fields. A value that was kept aside
to be tried in several ways is told apart from one that is read at once. -/
def excess (aside : Bool) (given taken : Nat) : Complaint :=
  if aside then .unread given taken else .tooLong given

mutual

/-- A value in a shape. -/
def read (aside : Bool) : Shape → Value → Except Complaint Value
  | .anything, v => .ok v
  | .boolean, .bool b => .ok (.bool b)
  | .text, .string s => .ok (.string s)
  | .unsigned, v => readWhole 0 4294967295 v
  | .signed, v => readWhole (-2147483648) 2147483647 v
  | .decimal, .number literal => .ok (.number literal)
  | .uri, .string s => readUri s
  | .word names, .string name => readWord names name
  | .word names, .object [(name, v)] =>
    match readWord names name, v with
    | .error complaint, _ => .error complaint
    | .ok found, .null => .ok found
    | .ok _, _ => .error .invalidType
  | .word _, .object _ => .error .invalidValue
  | .optional _, .null => .ok .null
  | .optional s, v => read aside s v
  | .omissible s, v => read aside s v
  | .flagOr _, .null => .ok .null
  | .flagOr _, .bool b => .ok (.bool b)
  | .flagOr s, v => read false s v
  | .listOf s, .array items => (items.mapM (read aside s)).map .array
  | .pairOf s, .array [a, b] => do return .array [← read aside s a, ← read aside s b]
  | .mapOf uriKeys s, .object members => do
    let readMember (member : String × Value) : Except Complaint (String × Value) := do
      if uriKeys then let _ ← readUri member.1
      return (member.1, ← read aside s member.2)
    return .object (← members.mapM readMember)
  | .either title choices, v => readFirst title choices v
  | .record _ fields, .object members =>
    (settle fields members (readMembers aside fields members)).map .object
  | .record title fields, .array items =>
    if fields.length < items.length then
      match readItems aside title fields.length 0 fields items with
      | .ok _ => .error (excess aside items.length fields.length)
      | .error complaint => .error complaint
    else (readItems aside title fields.length 0 fields items).map .object
  | .merged fields parts, .object members => do
    let own ← settle fields members (readMembers aside fields members)
    let others := members.filter fun member => !fields.any (·.1 == member.1)
    return .object (own ++ (← readParts parts (.object others)))
  | _, _ => .error .invalidType

/-- What is read for the fields that are there. -/
def readMembers (aside : Bool) :
    List (String × Shape) → List (String × Value) → List (String × Except Complaint Value)
  | [], _ => []
  | (name, s) :: fields, members =>
    match members.lookup name with
    | some v => (name, read aside s v) :: readMembers aside fields members
    | none => readMembers aside fields members

/-- The fields of a record of some size, from a place in an array on. -/
def readItems (aside : Bool) (title : String) (size : Nat) :
    Nat → List (String × Shape) → List Value → Except Complaint (List (String × Value))
  | _, [], _ => .ok []
  | place, (name, s) :: fields, v :: items => do
    let first ← read aside s v
    let others ← readItems aside title size (place + 1) fields items
    return (name, first) :: others
  | place, (_, .omissible _) :: fields, [] =>
    readItems aside title size (place + 1) fields []
  | place, _ :: _, [] => .error (.tooShort place title size)

/-- The members that the parts of a merged record take. -/
def readParts : List Shape → Value → Except Complaint (List (String × Value))
  | [], _ => .ok []
  | part :: parts, v => do
    let first ← read true part v
    let others ← readParts parts v
    match first with
    | .object members => return members ++ others
    | _ => return others

/-- A value in the first of several shapes that it has. -/
def readFirst (title : String) : List Shape → Value → Except Complaint Value
  | [], _ => .error (.noAlternative title)
  | s :: choices, v =>
    match read true s v with
    | .ok found => .ok found
    | .error _ => readFirst title choices v

end

/-- A value that a client sent, in a shape. -/
def ofValue (s : Shape) (v : Value) : Except Complaint Value := s.read false v

end Shape

end Autotools
