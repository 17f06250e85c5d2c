import Autotools.Docs.Table
import Autotools.Json.Parser
import Autotools.Json.Printer

/-! The artifact: a documentation table as a JSON text. -/

namespace Autotools.Artifact

/-- The descriptions for one type of file as an object. -/
def sectionValue (entries : SortedMap String) : Json.Value :=
  .object (entries.toList.map fun entry => (entry.1, .string entry.2))

/-- A table as a value. -/
def value (t : Table) : Json.Value :=
  .object [("config", sectionValue t.config), ("make", sectionValue t.make)]

/-- A table as a text. -/
def render (t : Table) : String := (value t).render

/-- The descriptions in an object, whose members must all be texts. -/
def section? : Json (Option String) → Option (SortedMap String)
  | .object members => do
    let entries ← members.mapM fun member =>
      match member with
      | (some name, .string (some description)) => some (name, description)
      | _ => none
    return .ofList entries
  | _ => none

/-- The section under a key. It may be absent, and must not be repeated. -/
def sectionAt? (members : List (String × Json (Option String))) (key : String) :
    Option (SortedMap String) :=
  match members.filter (·.1 == key) with
  | [] => some .empty
  | [(_, v)] => section? v
  | _ => none

/-- The table of a value: an object with a section for each type of file, or an array of the two
sections in order. Other members of the object are skipped. -/
def ofValue? : Json (Option String) → Option Table
  | .object members => do
    let members ← members.mapM fun member => member.1.map fun key => (key, member.2)
    let config ← sectionAt? members "config"
    let make ← sectionAt? members "make"
    return ⟨config, make⟩
  | .array [] => some .empty
  | .array [config] => do return ⟨← section? config, .empty⟩
  | .array [config, make] => do return ⟨← section? config, ← section? make⟩
  | _ => none

/-- The table that a text holds. -/
def read? (text : String) : Option Table := (Json.parse? text).bind ofValue?

end Autotools.Artifact
