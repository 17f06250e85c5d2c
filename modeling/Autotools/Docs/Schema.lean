import Autotools.Docs.Table
import Autotools.Json.Printer

/-! The JSON schema of the documented names. -/

namespace Autotools.Schema

/-- The names of a type of file as properties, each with its description. -/
def properties (t : Table) (fileType : FileType) : Json.Value :=
  .object ((t.entries fileType).toList.map fun entry =>
    (entry.1, .object [("description", .string entry.2)]))

/-- The schema of the names of a type of file. -/
def value (t : Table) (fileType : FileType) : Json.Value :=
  .object [
    ("$comment", .string ("Don't edit this file directly! It is generated by "
      ++ "`atls generate-schema " ++ fileType.name ++ "`.")),
    ("$id", .string ("urn:atls:schema:" ++ fileType.name)),
    ("$schema", .string "http://json-schema.org/draft-07/schema#"),
    ("properties", properties t fileType),
    ("type", .string "object")]

/-- The schema as a text. -/
def render (t : Table) (fileType : FileType) (indent : Nat) : String :=
  (value t fileType).renderPretty indent

end Autotools.Schema
