import Autotools.Docs.Schema
import Autotools.Docs.Source

/-! The command that prints the schema of the documented names. -/

namespace Autotools.GenerateSchema

/-- The text that is printed, from the table of a file or a source. -/
def run (env : Environment) (fs : FileSystem) (fileType : FileType) (indent : Nat)
    (source : DocsSource) (documentation : Option Path) :
    FileSystem × Except DocsError String :=
  match Docs.load env fs source documentation with
  | (fs, .error e) => (fs, .error e)
  | (fs, .ok table) => (fs, .ok (Schema.render table fileType indent ++ "\n"))

end Autotools.GenerateSchema
