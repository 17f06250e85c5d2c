import Autotools.Docs.Builtin.Config
import Autotools.Docs.Builtin.Make
import Autotools.Docs.Table

/-! The documentation table that comes with the library. -/

namespace Autotools

/-- The table that needs no file. -/
def Table.builtin : Table := ⟨.ofList Builtin.config, .ofList Builtin.make⟩

end Autotools
