import Autotools.Docs.FileType
import Autotools.SortedMap

/-! The documentation table: descriptions of the names that come with autoconf and make. -/

namespace Autotools

/-- Descriptions in Markdown by name, for each type of file. -/
structure Table where
  config : SortedMap String
  make : SortedMap String
deriving Inhabited, Repr

namespace Table

def empty : Table := ⟨.empty, .empty⟩

/-- The descriptions for a type of file, in the order of their names. -/
def entries (t : Table) : FileType → SortedMap String
  | .config => t.config
  | .make => t.make

/-- Changes the descriptions for a type of file. -/
def update (t : Table) (fileType : FileType) (f : SortedMap String → SortedMap String) : Table :=
  match fileType with
  | .config => { t with config := f t.config }
  | .make => { t with make := f t.make }

/-- Adds or replaces a description. -/
def insert (t : Table) (fileType : FileType) (name description : String) : Table :=
  t.update fileType (·.insert name description)

/-- Adds or replaces several descriptions. -/
def extend (t : Table) (fileType : FileType) (entries : SortedMap String) : Table :=
  t.update fileType (·.insertAll entries.toList)

/-- The description of a name. -/
def describe? (t : Table) (name : String) (fileType : FileType) : Option String :=
  (t.entries fileType).get? name

/-- The number of descriptions for a type of file. -/
def size (t : Table) (fileType : FileType) : Nat := (t.entries fileType).size

def isEmpty (t : Table) : Bool := t.config.isEmpty && t.make.isEmpty

end Table

end Autotools
