/-! The two kinds of files that are understood, told by their names. -/

namespace Autotools

/-- Input of autoconf, or of make. -/
inductive FileType where
  | config
  | make
deriving DecidableEq, Inhabited, Repr

namespace FileType

def name : FileType → String
  | .config => "config"
  | .make => "make"

/-- The type with a name. -/
def ofName? : String → Option FileType
  | "config" => some .config
  | "make" => some .make
  | _ => none

/-- The last segment of a path or URI, of which a query and a fragment are no part. -/
def baseName (path : List Char) : List Char :=
  let bare := path.takeWhile fun c => c ≠ '?' && c ≠ '#'
  (bare.reverse.takeWhile fun c => c ≠ '/' && c ≠ '\\').reverse

/-- The names of make files up to the first dot. -/
def makeStems : List String := ["Makefile", "makefile", "GNUmakefile"]

/-- Whether a file name has the extension `mk`. -/
def hasMakeExtension (base : List Char) : Bool :=
  base.contains '.' && (base.reverse.takeWhile (· ≠ '.')).reverse == "mk".toList

/-- The type of a file name. -/
def ofBaseName? (base : List Char) : Option FileType :=
  if base = "configure.ac".toList then some .config
  else if makeStems.contains (String.ofList (base.takeWhile (· ≠ '.'))) || hasMakeExtension base
  then some .make
  else none

/-- The type of the file that a path or URI names. -/
def detect? (path : String) : Option FileType := ofBaseName? (baseName path.toList)

end FileType

end Autotools
