import Autotools.Files.System

/-! Why documentation cannot be had. -/

namespace Autotools

/-- A failure to find, read or write documentation. -/
inductive DocsError where
  | read (path : Path) (cause : FileError)
  | write (path : Path) (cause : FileError)
  | artifact (path : Path)
  | manualNotFound (name : String) (searched : List Path)
  | noCacheDirectory
  | unknownFileType (name : String)
  | unknownSource (name : String)
deriving DecidableEq, Inhabited, Repr

/-- The wording of a failure. -/
def DocsError.message : DocsError → String
  | .read path cause => "cannot read " ++ path.display ++ ": " ++ cause.message
  | .write path cause => "cannot write " ++ path.display ++ ": " ++ cause.message
  | .artifact path => "invalid documentation artifact " ++ path.display
  | .manualNotFound name searched =>
    "manual " ++ name ++ " not found in " ++ ":".intercalate (searched.map (·.display))
  | .noCacheDirectory => "no cache directory available on this system"
  | .unknownFileType name => "unknown file type: \"" ++ name ++ "\" (expected config or make)"
  | .unknownSource name =>
    "unknown documentation source: \"" ++ name ++ "\" (expected builtin, cache or system)"

end Autotools
