import Autotools.Docs.FileType
import Autotools.Files.Path
import Autotools.Syntax.Tree

/-! Documents that an editor has open. -/

namespace Autotools

open Syntax

/-- An open document: what the editor sent, where it is stored if anywhere, the type of its file,
and the tree of its text if it is a make file. -/
structure Document where
  uri : String
  text : String
  version : Int
  path : Option Path
  fileType : Option FileType
  tree : Option SyntaxTree
deriving Inhabited

namespace Document

/-- The name that tells the type of a document: its path if that is a text, or else its URI. -/
def nameOf (uri : String) (path : Option Path) : String := (path.bind (·.text?)).getD uri

/-- The document of a text. Only make files are parsed. -/
def ofText (parser : Parser) (uri : String) (path : Option Path) (text : String) (version : Int) :
    Document :=
  let fileType := FileType.detect? (nameOf uri path)
  let tree := if fileType = some .make then some (SyntaxTree.parse parser text) else none
  ⟨uri, text, version, path, fileType, tree⟩

/-- The directory in which the files that a document includes are looked for. -/
def directory? (d : Document) : Option Path := d.path.bind (·.parent?)

end Document

end Autotools
