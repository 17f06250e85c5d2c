import Autotools.Files.System
import Autotools.Report.Finding
import Autotools.Symbol.Shadow

/-! The checks of a make file: what is missing, what does not parse, which included files are not
there, and which targets are repeated. -/

namespace Autotools

open Syntax

namespace Diagnosis

/-- What to say of a missing node. Names with a leading underscore are the grammar's own. -/
def missingLabel (name : String) : String :=
  if name.toList.head? = some '_' then "something is missing here"
  else "expected `" ++ name ++ "`"

/-- The nodes that were expected and are not there. -/
def missing (t : SyntaxTree) : List Finding :=
  (t.nodes.filter (·.isMissing)).map fun n =>
    .atNode .error n "syntax error: missing token." (missingLabel n.name)

/-- The input that could not be parsed. -/
def unparsed (t : SyntaxTree) : List Finding :=
  (t.nodes.filter (·.isError)).map fun n =>
    .atNode .error n "syntax error." "could not parse this"

/-- Whether a path belongs to a directive that insists on its files: `include`, but neither
`-include` nor `sinclude`. -/
def isRequired (n : Node) : Bool :=
  match n.parent?.bind (·.parent?) with
  | some directive => (directive.child? 0).any (·.text == "include")
  | none => false

/-- The paths that a tree requires to be files. -/
def requiredPaths (t : SyntaxTree) : List Node :=
  t.nodes.filter fun n => Role.ofNode n == .pathLiteral && isRequired n

/-- The required files that are not in a directory. -/
def unresolved (fs : FileSystem) (directory : Path) (t : SyntaxTree) : List Finding :=
  ((requiredPaths t).filter fun n => !fs.isFile (directory.join n.text)).map fun n =>
    .atNode .error n (n.text ++ ": no such file") "not found next to this file"

/-- The targets that a later rule takes over. -/
def repeated (t : SyntaxTree) : List Finding :=
  (Shadowed.ofTree t).map fun s =>
    let place := s.definition.range.start
    .atNode .warning s.node (s.node.text ++ ": is repeated on " ++ place.display)
      ("overridden by the rule on line " ++ toString (place.row + 1))

end Diagnosis

/-- All findings of a tree. Included files are looked for in a directory; without one, as for a
buffer that was never saved, they are not looked for. -/
def diagnose (fs : FileSystem) (t : SyntaxTree) (directory : Option Path) : List Finding :=
  Diagnosis.missing t ++ Diagnosis.unparsed t ++
    (directory.map fun d => Diagnosis.unresolved fs d t).getD [] ++ Diagnosis.repeated t

end Autotools
