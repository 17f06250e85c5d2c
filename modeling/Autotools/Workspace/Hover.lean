import Autotools.Text.Word
import Autotools.Workspace.Basic

/-! What to show for the word under the cursor. -/

namespace Autotools

open Syntax

/-- A text in Markdown, and the range of the word it is about. -/
structure Hover where
  contents : String
  range : Range
deriving DecidableEq, Inhabited, Repr

namespace Workspace

/-- The characters of an autoconf macro name. -/
def isMacroChar (c : Char) : Bool := c.isAlphanum || c == '_'

/-- Whether the words directly below a node may have a description in the table. -/
def hasBuiltins : Kind → Bool
  | .targets | .variableReference | .functionCall | .conditional | .ifeqDirective
  | .ifneqDirective | .ifdefDirective | .ifndefDirective | .elsifDirective | .elseDirective
  | .defineDirective | .undefineDirective | .includeDirective | .exportDirective
  | .unexportDirective | .overrideDirective | .privateDirective | .vpathDirective => true
  | _ => false

/-- The description of a node's own text. -/
def View.builtin? (v : View) (n : Node) : Option String :=
  if n.parentKind?.any hasBuiltins then v.docs.describe? n.text .make else none

/-- The definitions of the symbol at a node that uses one. -/
def View.definitionsOfUse (v : View) (uri : String) (n : Node) : List Occurrence :=
  let symbol := Symbol.ofNode n
  if symbol.role.isDefinition then []
  else
    match Query.ofSymbol? symbol .definitions with
    | some query => query.definitions (v.trees uri)
    | none => []

/-- A use shows the definitions of its symbol; without any, and for other nodes, the table may have
a description. -/
def View.makeHover? (v : View) (uri : String) (n : Node) : Option Hover :=
  match v.definitionsOfUse uri n with
  | [] => (v.builtin? n).map fun contents => ⟨contents, n.range⟩
  | found => some ⟨"\n".intercalate (found.map showDefinition), n.range⟩

/-- The macro name at a position of a text, and its bounds in its line. -/
def macroAt? (text : String) (position : Point) : Option (String × Nat × Nat) := do
  let line ← Text.row? text.toList position.row.toNat
  let (start, stop) ← Text.wordAround? isMacroChar line position.column.toNat
  let name ← Text.slice? line start stop
  return (String.ofList name, start, stop)

/-- A macro shows its description in the table. -/
def View.configHover? (v : View) (text : String) (position : Point) : Option Hover := do
  let (name, start, stop) ← macroAt? text position
  let contents ← v.docs.describe? name .config
  return ⟨contents, ⟨position.row, start.toUInt32⟩, ⟨position.row, stop.toUInt32⟩⟩

/-- What to show at a position of a document. -/
def View.hover? (v : View) (uri : String) (position : Point) : Option Hover :=
  match v.document? uri with
  | none => none
  | some document =>
    match document.fileType with
    | none => none
    | some .config => v.configHover? document.text position
    | some .make =>
      (v.makeNode? uri position).bind fun found => v.makeHover? found.1.uri found.2

/-- What a workspace shows at a position. -/
def hover? (w : Workspace) (uri : String) (position : Point) : Option Hover :=
  w.view.hover? uri position

end Workspace

end Autotools
