import Autotools.Syntax.Vocabulary
import Autotools.Workspace.Hover

/-! The names that could complete the word before the cursor. -/

namespace Autotools

open Syntax

/-- What a completion stands for. -/
inductive CompletionKind where
  | functionName
  | variableName
  | directive
  | target
  | macroName
deriving DecidableEq, Inhabited, Repr

/-- A name that completes a word, with a note on what it is and its documentation. -/
structure Completion where
  label : String
  kind : CompletionKind
  detail : String
  documentation : String
deriving DecidableEq, Inhabited, Repr

namespace Completion

/-- What a name of the table stands for. -/
def builtinKind (fileType : FileType) (name : String) : CompletionKind :=
  match fileType with
  | .config => .macroName
  | .make =>
    if functions.contains name then .functionName
    else if directives.contains name then .directive
    else .variableName

/-- The note on a name of the table. -/
def builtinDetail : CompletionKind → String
  | .macroName => "macro"
  | .functionName => "builtin function"
  | .directive => "directive"
  | .variableName | .target => "builtin variable"

/-- The completion to a name of the table. -/
def ofEntry (fileType : FileType) (entry : String × String) : Completion :=
  let kind := builtinKind fileType entry.1
  ⟨entry.1, kind, builtinDetail kind, entry.2⟩

/-- What a defining node stands for, and the note on it. -/
def definedKind? : Role → Option (CompletionKind × String)
  | .variableDefinition => some (.variableName, "variable")
  | .functionDefinition => some (.functionName, "function")
  | .targetDefinition => some (.target, "target")
  | _ => none

/-- Whether a name is offered: it is not empty and does not start with a dot. -/
def isOffered (name : String) : Bool := !name.isEmpty && name.toList.head? ≠ some '.'

/-- The completion to the name that a node defines. -/
def ofDefinition? (o : Occurrence) : Option Completion :=
  let symbol := Symbol.ofNode o.node
  if isOffered symbol.name then
    (definedKind? symbol.role).map fun defined =>
      ⟨symbol.name, defined.1, defined.2, Workspace.showDefinition o⟩
  else
    none

/-- Adds the name that a node defines, unless it is there already. -/
def addDefinition (found : SortedMap Completion) (o : Occurrence) : SortedMap Completion :=
  if (definedKind? (Role.ofNode o.node)).isNone || (found.get? o.text).isSome then found
  else
    match ofDefinition? o with
    | some completion => found.insert completion.label completion
    | none => found

end Completion

namespace Workspace

/-- The characters of a word in a make file. -/
def isMakeChar (c : Char) : Bool :=
  c ≠ '$' && c ≠ '(' && c ≠ ')' && c ≠ ' ' && c ≠ '\t'

/-- The characters of a word in a file. -/
def wordChar : FileType → Char → Bool
  | .config => isMacroChar
  | .make => isMakeChar

/-- The part of a word before a position, empty if there is none. -/
def typed (fileType : FileType) (text : String) (position : Point) : List Char :=
  let column := position.column.toNat
  (do
    let line ← Text.row? text.toList position.row.toNat
    let (start, _) ← Text.wordAround? (wordChar fileType) line column
    Text.slice? line start column).getD []

/-- The names defined in the open make files, by name. The first definition of a name counts, in
the order of the trees. -/
def View.definedNames (v : View) (uri : String) : SortedMap Completion :=
  let places := (v.trees uri).flatMap fun document =>
    document.2.nodes.map fun node => (⟨document.1, node⟩ : Occurrence)
  places.foldl Completion.addDefinition .empty

/-- The names of the table that start with a text, in order. -/
def View.builtinCompletions (v : View) (fileType : FileType) (start : List Char) :
    List Completion :=
  ((v.docs.entries fileType).toList.filter fun entry => start.isPrefixOf entry.1.toList).map
    (Completion.ofEntry fileType)

/-- The defined names that start with a text and are not in the table, in order. -/
def View.definedCompletions (v : View) (uri : String) (start : List Char) : List Completion :=
  (v.definedNames uri).values.filter fun completion =>
    start.isPrefixOf completion.label.toList &&
      (v.docs.describe? completion.label .make).isNone

/-- The completions at a position: the names of the table, then for make files those of the open
documents. -/
def View.completions (v : View) (uri : String) (position : Point) : List Completion :=
  match v.document? uri with
  | none => []
  | some document =>
    match document.fileType with
    | none => []
    | some fileType =>
      let start := typed fileType document.text position
      v.builtinCompletions fileType start ++
        match fileType with
        | .config => []
        | .make => v.definedCompletions uri start

/-- The completions of a workspace at a position. -/
def completions (w : Workspace) (uri : String) (position : Point) : List Completion :=
  w.view.completions uri position

end Workspace

end Autotools
