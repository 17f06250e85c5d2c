import Autotools.Server.Shape.Document

/-! The shapes of the parameters of requests and notices. -/

namespace Autotools.Shape

/-! The ones that the server answers. -/

def didOpen : Shape := .record "DidOpenTextDocumentParams" [("textDocument", documentItem)]

def didChange : Shape :=
  .record "DidChangeTextDocumentParams"
    [("textDocument", versionedDocument), ("contentChanges", .listOf contentChange)]

def didClose : Shape := .record "DidCloseTextDocumentParams" [("textDocument", document)]

/-- A request about a place, whose result comes at once. -/
def atPlace : Shape := .merged [] [place, progress]

/-- A request about a place, whose result may come in parts. -/
def foundAtPlace : Shape := .merged [] [place, progress, partialResults]

/-- What made a client ask for completions. -/
def completionContext : Shape :=
  .record "CompletionContext" [("triggerKind", .signed), ("triggerCharacter", .optional .text)]

def completion : Shape :=
  .merged [("context", .optional completionContext)] [place, progress, partialResults]

def references : Shape :=
  .merged [("context", .record "ReferenceContext" [("includeDeclaration", .boolean)])]
    [place, progress, partialResults]

/-! The ones that the server knows and does not offer. -/

/-- A request about a document, whose result may come in parts. -/
def foundInDocument (fields : List (String × Shape)) : Shape :=
  .merged (("textDocument", document) :: fields) [progress, partialResults]

/-- A symbol with its place, as several requests go on from it. -/
def symbolItem (title : String) (tags : Shape) : Shape :=
  .record title [("name", .text), ("kind", .signed), ("tags", .optional tags),
    ("detail", .optional .text), ("uri", .uri), ("range", range), ("selectionRange", range),
    ("data", .optional .anything)]

def callItem : Shape := symbolItem "CallHierarchyItem" (.listOf .signed)

def typeItem : Shape := symbolItem "TypeHierarchyItem" .signed

/-- A request that goes on from an item. -/
def fromItem (item : Shape) : Shape := .merged [("item", item)] [progress, partialResults]

def documentLink : Shape :=
  .record "DocumentLink" [("range", range), ("target", .optional .uri),
    ("tooltip", .optional .text), ("data", .optional .anything)]

def codeLens : Shape :=
  .record "CodeLens"
    [("range", range), ("command", .optional command), ("data", .optional .anything)]

def inlineValue : Shape :=
  .merged [("textDocument", document), ("range", range),
    ("context", .record "InlineValueContext" [("frameId", .signed), ("stoppedLocation", range)])]
    [progress]

def inlayHints : Shape := .merged [("textDocument", document), ("range", range)] [progress]

def inlayHintPart : Shape :=
  .record "InlayHintLabelPart" [("value", .text),
    ("tooltip", .optional (documentation "InlayHintLabelPartTooltip")),
    ("location", .optional location), ("command", .optional command)]

def inlayHint : Shape :=
  .record "InlayHint" [("position", position),
    ("label", .either "InlayHintLabel" [.text, .listOf inlayHintPart]), ("kind", .optional .signed),
    ("textEdits", .optional (.listOf textEdit)),
    ("tooltip", .optional (documentation "InlayHintTooltip")),
    ("paddingLeft", .optional .boolean), ("paddingRight", .optional .boolean),
    ("data", .optional .anything)]

/-- An edit that inserts a completion, or replaces something by it. -/
def completionEdit : Shape :=
  .either "CompletionTextEdit"
    [textEdit,
     .record "InsertReplaceEdit" [("newText", .text), ("insert", range), ("replace", range)]]

def completionItem : Shape :=
  .record "CompletionItem" [("label", .text),
    ("labelDetails", .optional (.record "CompletionItemLabelDetails"
      [("detail", .optional .text), ("description", .optional .text)])),
    ("kind", .optional .signed), ("detail", .optional .text),
    ("documentation", .optional (documentation "Documentation")),
    ("deprecated", .optional .boolean), ("preselect", .optional .boolean),
    ("sortText", .optional .text), ("filterText", .optional .text),
    ("insertText", .optional .text), ("insertTextFormat", .optional .signed),
    ("insertTextMode", .optional .signed), ("textEdit", .optional completionEdit),
    ("additionalTextEdits", .optional (.listOf textEdit)), ("command", .optional command),
    ("commitCharacters", .optional (.listOf .text)), ("data", .optional .anything),
    ("tags", .optional (.listOf .signed))]

def documentDiagnostics : Shape :=
  foundInDocument [("identifier", .optional .text), ("previousResultId", .optional .text)]

def workspaceDiagnostics : Shape :=
  .merged [("identifier", .optional .text),
    ("previousResultIds", .listOf (.record "PreviousResultId" [("uri", .uri), ("value", .text)]))]
    [progress, partialResults]

def parameterInformation : Shape :=
  .record "ParameterInformation"
    [("label", .either "ParameterLabel" [.text, .pairOf .unsigned]),
     ("documentation", .optional (documentation "Documentation"))]

def signatureInformation : Shape :=
  .record "SignatureInformation"
    [("label", .text), ("documentation", .optional (documentation "Documentation")),
     ("parameters", .optional (.listOf parameterInformation)),
     ("activeParameter", .optional .unsigned)]

def signatureHelp : Shape :=
  .merged [("context", .optional (.record "SignatureHelpContext"
    [("triggerKind", .signed), ("triggerCharacter", .optional .text), ("isRetrigger", .boolean),
     ("activeSignatureHelp", .optional (.record "SignatureHelp"
       [("signatures", .listOf signatureInformation), ("activeSignature", .optional .unsigned),
        ("activeParameter", .optional .unsigned)]))]))]
    [place, progress]

def codeActions : Shape :=
  foundInDocument [("range", range),
    ("context", .record "CodeActionContext" [("diagnostics", .listOf diagnostic),
      ("only", .optional (.listOf .text)), ("triggerKind", .optional .signed)])]

def codeAction : Shape :=
  .record "CodeAction" [("title", .text), ("kind", .optional .text),
    ("diagnostics", .optional (.listOf diagnostic)), ("edit", .optional workspaceEdit),
    ("command", .optional command), ("isPreferred", .optional .boolean),
    ("disabled", .optional (.record "CodeActionDisabled" [("reason", .text)])),
    ("data", .optional .anything)]

def color : Shape :=
  .record "Color" [("red", .decimal), ("green", .decimal), ("blue", .decimal), ("alpha", .decimal)]

/-- How to format a text: some settings with names, and others that a client may add. -/
def formattingOptions : Shape :=
  .merged ([("tabSize", .unsigned), ("insertSpaces", .boolean)] ++
      flags ["trimTrailingWhitespace", "insertFinalNewline", "trimFinalNewlines"])
    [.mapOf false (.either "FormattingProperty" [.boolean, .signed, .text])]

def formatting : Shape :=
  .merged [("textDocument", document), ("options", formattingOptions)] [progress]

def rangeFormatting : Shape :=
  .merged [("textDocument", document), ("range", range), ("options", formattingOptions)] [progress]

def onTypeFormatting : Shape := .merged [("ch", .text), ("options", formattingOptions)] [place]

def rename : Shape := .merged [("newName", .text)] [place, progress]

/-- A request about a document and the moment before it is saved. -/
def willSave : Shape :=
  .record "WillSaveTextDocumentParams" [("textDocument", document), ("reason", .signed)]

def workspaceSymbols : Shape := .merged [("query", .text)] [partialResults, progress]

def workspaceSymbol : Shape :=
  .record "WorkspaceSymbol" [("name", .text), ("kind", .signed),
    ("tags", .optional (.listOf .signed)), ("containerName", .optional .text),
    ("location", .either "OneOf" [location, .record "WorkspaceLocation" [("uri", .uri)]]),
    ("data", .optional .anything)]

/-- A request about files. -/
def files (title item : String) (fields : List String) : Shape :=
  .record title [("files", .listOf (.record item (fields.map fun name => (name, .text))))]

def executeCommand : Shape :=
  .merged [("command", .text), ("arguments", .omissible (.listOf .anything))] [progress]

end Autotools.Shape
