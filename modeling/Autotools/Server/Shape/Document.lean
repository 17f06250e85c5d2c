import Autotools.Server.Shape.Basic

/-! The shapes of positions, documents and edits, of which requests are made up. -/

namespace Autotools.Shape

def position : Shape := .record "Position" [("line", .unsigned), ("character", .unsigned)]

def range : Shape := .record "Range" [("start", position), ("end", position)]

def location : Shape := .record "Location" [("uri", .uri), ("range", range)]

/-- A document by its URI. -/
def document : Shape := .record "TextDocumentIdentifier" [("uri", .uri)]

/-- A document at a version. -/
def versionedDocument : Shape :=
  .record "VersionedTextDocumentIdentifier" [("uri", .uri), ("version", .signed)]

/-- A document with its text. -/
def documentItem : Shape :=
  .record "TextDocumentItem"
    [("uri", .uri), ("languageId", .text), ("version", .signed), ("text", .text)]

/-- A change of a document. -/
def contentChange : Shape :=
  .record "TextDocumentContentChangeEvent"
    [("range", .optional range), ("rangeLength", .optional .unsigned), ("text", .text)]

/-- A position in a document. -/
def place : Shape :=
  .record "TextDocumentPositionParams" [("textDocument", document), ("position", position)]

/-- A name that a client gives to work under way. -/
def token : Shape := .either "NumberOrString" [.signed, .text]

/-- The part of a request that asks for its progress. -/
def progress : Shape := .record "WorkDoneProgressParams" [("workDoneToken", .optional token)]

/-- The part of a request that asks for results as they come. -/
def partialResults : Shape :=
  .record "PartialResultParams" [("partialResultToken", .optional token)]

/-- Fields that are optional truth values. -/
def flags (names : List String) : List (String × Shape) :=
  names.map fun name => (name, .optional .boolean)

/-- A command of the server that a client can run. -/
def command : Shape :=
  .record "Command"
    [("title", .text), ("command", .text), ("arguments", .optional (.listOf .anything))]

/-- The kinds of marked-up text. -/
def markupKind : Shape := .word ["plaintext", "markdown"]

def markup : Shape := .record "MarkupContent" [("kind", markupKind), ("value", .text)]

/-- A text, or marked-up text. -/
def documentation (title : String) : Shape := .either title [.text, markup]

def textEdit : Shape := .record "TextEdit" [("range", range), ("newText", .text)]

/-- An edit that says why it is made. -/
def annotatedEdit : Shape := .merged [("annotationId", .text)] [textEdit]

/-- The edits of one document. -/
def documentEdit : Shape :=
  .record "TextDocumentEdit"
    [("textDocument", .record "OptionalVersionedTextDocumentIdentifier"
      [("uri", .uri), ("version", .optional .signed)]),
     ("edits", .listOf (.either "OneOf" [textEdit, annotatedEdit]))]

/-- A file that is made. -/
def createFile : Shape :=
  .record "CreateFile" [("kind", .word ["create"]), ("uri", .uri),
    ("options", .optional (.record "CreateFileOptions" (flags ["overwrite", "ignoreIfExists"]))),
    ("annotationId", .optional .text)]

/-- A file that gets another name. -/
def renameFile : Shape :=
  .record "RenameFile" [("kind", .word ["rename"]), ("oldUri", .uri), ("newUri", .uri),
    ("options", .optional (.record "RenameFileOptions" (flags ["overwrite", "ignoreIfExists"]))),
    ("annotationId", .optional .text)]

/-- A file that is removed. -/
def deleteFile : Shape :=
  .record "DeleteFile" [("kind", .word ["delete"]), ("uri", .uri),
    ("options", .optional (.record "DeleteFileOptions"
      (flags ["recursive", "ignoreIfNotExists"] ++ [("annotationId", .optional .text)])))]

/-- The edits of a workspace. -/
def workspaceEdit : Shape :=
  .record "WorkspaceEdit"
    [("changes", .omissible (.optional (.mapOf true (.listOf textEdit)))),
     ("documentChanges", .optional (.either "DocumentChanges"
       [.listOf documentEdit,
        .listOf (.either "DocumentChangeOperation"
          [.either "ResourceOp" [createFile, renameFile, deleteFile], documentEdit])])),
     ("changeAnnotations", .optional (.mapOf false (.record "ChangeAnnotation"
       [("label", .text), ("needsConfirmation", .optional .boolean),
        ("description", .optional .text)])))]

/-- A finding that a client sends back. -/
def diagnostic : Shape :=
  .record "Diagnostic"
    [("range", range), ("severity", .optional .signed), ("code", .optional token),
     ("codeDescription", .optional (.record "CodeDescription" [("href", .uri)])),
     ("source", .optional .text), ("message", .text),
     ("relatedInformation", .optional (.listOf (.record "DiagnosticRelatedInformation"
       [("location", location), ("message", .text)]))),
     ("tags", .optional (.listOf .signed)), ("data", .optional .anything)]

end Autotools.Shape
