import Autotools.Server.Shape.Client
import Autotools.Server.Shape.Request

/-! The methods that the server knows by name: those that it serves, and those of which it only
knows how they are asked for. -/

namespace Autotools

/-- What the server does for a client. -/
inductive Service where
  | introduce
  | acknowledge
  | shutdown
  | didOpen
  | didChange
  | didClose
  | hover
  | completion
  | definition
  | references
deriving DecidableEq, Inhabited, Repr

/-- A method: its name, whether it belongs to notices, the shape of its parameters if it takes any,
and what is done for it if anything is. -/
structure Method where
  name : String
  isNotice : Bool
  params : Option Shape
  service : Option Service
deriving Inhabited

namespace Method

/-- The methods that the server serves. -/
def served : List Method :=
  [⟨"initialize", false, some Shape.introduction, some .introduce⟩,
   ⟨"initialized", true, some Shape.acknowledgement, some .acknowledge⟩,
   ⟨"shutdown", false, none, some .shutdown⟩,
   ⟨"textDocument/didOpen", true, some Shape.didOpen, some .didOpen⟩,
   ⟨"textDocument/didChange", true, some Shape.didChange, some .didChange⟩,
   ⟨"textDocument/didClose", true, some Shape.didClose, some .didClose⟩,
   ⟨"textDocument/hover", false, some Shape.atPlace, some .hover⟩,
   ⟨"textDocument/completion", false, some Shape.completion, some .completion⟩,
   ⟨"textDocument/definition", false, some Shape.foundAtPlace, some .definition⟩,
   ⟨"textDocument/references", false, some Shape.references, some .references⟩]

/-- The notices that the server takes without doing anything. -/
def ignored : List String :=
  ["textDocument/willSave", "textDocument/didSave", "workspace/didChangeConfiguration",
   "workspace/didChangeWorkspaceFolders", "workspace/didCreateFiles", "workspace/didRenameFiles",
   "workspace/didDeleteFiles", "workspace/didChangeWatchedFiles"]

/-- The requests about documents that the server does not offer. -/
def declinedForDocuments : List (String × Shape) :=
  [("textDocument/willSaveWaitUntil", Shape.willSave),
   ("textDocument/declaration", Shape.foundAtPlace),
   ("textDocument/typeDefinition", Shape.foundAtPlace),
   ("textDocument/implementation", Shape.foundAtPlace),
   ("textDocument/prepareCallHierarchy", Shape.atPlace),
   ("callHierarchy/incomingCalls", Shape.fromItem Shape.callItem),
   ("callHierarchy/outgoingCalls", Shape.fromItem Shape.callItem),
   ("textDocument/prepareTypeHierarchy", Shape.atPlace),
   ("typeHierarchy/supertypes", Shape.fromItem Shape.typeItem),
   ("typeHierarchy/subtypes", Shape.fromItem Shape.typeItem),
   ("textDocument/documentHighlight", Shape.foundAtPlace),
   ("textDocument/documentLink", Shape.foundInDocument []),
   ("documentLink/resolve", Shape.documentLink),
   ("textDocument/codeLens", Shape.foundInDocument []),
   ("codeLens/resolve", Shape.codeLens),
   ("textDocument/foldingRange", Shape.foundInDocument []),
   ("textDocument/selectionRange",
     Shape.foundInDocument [("positions", .listOf Shape.position)]),
   ("textDocument/documentSymbol", Shape.foundInDocument []),
   ("textDocument/semanticTokens/full", Shape.foundInDocument []),
   ("textDocument/semanticTokens/full/delta",
     Shape.foundInDocument [("previousResultId", .text)]),
   ("textDocument/semanticTokens/range", Shape.foundInDocument [("range", Shape.range)]),
   ("textDocument/inlineValue", Shape.inlineValue),
   ("textDocument/inlayHint", Shape.inlayHints),
   ("inlayHint/resolve", Shape.inlayHint),
   ("textDocument/moniker", Shape.foundAtPlace),
   ("completionItem/resolve", Shape.completionItem),
   ("textDocument/diagnostic", Shape.documentDiagnostics),
   ("textDocument/signatureHelp", Shape.signatureHelp),
   ("textDocument/codeAction", Shape.codeActions),
   ("codeAction/resolve", Shape.codeAction),
   ("textDocument/documentColor", Shape.foundInDocument []),
   ("textDocument/colorPresentation",
     Shape.foundInDocument [("color", Shape.color), ("range", Shape.range)]),
   ("textDocument/formatting", Shape.formatting),
   ("textDocument/rangeFormatting", Shape.rangeFormatting),
   ("textDocument/onTypeFormatting", Shape.onTypeFormatting),
   ("textDocument/rename", Shape.rename),
   ("textDocument/prepareRename", Shape.place),
   ("textDocument/linkedEditingRange", Shape.atPlace)]

/-- The requests about the workspace that the server does not offer. -/
def declinedForWorkspace : List (String × Shape) :=
  [("workspace/diagnostic", Shape.workspaceDiagnostics),
   ("workspace/symbol", Shape.workspaceSymbols),
   ("workspaceSymbol/resolve", Shape.workspaceSymbol),
   ("workspace/willCreateFiles", Shape.files "CreateFilesParams" "FileCreate" ["uri"]),
   ("workspace/willRenameFiles",
     Shape.files "RenameFilesParams" "FileRename" ["oldUri", "newUri"]),
   ("workspace/willDeleteFiles", Shape.files "DeleteFilesParams" "FileDelete" ["uri"]),
   ("workspace/executeCommand", Shape.executeCommand)]

/-- The methods that the server knows. -/
def all : List Method :=
  served ++ ignored.map (fun name => ⟨name, true, some .anything, none⟩) ++
    (declinedForDocuments ++ declinedForWorkspace).map fun m => ⟨m.1, false, some m.2, none⟩

/-- The method with a name. -/
def find? (name : String) : Option Method := all.find? (·.name = name)

end Method

end Autotools
