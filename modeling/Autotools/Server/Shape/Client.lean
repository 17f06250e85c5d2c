import Autotools.Server.Shape.Document

/-! The shape of the first request of a client, in which it tells what it can do. -/

namespace Autotools.Shape

/-- A record of optional truth values. -/
def flagRecord (title : String) (names : List String) : Shape := .record title (flags names)

/-- An ability that can be asked for later. -/
def dynamic : Shape := flagRecord "DynamicRegistrationClientCapabilities" ["dynamicRegistration"]

/-- An ability to go to a place. -/
def goto : Shape := flagRecord "GotoCapability" ["dynamicRegistration", "linkSupport"]

/-- An ability to be told that something is out of date. -/
def refreshed (title : String) : Shape := flagRecord title ["refreshSupport"]

/-- The properties that may be filled in later. -/
def resolved (title : String) : Shape := .record title [("properties", .listOf .text)]

/-- The values of a kind that a client knows. -/
def valueSet (title : String) (s : Shape) : Shape :=
  .record title [("valueSet", .optional (.listOf s))]

/-- The tags that a client knows; formerly only whether it knows any. -/
def tagSupport : Shape :=
  .omissible (.flagOr (.record "TagSupport" [("valueSet", .listOf .signed)]))

def workspaceEditAbility : Shape :=
  .record "WorkspaceEditClientCapabilities" [("documentChanges", .optional .boolean),
    ("resourceOperations", .optional (.listOf (.word ["create", "rename", "delete"]))),
    ("failureHandling",
      .optional (.word ["abort", "transactional", "textOnlyTransactional", "undo"])),
    ("normalizesLineEndings", .optional .boolean),
    ("changeAnnotationSupport", .optional
      (flagRecord "ChangeAnnotationWorkspaceEditClientCapabilities" ["groupsOnLabel"]))]

def symbolAbility : Shape :=
  .record "WorkspaceSymbolClientCapabilities" [("dynamicRegistration", .optional .boolean),
    ("symbolKind", .optional (valueSet "SymbolKindCapability" .signed)),
    ("tagSupport", tagSupport),
    ("resolveSupport", .optional (resolved "WorkspaceSymbolResolveSupportCapability"))]

def workspaceAbilities : Shape :=
  .record "WorkspaceClientCapabilities" [("applyEdit", .optional .boolean),
    ("workspaceEdit", .optional workspaceEditAbility),
    ("didChangeConfiguration", .optional dynamic),
    ("didChangeWatchedFiles", .optional (flagRecord "DidChangeWatchedFilesClientCapabilities"
      ["dynamicRegistration", "relativePatternSupport"])),
    ("symbol", .optional symbolAbility), ("executeCommand", .optional dynamic),
    ("workspaceFolders", .optional .boolean), ("configuration", .optional .boolean),
    ("semanticTokens", .optional (refreshed "SemanticTokensWorkspaceClientCapabilities")),
    ("codeLens", .optional (refreshed "CodeLensWorkspaceClientCapabilities")),
    ("fileOperations", .optional (flagRecord "WorkspaceFileOperationsClientCapabilities"
      ["dynamicRegistration", "didCreate", "willCreate", "didRename", "willRename", "didDelete",
       "willDelete"])),
    ("inlineValue", .optional (refreshed "InlineValueWorkspaceClientCapabilities")),
    ("inlayHint", .optional (refreshed "InlayHintWorkspaceClientCapabilities")),
    ("diagnostic", .optional (refreshed "DiagnosticWorkspaceClientCapabilities"))]

def completionItemAbility : Shape :=
  .record "CompletionItemCapability" [("snippetSupport", .optional .boolean),
    ("commitCharactersSupport", .optional .boolean),
    ("documentationFormat", .optional (.listOf markupKind)),
    ("deprecatedSupport", .optional .boolean), ("preselectSupport", .optional .boolean),
    ("tagSupport", tagSupport), ("insertReplaceSupport", .optional .boolean),
    ("resolveSupport", .optional (resolved "CompletionItemCapabilityResolveSupport")),
    ("insertTextModeSupport", .optional
      (.record "InsertTextModeSupport" [("valueSet", .listOf .signed)])),
    ("labelDetailsSupport", .optional .boolean)]

def completionAbility : Shape :=
  .record "CompletionClientCapabilities" [("dynamicRegistration", .optional .boolean),
    ("completionItem", .optional completionItemAbility),
    ("completionItemKind", .optional (valueSet "CompletionItemKindCapability" .signed)),
    ("contextSupport", .optional .boolean), ("insertTextMode", .optional .signed),
    ("completionList", .optional
      (.record "CompletionListCapability" [("itemDefaults", .optional (.listOf .text))]))]

def hoverAbility : Shape :=
  .record "HoverClientCapabilities" [("dynamicRegistration", .optional .boolean),
    ("contentFormat", .optional (.listOf markupKind))]

def signatureAbility : Shape :=
  .record "SignatureHelpClientCapabilities" [("dynamicRegistration", .optional .boolean),
    ("signatureInformation", .optional (.record "SignatureInformationSettings"
      [("documentationFormat", .optional (.listOf markupKind)),
       ("parameterInformation",
         .optional (flagRecord "ParameterInformationSettings" ["labelOffsetSupport"])),
       ("activeParameterSupport", .optional .boolean)])),
    ("contextSupport", .optional .boolean)]

def documentSymbolAbility : Shape :=
  .record "DocumentSymbolClientCapabilities" [("dynamicRegistration", .optional .boolean),
    ("symbolKind", .optional (valueSet "SymbolKindCapability" .signed)),
    ("hierarchicalDocumentSymbolSupport", .optional .boolean), ("tagSupport", tagSupport)]

def codeActionAbility : Shape :=
  .record "CodeActionClientCapabilities" [("dynamicRegistration", .optional .boolean),
    ("codeActionLiteralSupport", .optional (.record "CodeActionLiteralSupport"
      [("codeActionKind",
        .record "CodeActionKindLiteralSupport" [("valueSet", .listOf .text)])])),
    ("isPreferredSupport", .optional .boolean), ("disabledSupport", .optional .boolean),
    ("dataSupport", .optional .boolean),
    ("resolveSupport", .optional (resolved "CodeActionCapabilityResolveSupport")),
    ("honorsChangeAnnotations", .optional .boolean)]

def renameAbility : Shape :=
  .record "RenameClientCapabilities" [("dynamicRegistration", .optional .boolean),
    ("prepareSupport", .optional .boolean),
    ("prepareSupportDefaultBehavior", .optional .signed),
    ("honorsChangeAnnotations", .optional .boolean)]

def diagnosticsAbility : Shape :=
  .record "PublishDiagnosticsClientCapabilities" [("relatedInformation", .optional .boolean),
    ("tagSupport", tagSupport), ("versionSupport", .optional .boolean),
    ("codeDescriptionSupport", .optional .boolean), ("dataSupport", .optional .boolean)]

def foldingAbility : Shape :=
  .record "FoldingRangeClientCapabilities" [("dynamicRegistration", .optional .boolean),
    ("rangeLimit", .optional .unsigned), ("lineFoldingOnly", .optional .boolean),
    ("foldingRangeKind", .optional
      (valueSet "FoldingRangeKindCapability" (.word ["comment", "imports", "region"]))),
    ("foldingRange", .optional (flagRecord "FoldingRangeCapability" ["collapsedText"]))]

def semanticTokensAbility : Shape :=
  .record "SemanticTokensClientCapabilities" ([("dynamicRegistration", .optional .boolean),
    ("requests", .record "SemanticTokensClientCapabilitiesRequests"
      [("range", .optional .boolean),
       ("full", .optional (.either "SemanticTokensFullOptions"
         [.boolean, flagRecord "Delta" ["delta"]]))]),
    ("tokenTypes", .listOf .text), ("tokenModifiers", .listOf .text),
    ("formats", .listOf (.word ["relative"]))] ++
    flags ["overlappingTokenSupport", "multilineTokenSupport", "serverCancelSupport",
      "augmentsSyntaxTokens"])

def inlayHintAbility : Shape :=
  .record "InlayHintClientCapabilities" [("dynamicRegistration", .optional .boolean),
    ("resolveSupport", .optional (resolved "InlayHintResolveClientCapabilities"))]

def documentAbilities : Shape :=
  .record "TextDocumentClientCapabilities"
    [("synchronization", .optional (flagRecord "TextDocumentSyncClientCapabilities"
      ["dynamicRegistration", "willSave", "willSaveWaitUntil", "didSave"])),
     ("completion", .optional completionAbility), ("hover", .optional hoverAbility),
     ("signatureHelp", .optional signatureAbility), ("references", .optional dynamic),
     ("documentHighlight", .optional dynamic), ("documentSymbol", .optional documentSymbolAbility),
     ("formatting", .optional dynamic), ("rangeFormatting", .optional dynamic),
     ("onTypeFormatting", .optional dynamic), ("declaration", .optional goto),
     ("definition", .optional goto), ("typeDefinition", .optional goto),
     ("implementation", .optional goto), ("codeAction", .optional codeActionAbility),
     ("codeLens", .optional dynamic),
     ("documentLink", .optional (flagRecord "DocumentLinkClientCapabilities"
       ["dynamicRegistration", "tooltipSupport"])),
     ("colorProvider", .optional dynamic), ("rename", .optional renameAbility),
     ("publishDiagnostics", .optional diagnosticsAbility),
     ("foldingRange", .optional foldingAbility),
     ("selectionRange", .optional
       (flagRecord "SelectionRangeClientCapabilities" ["dynamicRegistration"])),
     ("linkedEditingRange", .optional dynamic), ("callHierarchy", .optional dynamic),
     ("semanticTokens", .optional semanticTokensAbility), ("moniker", .optional dynamic),
     ("typeHierarchy", .optional dynamic), ("inlineValue", .optional dynamic),
     ("inlayHint", .optional inlayHintAbility),
     ("diagnostic", .optional (flagRecord "DiagnosticClientCapabilities"
       ["dynamicRegistration", "relatedDocumentSupport"]))]

def notebookAbilities : Shape :=
  .record "NotebookDocumentClientCapabilities"
    [("synchronization", flagRecord "NotebookDocumentSyncClientCapabilities"
      ["dynamicRegistration", "executionSummaryReport"])]

def windowAbilities : Shape :=
  .record "WindowClientCapabilities" [("workDoneProgress", .optional .boolean),
    ("showMessage", .optional (.record "ShowMessageRequestClientCapabilities"
      [("messageActionItem", .optional
        (flagRecord "MessageActionItemCapabilities" ["additionalPropertiesSupport"]))])),
    ("showDocument", .optional
      (.record "ShowDocumentClientCapabilities" [("support", .boolean)]))]

def generalAbilities : Shape :=
  .record "GeneralClientCapabilities"
    [("regularExpressions", .optional (.record "RegularExpressionsClientCapabilities"
      [("engine", .text), ("version", .optional .text)])),
     ("markdown", .optional (.record "MarkdownClientCapabilities"
       [("parser", .text), ("version", .optional .text),
        ("allowedTags", .optional (.listOf .text))])),
     ("staleRequestSupport", .optional (.record "StaleRequestSupportClientCapabilities"
       [("cancel", .boolean), ("retryOnContentModified", .listOf .text)])),
     ("positionEncodings", .optional (.listOf .text))]

/-- What a client can do. -/
def clientAbilities : Shape :=
  .record "ClientCapabilities"
    [("workspace", .optional workspaceAbilities), ("textDocument", .optional documentAbilities),
     ("notebookDocument", .optional notebookAbilities), ("window", .optional windowAbilities),
     ("general", .optional generalAbilities), ("experimental", .optional .anything)]

def workspaceFolder : Shape := .record "WorkspaceFolder" [("uri", .uri), ("name", .text)]

/-- The first request of a client. -/
def introduction : Shape :=
  .record "InitializeParams" [("processId", .optional .unsigned), ("rootPath", .optional .text),
    ("rootUri", .omissible (.optional .uri)), ("initializationOptions", .optional .anything),
    ("capabilities", clientAbilities),
    ("trace", .omissible (.optional (.word ["off", "messages", "verbose"]))),
    ("workspaceFolders", .optional (.listOf workspaceFolder)),
    ("clientInfo", .optional
      (.record "ClientInfo" [("name", .text), ("version", .optional .text)])),
    ("locale", .optional .text)]

/-- The notice that a client has taken note of the answer. -/
def acknowledgement : Shape := .record "InitializedParams" []

end Autotools.Shape
