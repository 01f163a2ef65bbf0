import PullDiagnostics.Protocol.Document

/-!
# What clients can do

The shape of what a client says at the start about itself. Of all this only one thing matters
for the server, but what has not the right shape is told.
-/

namespace PullDiagnostics.Protocol.Shape

open Member

/-- Truth values that may be missing. -/
def truths (names : List String) : List Member :=
  names.map fun name => optional name .truth

/-- A record of truth values that may be missing. -/
def switches (name : String) (names : List String) : Shape :=
  .record name (truths names)

/-- Whether a feature can be turned on later. -/
def dynamic : Shape :=
  switches "DynamicRegistrationClientCapabilities" ["dynamicRegistration"]

/-- Whether a client can be told to ask again. -/
def refreshes (name : String) : Shape :=
  switches name ["refreshSupport"]

/-- The properties that a client may ask for later. -/
def resolves (name : String) : Shape :=
  .record name [needed "properties" texts]

/-- The tags that a client knows; older ones only say whether they know any. -/
def tagSupport : Member :=
  spare "tagSupport" (.orTruth (.record "TagSupport" [needed "valueSet" (.list int32)]))

/-- The kinds of symbols that a client knows. -/
def symbolKinds : Member :=
  optional "symbolKind"
    (.record "SymbolKindCapability" [optional "valueSet" (.list int32)])

/-! ### The workspace -/

/-- How a client applies edits. -/
def workspaceEditCapabilities : Shape :=
  .record "WorkspaceEditClientCapabilities"
    [optional "documentChanges" .truth,
     optional "resourceOperations" (.list (.word ["create", "rename", "delete"])),
     optional "failureHandling"
      (.word ["abort", "transactional", "textOnlyTransactional", "undo"]),
     optional "normalizesLineEndings" .truth,
     optional "changeAnnotationSupport"
      (switches "ChangeAnnotationWorkspaceEditClientCapabilities" ["groupsOnLabel"])]

/-- What a client can do with a workspace. -/
def workspaceCapabilities : Shape :=
  .record "WorkspaceClientCapabilities"
    [optional "applyEdit" .truth,
     optional "workspaceEdit" workspaceEditCapabilities,
     optional "didChangeConfiguration" dynamic,
     optional "didChangeWatchedFiles" (switches "DidChangeWatchedFilesClientCapabilities"
      ["dynamicRegistration", "relativePatternSupport"]),
     optional "symbol" (.record "WorkspaceSymbolClientCapabilities"
      [optional "dynamicRegistration" .truth, symbolKinds, tagSupport,
       optional "resolveSupport" (resolves "WorkspaceSymbolResolveSupportCapability")]),
     optional "executeCommand" dynamic,
     optional "workspaceFolders" .truth,
     optional "configuration" .truth,
     optional "semanticTokens" (refreshes "SemanticTokensWorkspaceClientCapabilities"),
     optional "codeLens" (refreshes "CodeLensWorkspaceClientCapabilities"),
     optional "fileOperations" (switches "WorkspaceFileOperationsClientCapabilities"
      ["dynamicRegistration", "didCreate", "willCreate", "didRename", "willRename",
       "didDelete", "willDelete"]),
     optional "inlineValue" (refreshes "InlineValueWorkspaceClientCapabilities"),
     optional "inlayHint" (refreshes "InlayHintWorkspaceClientCapabilities"),
     optional "diagnostic" (refreshes "DiagnosticWorkspaceClientCapabilities")]

/-! ### Documents -/

/-- What a client can do with completions. -/
def completionCapabilities : Shape :=
  .record "CompletionClientCapabilities"
    [optional "dynamicRegistration" .truth,
     optional "completionItem" (.record "CompletionItemCapability"
      [optional "snippetSupport" .truth,
       optional "commitCharactersSupport" .truth,
       optional "documentationFormat" (.list markupKind),
       optional "deprecatedSupport" .truth,
       optional "preselectSupport" .truth,
       tagSupport,
       optional "insertReplaceSupport" .truth,
       optional "resolveSupport" (resolves "CompletionItemCapabilityResolveSupport"),
       optional "insertTextModeSupport"
        (.record "InsertTextModeSupport" [needed "valueSet" (.list int32)]),
       optional "labelDetailsSupport" .truth]),
     optional "completionItemKind"
      (.record "CompletionItemKindCapability" [optional "valueSet" (.list int32)]),
     optional "contextSupport" .truth,
     optional "insertTextMode" int32,
     optional "completionList"
      (.record "CompletionListCapability" [optional "itemDefaults" texts])]

/-- What a client can do with signatures. -/
def signatureCapabilities : Shape :=
  .record "SignatureHelpClientCapabilities"
    [optional "dynamicRegistration" .truth,
     optional "signatureInformation" (.record "SignatureInformationSettings"
      [optional "documentationFormat" (.list markupKind),
       optional "parameterInformation"
        (switches "ParameterInformationSettings" ["labelOffsetSupport"]),
       optional "activeParameterSupport" .truth]),
     optional "contextSupport" .truth]

/-- Whether a client can follow links to definitions. -/
def gotoCapability : Shape :=
  switches "GotoCapability" ["dynamicRegistration", "linkSupport"]

/-- What a client can do with actions on code. -/
def codeActionCapabilities : Shape :=
  .record "CodeActionClientCapabilities"
    [optional "dynamicRegistration" .truth,
     optional "codeActionLiteralSupport" (.record "CodeActionLiteralSupport"
      [needed "codeActionKind"
        (.record "CodeActionKindLiteralSupport" [needed "valueSet" texts])]),
     optional "isPreferredSupport" .truth,
     optional "disabledSupport" .truth,
     optional "dataSupport" .truth,
     optional "resolveSupport" (resolves "CodeActionCapabilityResolveSupport"),
     optional "honorsChangeAnnotations" .truth]

/-- What a client can do with parts of a text that are folded. -/
def foldingCapabilities : Shape :=
  .record "FoldingRangeClientCapabilities"
    [optional "dynamicRegistration" .truth,
     optional "rangeLimit" nat32,
     optional "lineFoldingOnly" .truth,
     optional "foldingRangeKind" (.record "FoldingRangeKindCapability"
      [optional "valueSet" (.list (.word ["comment", "imports", "region"]))]),
     optional "foldingRange" (switches "FoldingRangeCapability" ["collapsedText"])]

/-- What a client can do with the meaning of tokens. -/
def semanticTokensCapabilities : Shape :=
  .record "SemanticTokensClientCapabilities"
    [optional "dynamicRegistration" .truth,
     needed "requests" (.record "SemanticTokensClientCapabilitiesRequests"
      [optional "range" .truth,
       optional "full" (.oneOf "SemanticTokensFullOptions"
        [.truth, .combined "Delta" (truths ["delta"]) []])]),
     needed "tokenTypes" texts,
     needed "tokenModifiers" texts,
     needed "formats" texts,
     optional "overlappingTokenSupport" .truth,
     optional "multilineTokenSupport" .truth,
     optional "serverCancelSupport" .truth,
     optional "augmentsSyntaxTokens" .truth]

/-- What a client can do with documents. -/
def documentCapabilities : Shape :=
  .record "TextDocumentClientCapabilities"
    [optional "synchronization" (switches "TextDocumentSyncClientCapabilities"
      ["dynamicRegistration", "willSave", "willSaveWaitUntil", "didSave"]),
     optional "completion" completionCapabilities,
     optional "hover" (.record "HoverClientCapabilities"
      [optional "dynamicRegistration" .truth, optional "contentFormat" (.list markupKind)]),
     optional "signatureHelp" signatureCapabilities,
     optional "references" dynamic,
     optional "documentHighlight" dynamic,
     optional "documentSymbol" (.record "DocumentSymbolClientCapabilities"
      [optional "dynamicRegistration" .truth, symbolKinds,
       optional "hierarchicalDocumentSymbolSupport" .truth, tagSupport]),
     optional "formatting" dynamic,
     optional "rangeFormatting" dynamic,
     optional "onTypeFormatting" dynamic,
     optional "declaration" gotoCapability,
     optional "definition" gotoCapability,
     optional "typeDefinition" gotoCapability,
     optional "implementation" gotoCapability,
     optional "codeAction" codeActionCapabilities,
     optional "codeLens" dynamic,
     optional "documentLink"
      (switches "DocumentLinkClientCapabilities" ["dynamicRegistration", "tooltipSupport"]),
     optional "colorProvider" dynamic,
     optional "rename" (.record "RenameClientCapabilities"
      [optional "dynamicRegistration" .truth, optional "prepareSupport" .truth,
       optional "prepareSupportDefaultBehavior" int32,
       optional "honorsChangeAnnotations" .truth]),
     optional "publishDiagnostics" (.record "PublishDiagnosticsClientCapabilities"
      [optional "relatedInformation" .truth, tagSupport, optional "versionSupport" .truth,
       optional "codeDescriptionSupport" .truth, optional "dataSupport" .truth]),
     optional "foldingRange" foldingCapabilities,
     optional "selectionRange"
      (switches "SelectionRangeClientCapabilities" ["dynamicRegistration"]),
     optional "linkedEditingRange" dynamic,
     optional "callHierarchy" dynamic,
     optional "semanticTokens" semanticTokensCapabilities,
     optional "moniker" dynamic,
     optional "typeHierarchy" dynamic,
     optional "inlineValue" dynamic,
     optional "inlayHint" (.record "InlayHintClientCapabilities"
      [optional "dynamicRegistration" .truth,
       optional "resolveSupport" (resolves "InlayHintResolveClientCapabilities")]),
     optional "diagnostic" (switches "DiagnosticClientCapabilities"
      ["dynamicRegistration", "relatedDocumentSupport"])]

/-! ### The rest -/

/-- What a client can do with its window. -/
def windowCapabilities : Shape :=
  .record "WindowClientCapabilities"
    [optional "workDoneProgress" .truth,
     optional "showMessage" (.record "ShowMessageRequestClientCapabilities"
      [optional "messageActionItem"
        (switches "MessageActionItemCapabilities" ["additionalPropertiesSupport"])]),
     optional "showDocument"
      (.record "ShowDocumentClientCapabilities" [needed "support" .truth])]

/-- What a client can do beside all this. -/
def generalCapabilities : Shape :=
  .record "GeneralClientCapabilities"
    [optional "regularExpressions" (.record "RegularExpressionsClientCapabilities"
      [needed "engine" .text, optional "version" .text]),
     optional "markdown" (.record "MarkdownClientCapabilities"
      [needed "parser" .text, optional "version" .text, optional "allowedTags" texts]),
     optional "staleRequestSupport" (.record "StaleRequestSupportClientCapabilities"
      [needed "cancel" .truth, needed "retryOnContentModified" texts]),
     optional "positionEncodings" texts]

/-- What a client can do. -/
def clientCapabilities : Shape :=
  .record "ClientCapabilities"
    [optional "workspace" workspaceCapabilities,
     optional "textDocument" documentCapabilities,
     optional "window" windowCapabilities,
     optional "general" generalCapabilities,
     optional "experimental" .anything]

end PullDiagnostics.Protocol.Shape
