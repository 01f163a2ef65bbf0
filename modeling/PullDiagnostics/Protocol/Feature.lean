import PullDiagnostics.Protocol.Document

/-!
# Requests for features that are not served

Clients may ask for many things that this server does not do. Such a request is still looked
at before it is turned down: parameters that have not the right shape are told first.
-/

namespace PullDiagnostics.Protocol.Shape

open Member

/-! ### Places in documents -/

/-- A request about a place in a document that is answered at once. -/
def atPlace (name : String) : Shape :=
  .combined name [] [documentPosition, workDone]

/-- A request about a place in a document that may be answered in parts. -/
def atPlaceInParts (name : String) : Shape :=
  .combined name [] [documentPosition, workDone, partialResult]

/-- A request about a document that may be answered in parts, with what else it has. -/
def inDocument (name : String) (more : List Member) : Shape :=
  .combined name (needed "textDocument" documentId :: more) [workDone, partialResult]

/-- A request about a part of a document, with what else it has. -/
def inRange (name : String) (more : List Member) : Shape :=
  .combined name (needed "textDocument" documentId :: needed "range" range :: more) [workDone]

/-- Where something is defined. -/
def goto : Shape :=
  atPlaceInParts "GotoDefinitionParams"

/-- Where something is used. -/
def references : Shape :=
  .combined "ReferenceParams"
    [needed "context" (.record "ReferenceContext" [needed "includeDeclaration" .truth])]
    [documentPosition, workDone, partialResult]

/-! ### Completions and signatures -/

/-- What may be put in at a place. -/
def completion : Shape :=
  .combined "CompletionParams"
    [optional "context" (.record "CompletionContext"
      [needed "triggerKind" int32, optional "triggerCharacter" .text])]
    [documentPosition, workDone, partialResult]

/-- Something that may be put in. -/
def completionItem : Shape :=
  .record "CompletionItem"
    [needed "label" .text,
     optional "labelDetails" (.record "CompletionItemLabelDetails"
      [optional "detail" .text, optional "description" .text]),
     optional "kind" int32,
     optional "detail" .text,
     optional "documentation" (describedBy "Documentation"),
     optional "deprecated" .truth,
     optional "preselect" .truth,
     optional "sortText" .text,
     optional "filterText" .text,
     optional "insertText" .text,
     optional "insertTextFormat" int32,
     optional "insertTextMode" int32,
     optional "textEdit" (.oneOf "CompletionTextEdit" [edit, insertOrReplace]),
     optional "additionalTextEdits" (.list edit),
     optional "command" command,
     optional "commitCharacters" texts,
     optional "data" .anything,
     optional "tags" (.list int32)]

/-- A way to call something. -/
def signature : Shape :=
  .record "SignatureInformation"
    [needed "label" .text,
     optional "documentation" (describedBy "Documentation"),
     optional "parameters" (.list (.record "ParameterInformation"
      [needed "label" (.oneOf "ParameterLabel" [.text, .row [nat32, nat32]]),
       optional "documentation" (describedBy "Documentation")])),
     optional "activeParameter" nat32]

/-- How what stands at a place may be called. -/
def signatureHelp : Shape :=
  .combined "SignatureHelpParams"
    [optional "context" (.record "SignatureHelpContext"
      [needed "triggerKind" int32,
       optional "triggerCharacter" .text,
       needed "isRetrigger" .truth,
       optional "activeSignatureHelp" (.record "SignatureHelp"
        [needed "signatures" (.list signature), optional "activeSignature" nat32,
         optional "activeParameter" nat32])])]
    [documentPosition, workDone]

/-! ### Actions, links and colors -/

/-- What may be done about a part of a document. -/
def codeActions : Shape :=
  .combined "CodeActionParams"
    [needed "textDocument" documentId,
     needed "range" range,
     needed "context" (.record "CodeActionContext"
      [needed "diagnostics" (.list finding), optional "only" texts,
       optional "triggerKind" int32])]
    [workDone, partialResult]

/-- Something that may be done. -/
def codeAction : Shape :=
  .record "CodeAction"
    [needed "title" .text,
     optional "kind" .text,
     optional "diagnostics" (.list finding),
     optional "edit" workspaceEdit,
     optional "command" command,
     optional "isPreferred" .truth,
     optional "disabled" (.record "CodeActionDisabled" [needed "reason" .text]),
     optional "data" .anything]

/-- A command that is shown in a document. -/
def codeLens : Shape :=
  .record "CodeLens"
    [needed "range" range, optional "command" command, optional "data" .anything]

/-- A link in a document. -/
def documentLink : Shape :=
  .record "DocumentLink"
    [needed "range" range, optional "target" .url, optional "tooltip" .text,
     optional "data" .anything]

/-- How a color may be written. -/
def colorPresentation : Shape :=
  .combined "ColorPresentationParams"
    [needed "textDocument" documentId,
     needed "color" (.record "Color"
      (["red", "green", "blue", "alpha"].map fun part => needed part (.number "f32"))),
     needed "range" range]
    [workDone, partialResult]

/-! ### Formatting and renaming -/

/-- How a document is to be formatted. -/
def formattingOptions : Shape :=
  .combined "FormattingOptions"
    [needed "tabSize" nat32,
     needed "insertSpaces" .truth,
     optional "trimTrailingWhitespace" .truth,
     optional "insertFinalNewline" .truth,
     optional "trimFinalNewlines" .truth]
    [.dictionary "a map" .text (.oneOf "FormattingProperty" [.truth, int32, .text])]

/-- A document that is to be formatted. -/
def formatting : Shape :=
  .combined "DocumentFormattingParams"
    [needed "textDocument" documentId, needed "options" formattingOptions] [workDone]

/-- A part of a document that is to be formatted. -/
def rangeFormatting : Shape :=
  inRange "DocumentRangeFormattingParams" [needed "options" formattingOptions]

/-- A document that is to be formatted while it is typed. -/
def typingFormatting : Shape :=
  .combined "DocumentOnTypeFormattingParams"
    [needed "ch" .text, needed "options" formattingOptions] [documentPosition]

/-- What is to have another name. -/
def rename : Shape :=
  .combined "RenameParams" [needed "newName" .text] [documentPosition, workDone]

/-! ### Hierarchies -/

/-- The members of a thing in a hierarchy. -/
def hierarchyMembers (tags : Shape) : List Member :=
  [needed "name" .text, needed "kind" int32, optional "tags" tags, optional "detail" .text,
   needed "uri" .url, needed "range" range, needed "selectionRange" range,
   optional "data" .anything]

/-- A request about something that is called or calls. -/
def calls (name : String) : Shape :=
  .combined name
    [needed "item" (.record "CallHierarchyItem" (hierarchyMembers (.list int32)))]
    [workDone, partialResult]

/-- A request about a type above or below others. -/
def types (name : String) : Shape :=
  .combined name [needed "item" (.record "TypeHierarchyItem" (hierarchyMembers int32))]
    [workDone, partialResult]

/-! ### Hints and values -/

/-- What is shown between the characters of a text. -/
def inlayHint : Shape :=
  .record "InlayHint"
    [needed "position" position,
     needed "label" (.oneOf "InlayHintLabel"
      [.text, .list (.record "InlayHintLabelPart"
        [needed "value" .text, optional "tooltip" (describedBy "InlayHintLabelPartTooltip"),
         optional "location" location, optional "command" command])]),
     optional "kind" int32,
     optional "textEdits" (.list edit),
     optional "tooltip" (describedBy "InlayHintTooltip"),
     optional "paddingLeft" .truth,
     optional "paddingRight" .truth,
     optional "data" .anything]

/-- The values that are shown while a program is stopped. -/
def inlineValues : Shape :=
  inRange "InlineValueParams"
    [needed "context" (.record "InlineValueContext"
      [needed "frameId" int32, needed "stoppedLocation" range])]

/-! ### The workspace -/

/-- The symbols of a workspace with a name like the one given. -/
def workspaceSymbols : Shape :=
  .combined "WorkspaceSymbolParams" [needed "query" .text] [partialResult, workDone]

/-- A symbol of a workspace. -/
def workspaceSymbol : Shape :=
  .record "WorkspaceSymbol"
    [needed "name" .text,
     needed "kind" int32,
     optional "tags" (.list int32),
     optional "containerName" .text,
     needed "location"
      (.oneOf "OneOf" [location, .record "WorkspaceLocation" [needed "uri" .url]]),
     optional "data" .anything]

/-- Files that are about to be made, renamed or deleted. -/
def fileChanges (name item : String) (members : List String) : Shape :=
  .record name
    [needed "files" (.list (.record item (members.map fun key => needed key .text)))]

/-- A command that is to be run. -/
def commandRun : Shape :=
  .combined "ExecuteCommandParams"
    [needed "command" .text, presumed "arguments" (.list .anything)] [workDone]

/-- A document that is about to be saved. -/
def saving : Shape :=
  .record "WillSaveTextDocumentParams" [needed "textDocument" documentId, needed "reason" int32]

/-! ### All together -/

/-- The requests that are known but not served, each with the shape of its parameters. -/
def features : List (String × Shape) :=
  [("textDocument/willSaveWaitUntil", saving),
   ("textDocument/declaration", goto),
   ("textDocument/definition", goto),
   ("textDocument/typeDefinition", goto),
   ("textDocument/implementation", goto),
   ("textDocument/references", references),
   ("textDocument/prepareCallHierarchy", atPlace "CallHierarchyPrepareParams"),
   ("callHierarchy/incomingCalls", calls "CallHierarchyIncomingCallsParams"),
   ("callHierarchy/outgoingCalls", calls "CallHierarchyOutgoingCallsParams"),
   ("textDocument/prepareTypeHierarchy", atPlace "TypeHierarchyPrepareParams"),
   ("typeHierarchy/supertypes", types "TypeHierarchySupertypesParams"),
   ("typeHierarchy/subtypes", types "TypeHierarchySubtypesParams"),
   ("textDocument/documentHighlight", atPlaceInParts "DocumentHighlightParams"),
   ("textDocument/documentLink", inDocument "DocumentLinkParams" []),
   ("documentLink/resolve", documentLink),
   ("textDocument/hover", atPlace "HoverParams"),
   ("textDocument/codeLens", inDocument "CodeLensParams" []),
   ("codeLens/resolve", codeLens),
   ("textDocument/foldingRange", inDocument "FoldingRangeParams" []),
   ("textDocument/selectionRange",
     inDocument "SelectionRangeParams" [needed "positions" (.list position)]),
   ("textDocument/documentSymbol", inDocument "DocumentSymbolParams" []),
   ("textDocument/semanticTokens/full", inDocument "SemanticTokensParams" []),
   ("textDocument/semanticTokens/full/delta",
     inDocument "SemanticTokensDeltaParams" [needed "previousResultId" .text]),
   ("textDocument/semanticTokens/range",
     inDocument "SemanticTokensRangeParams" [needed "range" range]),
   ("textDocument/inlineValue", inlineValues),
   ("textDocument/inlayHint", inRange "InlayHintParams" []),
   ("inlayHint/resolve", inlayHint),
   ("textDocument/moniker", atPlaceInParts "MonikerParams"),
   ("textDocument/completion", completion),
   ("completionItem/resolve", completionItem),
   ("textDocument/signatureHelp", signatureHelp),
   ("textDocument/codeAction", codeActions),
   ("codeAction/resolve", codeAction),
   ("textDocument/documentColor", inDocument "DocumentColorParams" []),
   ("textDocument/colorPresentation", colorPresentation),
   ("textDocument/formatting", formatting),
   ("textDocument/rangeFormatting", rangeFormatting),
   ("textDocument/onTypeFormatting", typingFormatting),
   ("textDocument/rename", rename),
   ("textDocument/prepareRename", documentPosition),
   ("textDocument/linkedEditingRange", atPlace "LinkedEditingRangeParams"),
   ("workspace/symbol", workspaceSymbols),
   ("workspaceSymbol/resolve", workspaceSymbol),
   ("workspace/willCreateFiles", fileChanges "CreateFilesParams" "FileCreate" ["uri"]),
   ("workspace/willRenameFiles",
     fileChanges "RenameFilesParams" "FileRename" ["oldUri", "newUri"]),
   ("workspace/willDeleteFiles", fileChanges "DeleteFilesParams" "FileDelete" ["uri"]),
   ("workspace/executeCommand", commandRun)]

end PullDiagnostics.Protocol.Shape
