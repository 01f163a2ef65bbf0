import PullDiagnostics.Protocol.Shape

/-!
# Documents in messages

The shapes of what messages say about documents: where a piece of text is, which version of
which document is meant, how text is to be changed, and what was found in it.
-/

namespace PullDiagnostics.Protocol.Shape

open Member

/-! ### Plain values -/

/-- A natural number of 32 bits. -/
def nat32 : Shape :=
  .integer 0 0xFFFFFFFF "u32"

/-- A number of 32 bits with a sign. -/
def int32 : Shape :=
  .integer (-0x80000000) 0x7FFFFFFF "i32"

/-- A list of texts. -/
def texts : Shape :=
  .list .text

/-- A number or a text. -/
def numberOrText : Shape :=
  .oneOf "NumberOrString" [int32, .text]

/-- How a text is to be shown. -/
def markupKind : Shape :=
  .word ["plaintext", "markdown"]

/-- A text and how it is to be shown. -/
def markup : Shape :=
  .record "MarkupContent" [needed "kind" markupKind, needed "value" .text]

/-- A text that may say how it is to be shown; the kind of text has a name. -/
def describedBy (name : String) : Shape :=
  .oneOf name [.text, markup]

/-! ### Places -/

/-- A place in a text. -/
def position : Shape :=
  .record "Position" [needed "line" nat32, needed "character" nat32]

/-- A part of a text. -/
def range : Shape :=
  .record "Range" [needed "start" position, needed "end" position]

/-- A part of the text of a document. -/
def location : Shape :=
  .record "Location" [needed "uri" .url, needed "range" range]

/-! ### Documents -/

/-- What names a document. -/
def documentId : Shape :=
  .record "TextDocumentIdentifier" [needed "uri" .url]

/-- What names a version of a document. -/
def documentVersion : Shape :=
  .record "VersionedTextDocumentIdentifier" [needed "uri" .url, needed "version" int32]

/-- What names a document and perhaps a version of it. -/
def documentPerhapsVersion : Shape :=
  .record "OptionalVersionedTextDocumentIdentifier" [needed "uri" .url, optional "version" int32]

/-- A document with its text. -/
def documentText : Shape :=
  .record "TextDocumentItem" [needed "uri" .url, needed "languageId" .text,
    needed "version" int32, needed "text" .text]

/-- A change of a text. -/
def textChange : Shape :=
  .record "TextDocumentContentChangeEvent" [optional "range" range,
    optional "rangeLength" nat32, needed "text" .text]

/-! ### Parts of requests -/

/-- The token of a request that may take long. -/
def workDone : Shape :=
  .record "WorkDoneProgressParams" [optional "workDoneToken" numberOrText]

/-- The token of a request that may be answered in parts. -/
def partialResult : Shape :=
  .record "PartialResultParams" [optional "partialResultToken" numberOrText]

/-- A place in a document. -/
def documentPosition : Shape :=
  .record "TextDocumentPositionParams"
    [needed "textDocument" documentId, needed "position" position]

/-! ### Edits and commands -/

/-- A command that a client may be asked to run. -/
def command : Shape :=
  .record "Command"
    [needed "title" .text, needed "command" .text, optional "arguments" (.list .anything)]

/-- A part of a text and what stands there instead. -/
def edit : Shape :=
  .record "TextEdit" [needed "range" range, needed "newText" .text]

/-- An edit with the name of what explains it. -/
def annotatedEdit : Shape :=
  .combined "AnnotatedTextEdit" [needed "annotationId" .text] [edit]

/-- A text that is inserted, or put in the place of another one. -/
def insertOrReplace : Shape :=
  .record "InsertReplaceEdit"
    [needed "newText" .text, needed "insert" range, needed "replace" range]

/-- The edits of one document. -/
def documentEdit : Shape :=
  .record "TextDocumentEdit" [needed "textDocument" documentPerhapsVersion,
    needed "edits" (.list (.oneOf "OneOf" [edit, annotatedEdit]))]

/-- What happens if a file is there already. -/
def overwriteOptions (name : String) : Shape :=
  .record name [optional "overwrite" .truth, optional "ignoreIfExists" .truth]

/-- A file that is to be made, renamed or deleted. -/
def fileOperation : Shape :=
  .tagged "kind"
    [needed "create" (.record "CreateFile" [needed "uri" .url,
      optional "options" (overwriteOptions "CreateFileOptions"),
      optional "annotationId" .text]),
     needed "rename" (.record "RenameFile" [needed "oldUri" .url, needed "newUri" .url,
      optional "options" (overwriteOptions "RenameFileOptions"),
      optional "annotationId" .text]),
     needed "delete" (.record "DeleteFile" [needed "uri" .url,
      optional "options" (.record "DeleteFileOptions" [optional "recursive" .truth,
        optional "ignoreIfNotExists" .truth, optional "annotationId" .text])])]

/-- What explains edits. -/
def annotation : Shape :=
  .record "ChangeAnnotation" [needed "label" .text, optional "needsConfirmation" .truth,
    optional "description" .text]

/-- The edits of a workspace. -/
def workspaceEdit : Shape :=
  .record "WorkspaceEdit"
    [spare "changes" (.dictionary "map" .url (.list edit)),
     optional "documentChanges" (.oneOf "DocumentChanges"
      [.list documentEdit, .list (.oneOf "DocumentChangeOperation" [fileOperation, documentEdit])]),
     optional "changeAnnotations" (.dictionary "a map" .text annotation)]

/-! ### Findings -/

/-- What was found in another place that has to do with a finding. -/
def relatedFinding : Shape :=
  .record "DiagnosticRelatedInformation" [needed "location" location, needed "message" .text]

/-- What was found in a document. -/
def finding : Shape :=
  .record "Diagnostic" [needed "range" range, optional "severity" int32,
    optional "code" numberOrText,
    optional "codeDescription" (.record "CodeDescription" [needed "href" .url]),
    optional "source" .text, needed "message" .text,
    optional "relatedInformation" (.list relatedFinding), optional "tags" (.list int32),
    optional "data" .anything]

end PullDiagnostics.Protocol.Shape
