import Autotools.Docs.Error
import Autotools.Server.Method
import Autotools.Server.Uri.File
import Autotools.Workspace.Completion
import Autotools.Workspace.Navigation

/-! The values that a client and the server exchange. -/

namespace Autotools.Message

open Json (Value)

/-- A message of the client: a request, which has an answer, or a notice, which has none. -/
structure Incoming where
  method : String
  params : Option Value
  isNotice : Bool
deriving Inhabited

/-- A notice of the server. -/
structure Notice where
  method : String
  params : Value
deriving Inhabited

/-- Why a request is refused. -/
inductive Refusal where
  | notInitialized
  | invalidRequest
  | methodNotFound
  | missingParams
  | unexpectedParams
  | invalidParams (cause : Complaint)
  | invalidOptions
  | cannotLoad (cause : DocsError)
deriving DecidableEq, Inhabited, Repr

namespace Refusal

def code : Refusal → Int
  | .notInitialized => -32002
  | .invalidRequest => -32600
  | .methodNotFound => -32601
  | .missingParams | .unexpectedParams | .invalidParams _ | .invalidOptions | .cannotLoad _ =>
    -32602

def message : Refusal → String
  | .notInitialized => "Server not initialized"
  | .invalidRequest => "Invalid request"
  | .methodNotFound => "Method not found"
  | .missingParams => "Missing params field"
  | .unexpectedParams => "Unexpected params"
  | .invalidParams cause => cause.message
  | .invalidOptions => "invalid initialization options"
  | .cannotLoad cause => "cannot load documentation: " ++ cause.message

end Refusal

/-! Reading what a client sends, from values that have the shape of their method. -/

/-- What a client asks for. -/
inductive Call where
  | introduce (options : Value) (utf8 : Bool)
  | acknowledge
  | shutdown
  | didOpen (uri text : String) (version : Int)
  | didChange (uri : String) (version : Int) (texts : List String)
  | didClose (uri : String)
  | hover (uri : String) (position : Point)
  | completion (uri : String) (position : Point)
  | definition (uri : String) (position : Point)
  | references (uri : String) (position : Point) (withDefinitions : Bool)
deriving Inhabited

def text? (v : Value) (key : String) : Option String := do (← v.member? key).asString?

def point? (v : Value) : Option Point := do
  let line ← (← v.member? "line").asNat?
  let character ← (← v.member? "character").asNat?
  return .ofNat line character

/-- The URI of the document that a message is about. -/
def uri? (params : Value) : Option String := do text? (← params.member? "textDocument") "uri"

/-- A document and a position in it. -/
def place? (params : Value) : Option (String × Point) := do
  return (← uri? params, ← point? (← params.member? "position"))

/-- The version of the document that a message is about. -/
def version? (params : Value) : Option Int := do
  (← (← params.member? "textDocument").member? "version").asInt?

/-- The texts that a document took one after the other. -/
def texts? (params : Value) : Option (List String) := do
  (← (← params.member? "contentChanges").asItems?).mapM fun change => text? change "text"

/-- Whether the definitions are wanted among the references. -/
def withDefinitions? (params : Value) : Option Bool := do
  (← (← params.member? "context").member? "includeDeclaration").asBool?

/-- Whether a client can count columns in bytes. -/
def offersUtf8 (params : Value) : Bool :=
  let encodings := do
    let capabilities ← params.member? "capabilities"
    let general ← capabilities.present? "general"
    let encodings ← general.present? "positionEncodings"
    encodings.asItems?
  (encodings.getD []).any fun v => v.asString? = some "utf-8"

/-- What a client asks for by a service and its parameters. -/
def call? (params : Value) : Service → Option Call
  | .introduce =>
    some (.introduce (.ofOption (params.member? "initializationOptions")) (offersUtf8 params))
  | .acknowledge => some .acknowledge
  | .shutdown => some .shutdown
  | .didOpen => do
    let text ← text? (← params.member? "textDocument") "text"
    return .didOpen (← uri? params) text (← version? params)
  | .didChange => do return .didChange (← uri? params) (← version? params) (← texts? params)
  | .didClose => (uri? params).map .didClose
  | .hover => (place? params).map fun p => .hover p.1 p.2
  | .completion => (place? params).map fun p => .completion p.1 p.2
  | .definition => (place? params).map fun p => .definition p.1 p.2
  | .references => do
    let (uri, position) ← place? params
    return .references uri position (← withDefinitions? params)

/-- The parameters of a method, in their shape. They must be there if the method takes any, and must
not be there if it takes none. -/
def readParams (method : Method) (params : Option Value) : Except Refusal Value :=
  match method.params, params with
  | none, none => .ok .null
  | none, some _ => .error .unexpectedParams
  | some _, none => .error .missingParams
  | some shape, some v => (shape.ofValue v).mapError .invalidParams

/-- What a message asks for. A method that is known but not served has nothing to ask for. -/
def readCall (method : Method) (params : Option Value) : Except Refusal Call := do
  let params ← readParams method params
  match method.service with
  | none => .error .methodNotFound
  | some service =>
    match call? params service with
    | some call => return call
    | none => .error (.invalidParams .invalidType)

/-! Writing what the server sends. -/

/-- The name that the server goes by. -/
def serverName : String := "autotools-language-server"

def serverVersion : String := "0.1.0"

def ofPoint (p : Point) : Value :=
  .object [("character", .nat p.column.toNat), ("line", .nat p.row.toNat)]

def ofRange (r : Range) : Value :=
  .object [("end", ofPoint r.stop), ("start", ofPoint r.start)]

def markdown (text : String) : Value :=
  .object [("kind", .string "markdown"), ("value", .string text)]

/-- The number of a severity. -/
def severityNumber : Severity → Nat
  | .error => 1
  | .warning => 2

def ofFinding (f : Finding) : Value :=
  .object [("message", .string f.message), ("range", ofRange f.range),
    ("severity", .nat (severityNumber f.severity)), ("source", .string serverName)]

/-- The findings of a document, with the version they are about. -/
def published (uri : String) (findings : List Finding) (version : Option Int) : Notice :=
  ⟨"textDocument/publishDiagnostics", .object (
    [("diagnostics", .array (findings.map ofFinding)), ("uri", .string uri)] ++
      version.toList.map fun n => ("version", .int n))⟩

/-- The notice that the server is ready. -/
def readyNotice : Notice :=
  ⟨"window/logMessage", .object [("message", .string "Autotools language server initialized"),
    ("type", .nat 3)]⟩

def ofHover (h : Hover) : Value :=
  .object [("contents", markdown h.contents), ("range", ofRange h.range)]

/-- The number of a kind of completion. -/
def kindNumber : CompletionKind → Nat
  | .functionName | .macroName => 3
  | .variableName => 6
  | .directive => 14
  | .target => 18

/-- A number as a text of at least five digits. -/
def sortText (n : Nat) : String :=
  let digits := toString n
  String.ofList (List.replicate (5 - digits.length) '0') ++ digits

/-- A completion at its place in the list. -/
def ofCompletion (index : Nat) (c : Completion) : Value :=
  .object [("detail", .string c.detail), ("documentation", markdown c.documentation),
    ("insertText", .string c.label), ("kind", .nat (kindNumber c.kind)),
    ("label", .string c.label), ("sortText", .string (sortText index))]

/-- The URI of a place; a file with a relative path has none. -/
def uriOf? : Place → Option String
  | .document uri => some uri
  | .file path => Uri.ofPath? path

def ofLocation? (l : Location) : Option Value :=
  (uriOf? l.place).map fun uri => .object [("range", ofRange l.range), ("uri", .string uri)]

/-- What the server can do. -/
def abilities (utf8 : Bool) : Value :=
  .object ([("completionProvider",
      .object [("triggerCharacters", .array [.string "$", .string "("])]),
    ("definitionProvider", .bool true), ("hoverProvider", .bool true)] ++
    (if utf8 then [("positionEncoding", .string "utf-8")] else []) ++
    [("referencesProvider", .bool true), ("textDocumentSync", .nat 1)])

/-- The answer to a client that introduces itself. -/
def welcome (utf8 : Bool) : Value :=
  .object [("capabilities", abilities utf8),
    ("serverInfo", .object [("name", .string serverName), ("version", .string serverVersion)])]

end Autotools.Message
