import Autotools.Server.Config
import Autotools.Server.Message

/-! A session of the server with a client: every message of the client gives the next state of the
session, an answer to a request, and the notices that the server sends. -/

namespace Autotools

open Json (Value)
open Message
open Syntax (Parser)

/-- How far a session has come. -/
inductive Phase where
  | fresh
  | ready
  | stopped
deriving DecidableEq, Inhabited, Repr

/-- The state of a session: its phase, what the command line said, and the workspace. -/
structure Session where
  phase : Phase
  config : ServerConfig
  workspace : Workspace
deriving Inhabited

/-- What a message leads to: the next session, the file system after it, the answer if there is one,
and the notices sent. -/
structure Reaction where
  session : Session
  files : FileSystem
  answer : Option (Except Refusal Value)
  sent : List Notice

/-- What a message leads to, with the answer kept only for a request. -/
def Reaction.forRequest (m : Incoming) (r : Reaction) : Reaction :=
  if m.isNotice then { r with answer := none } else r

namespace Session

/-- The session of a configuration and the table that it names. -/
def start (config : ServerConfig) (docs : Table) : Session :=
  ⟨.fresh, config, .ofTable docs⟩

variable (s : Session)

/-- Takes up the options of a client. Empty options change nothing, and neither do options that
fail. -/
def configure (env : Environment) (fs : FileSystem) (options : Value) :
    FileSystem × Except Refusal Session :=
  match Options.ofValue? options with
  | none => (fs, .error .invalidOptions)
  | some options =>
    if options.isEmpty then (fs, .ok s)
    else
      match (s.config.merge options).load env fs with
      | (fs, .error cause) => (fs, .error (.cannotLoad cause))
      | (fs, .ok docs) => (fs, .ok { s with workspace := s.workspace.withDocs docs })

/-- The first request of a client, which makes the session ready. -/
def introduce (env : Environment) (fs : FileSystem) (options : Value) (utf8 : Bool) : Reaction :=
  match s.configure env fs options with
  | (fs, .error refusal) => ⟨s, fs, some (.error refusal), []⟩
  | (fs, .ok next) => ⟨{ next with phase := .ready }, fs, some (.ok (welcome utf8)), []⟩

/-- A document was opened: its findings are published. -/
def didOpen (parser : Parser) (fs : FileSystem) (uri text : String) (version : Int) :
    Session × List Notice :=
  let workspace := s.workspace.opened parser uri (Uri.filePathOf? uri) text version
  ({ s with workspace }, [published uri (workspace.findings fs uri) (some version)])

/-- A document was changed: the last text counts, and no text is no change. -/
def didChange (parser : Parser) (fs : FileSystem) (uri : String) (version : Int)
    (texts : List String) : Session × List Notice :=
  match texts.getLast? with
  | none => (s, [])
  | some text =>
    let workspace := s.workspace.changed parser uri text version
    ({ s with workspace }, [published uri (workspace.findings fs uri) (some version)])

/-- A document was closed: it has no findings any more. -/
def didClose (uri : String) : Session × List Notice :=
  ({ s with workspace := s.workspace.closed uri }, [published uri [] none])

/-- The value for what is shown at a position. -/
def hover (uri : String) (position : Point) : Value :=
  .ofOption ((s.workspace.hover? uri position).map ofHover)

/-- The value for the completions at a position, numbered in their order. -/
def completion (uri : String) (position : Point) : Value :=
  .array ((s.workspace.completions uri position).mapIdx ofCompletion)

/-- The value for the definitions of the symbol at a position. -/
def definition (fs : FileSystem) (uri : String) (position : Point) : Value :=
  match (s.workspace.definition fs uri position).filterMap ofLocation? with
  | [] => .null
  | found => .array found

/-- The value for the references to the symbol at a position. -/
def references (uri : String) (position : Point) (withDefinitions : Bool) : Value :=
  .array ((s.workspace.references uri position withDefinitions).filterMap ofLocation?)

/-- What a call leads to. Notices have no answer. -/
def serve (parser : Parser) (env : Environment) (fs : FileSystem) (call : Call) : Reaction :=
  let answered (v : Value) : Reaction := ⟨s, fs, some (.ok v), []⟩
  let noted (next : Session × List Notice) : Reaction := ⟨next.1, fs, none, next.2⟩
  match call with
  | .introduce options utf8 => s.introduce env fs options utf8
  | .acknowledge => noted (s, [readyNotice])
  | .shutdown => answered .null
  | .didOpen uri text version => noted (s.didOpen parser fs uri text version)
  | .didChange uri version texts => noted (s.didChange parser fs uri version texts)
  | .didClose uri => noted (s.didClose uri)
  | .hover uri position => answered (s.hover uri position)
  | .completion uri position => answered (s.completion uri position)
  | .definition uri position => answered (s.definition fs uri position)
  | .references uri position withDefinitions =>
    answered (s.references uri position withDefinitions)

/-- Why a method is out of place in a phase: the first request comes once and before all others, and
after the last one nothing is served. -/
def refusal? (method : Method) : Option Refusal :=
  if method.service = some .introduce then
    if s.phase = .fresh then none else some .invalidRequest
  else
    match s.phase with
    | .fresh => some .notInitialized
    | .ready => none
    | .stopped => some .invalidRequest

/-- The session in which a method is served: that of the last request is over at once. -/
def entered (method : Method) : Session :=
  if method.service = some .shutdown then { s with phase := .stopped } else s

/-- What a message with a known method leads to. A method of notices is none for a request, and a
method of requests does nothing in a notice. -/
def dispatch (parser : Parser) (env : Environment) (fs : FileSystem) (method : Method)
    (m : Incoming) : Reaction :=
  match s.refusal? method with
  | some refusal => ⟨s, fs, some (.error refusal), []⟩
  | none =>
    let s := s.entered method
    if m.isNotice ≠ method.isNotice then ⟨s, fs, some (.error .invalidRequest), []⟩
    else
      match readCall method m.params with
      | .error refusal => ⟨s, fs, some (.error refusal), []⟩
      | .ok call => s.serve parser env fs call

/-- The notice that ends a session. -/
def exitMethod : String := "exit"

/-- The notice that a request is not wanted any more. Every request is answered before the next
message, so there is nothing to do. -/
def cancelMethod : String := "$/cancelRequest"

/-- Whether a method is one that a server may ignore. -/
def mayIgnore (method : String) : Bool := "$/".toList.isPrefixOf method.toList

/-- What a message leads to. The end of a session is never answered, and neither are methods that
may be ignored. -/
def react (parser : Parser) (env : Environment) (fs : FileSystem) (m : Incoming) : Reaction :=
  if m.method = exitMethod then ⟨{ s with phase := .stopped }, fs, none, []⟩
  else if m.method = cancelMethod then
    Reaction.forRequest m ⟨s, fs, some (.error .invalidRequest), []⟩
  else
    match Method.find? m.method with
    | some method => Reaction.forRequest m (s.dispatch parser env fs method m)
    | none =>
      if mayIgnore m.method then ⟨s, fs, none, []⟩
      else Reaction.forRequest m ⟨s, fs, some (.error .methodNotFound), []⟩

end Session

end Autotools
