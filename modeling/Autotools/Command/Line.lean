import Autotools.Docs.Source

/-! The command line: which command is wanted, with what arguments. -/

namespace Autotools.CommandLine

/-- When to color a report: if it goes to a terminal, always, or never. -/
inductive ColorChoice where
  | auto
  | always
  | never
deriving DecidableEq, Inhabited, Repr

/-- The choice with a name. -/
def ColorChoice.ofName? : String → Option ColorChoice
  | "auto" => some .auto
  | "always" => some .always
  | "never" => some .never
  | _ => none

/-- A command and its arguments. -/
inductive Invocation where
  | check (files : List Path) (color : ColorChoice)
  | generateSchema (fileType : FileType) (indent : Nat) (source : DocsSource)
      (documentation : Option Path)
deriving DecidableEq, Inhabited, Repr

/-- Why a command line is not understood. -/
inductive UsageError where
  | noCommand
  | noFiles
  | noFileType
  | unexpected (argument : String)
  | invalidValue (option value : String)
  | docs (cause : DocsError)
deriving DecidableEq, Inhabited, Repr

def UsageError.message : UsageError → String
  | .noCommand => "no command is given (expected check or generate-schema)"
  | .noFiles => "no files are given"
  | .noFileType => "no file type is given"
  | .unexpected argument => "unexpected argument: \"" ++ argument ++ "\""
  | .invalidValue option value => "invalid value for " ++ option ++ ": \"" ++ value ++ "\""
  | .docs cause => cause.message

/-- Whether an argument asks for something other than a file. -/
def isOption (argument : String) : Bool := argument.toList.head? = some '-'

/-- The arguments of a check, after files and a choice of color that were read. -/
def parseCheck (files : List Path) (color : ColorChoice) :
    List String → Except UsageError Invocation
  | [] => if files.isEmpty then .error .noFiles else .ok (.check files color)
  | "--color" :: value :: rest =>
    match ColorChoice.ofName? value with
    | some color => parseCheck files color rest
    | none => .error (.invalidValue "--color" value)
  | argument :: rest =>
    if isOption argument then .error (.unexpected argument)
    else parseCheck (files ++ [.ofString argument]) color rest

/-- What is known of a schema that is wanted. -/
structure SchemaArguments where
  fileType : Option FileType := none
  indent : Nat := 2
  source : DocsSource := .builtin
  documentation : Option Path := none

/-- The arguments of a schema, after those that were read. -/
def parseSchema (known : SchemaArguments) : List String → Except UsageError Invocation
  | [] =>
    match known.fileType with
    | some fileType =>
      .ok (.generateSchema fileType known.indent known.source known.documentation)
    | none => .error .noFileType
  | "--indent" :: value :: rest =>
    match value.toNat? with
    | some indent => parseSchema { known with indent } rest
    | none => .error (.invalidValue "--indent" value)
  | "--source" :: value :: rest =>
    match DocsSource.parse value with
    | .ok source => parseSchema { known with source } rest
    | .error cause => .error (.docs cause)
  | "--documentation" :: value :: rest =>
    parseSchema { known with documentation := some (.ofString value) } rest
  | argument :: rest =>
    if isOption argument || known.fileType.isSome then .error (.unexpected argument)
    else
      match FileType.parse argument with
      | .ok fileType => parseSchema { known with fileType := some fileType } rest
      | .error cause => .error (.docs cause)

/-- The command that arguments ask for. -/
def parse : List String → Except UsageError Invocation
  | "check" :: rest => parseCheck [] .auto rest
  | "generate-schema" :: rest => parseSchema {} rest
  | argument :: _ => .error (.unexpected argument)
  | [] => .error .noCommand

end Autotools.CommandLine
