import Autotools.Docs.Source

/-! What the server is told about its documentation: on the command line, and by the client's
options on top of that. -/

namespace Autotools

/-- Where the server takes its documentation from. A file that is named wins over the source. -/
structure ServerConfig where
  source : DocsSource
  path : Option Path
deriving DecidableEq, Inhabited, Repr

/-- What a client asks for. -/
structure Options where
  source : Option DocsSource
  path : Option Path
deriving DecidableEq, Inhabited, Repr

namespace Options

/-- A client that asks for nothing. -/
def empty : Options := ⟨none, none⟩

def isEmpty (o : Options) : Bool := o.source.isNone && o.path.isNone

/-- The source that a value names: its name, or an object with that name alone and null under it.
Null names none. -/
def source? : Json.Value → Option (Option DocsSource)
  | .null => some none
  | .string name => (DocsSource.ofName? name).map some
  | .object [(name, .null)] => (DocsSource.ofName? name).map some
  | _ => none

/-- The path that a value gives. Null gives none. -/
def path? : Json.Value → Option (Option Path)
  | .null => some none
  | .string text => some (some (.ofString text))
  | _ => none

/-- The value under a key, or null. -/
def memberOrNull (v : Json.Value) (key : String) : Json.Value := (v.member? key).getD .null

/-- The options in a value: an object in which the source has two names that exclude each other, or
an array of source and path. Null is no options. -/
def ofValue? : Json.Value → Option Options
  | .null => some empty
  | .object members =>
    let v : Json.Value := .object members
    let sourceKey := if (v.member? "method").isSome then "method" else "documentationSource"
    if (v.member? "documentationSource").isSome && (v.member? "method").isSome then none
    else do
      let source ← source? (memberOrNull v sourceKey)
      let path ← path? (memberOrNull v "documentationPath")
      return ⟨source, path⟩
  | .array [] => some empty
  | .array [source] => do return ⟨← source? source, none⟩
  | .array [source, path] => do return ⟨← source? source, ← path? path⟩
  | _ => none

end Options

namespace ServerConfig

/-- The configuration that a client's options leave: a source given by the client also drops the
file that was named before. -/
def merge (c : ServerConfig) (o : Options) : ServerConfig :=
  let sourced : ServerConfig := match o.source with
    | some source => ⟨source, none⟩
    | none => c
  { sourced with path := o.path <|> sourced.path }

/-- The table that a configuration names. -/
def load (c : ServerConfig) (env : Environment) (fs : FileSystem) :
    FileSystem × Except DocsError Table :=
  Docs.load env fs c.source c.path

end ServerConfig

end Autotools
