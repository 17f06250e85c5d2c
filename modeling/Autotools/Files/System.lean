import Autotools.Files.Path
import Autotools.Gzip.Member

/-! A file system as a value: what is stored at which location. Operations follow a path name by
name, and fail for the cause that an operating system gives. -/

namespace Autotools

/-- Why a file operation failed. -/
inductive FileError where
  | notFound
  | alreadyExists
  | notDirectory
  | isDirectory
  | invalidUtf8
  | badGzip (cause : Gzip.Failure)
deriving DecidableEq, Inhabited, Repr

/-- The wording of a failure. -/
def FileError.message : FileError → String
  | .notFound => "No such file or directory (os error 2)"
  | .alreadyExists => "File exists (os error 17)"
  | .notDirectory => "Not a directory (os error 20)"
  | .isDirectory => "Is a directory (os error 21)"
  | .invalidUtf8 => "stream did not contain valid UTF-8"
  | .badGzip cause => cause.message

/-- What a file holds: text, bytes, or the compressed form of a text. -/
inductive Content where
  | text (s : String)
  | bytes (b : List UInt8)
  | gzip (s : String)
deriving DecidableEq, Inhabited, Repr

namespace Content

/-- The text of a content that is one. -/
def text? : Content → Except FileError String
  | .text s => .ok s
  | .bytes b =>
    match Text.decode? b with
    | some s => .ok (String.ofList s)
    | none => .error .invalidUtf8
  | .gzip _ => .error .invalidUtf8

/-- The text of any content, with replacement characters where it is none. -/
def lossyText : Content → String
  | .text s => s
  | .bytes b => String.ofList (Text.decodeLossy b)
  | .gzip _ => "\uFFFD"

/-- The text that bytes unpack to. -/
def unpack (b : List UInt8) : Except FileError String :=
  match Gzip.decompress b with
  | .ok content => .ok (String.ofList (Text.decodeLossy content))
  | .error cause => .error (.badGzip cause)

/-- The text of a compressed content. -/
def decompress : Content → Except FileError String
  | .gzip s => .ok s
  | .text s => unpack (Text.encode s.toList)
  | .bytes b => unpack b

end Content

/-- What is stored at a location. -/
inductive Entry where
  | directory
  | file (content : Content)
deriving DecidableEq, Inhabited, Repr

/-- A place in a file system: the names that lead to it from the root. -/
abbrev FileSystem.Location := List FileName

open FileSystem (Location)

/-- The stored entries and the location from which relative paths start. The root is a directory
without being stored. -/
structure FileSystem where
  entries : List (Location × Entry)
  workingDirectory : Location
deriving Inhabited, Repr

namespace FileSystem

/-- What is at a location. -/
def entry? (fs : FileSystem) (location : Location) : Option Entry :=
  if location.isEmpty then some .directory else fs.entries.lookup location

/-- Stores an entry, in place of what was there. -/
def put (fs : FileSystem) (location : Location) (entry : Entry) : FileSystem :=
  { fs with entries := (location, entry) :: fs.entries.filter (·.1 ≠ location) }

/-- Removes what is at a location. -/
def erase (fs : FileSystem) (location : Location) : FileSystem :=
  { fs with entries := fs.entries.filter (·.1 ≠ location) }

/-- One step along a path, which must start in a directory. -/
def enter (fs : FileSystem) (here : Location) (segment : FileName) : Except FileError Location :=
  match fs.entry? here with
  | none => .error .notFound
  | some (.file _) => .error .notDirectory
  | some .directory =>
    if segment.isIdle then .ok here
    else if segment = .above then .ok here.dropLast
    else if (fs.entry? (here ++ [segment])).isSome then .ok (here ++ [segment])
    else .error .notFound

/-- Several steps along a path. -/
def follow (fs : FileSystem) (here : Location) : List FileName → Except FileError Location
  | [] => .ok here
  | segment :: rest =>
    match fs.enter here segment with
    | .ok next => fs.follow next rest
    | .error e => .error e

/-- Where a path starts. -/
def start (fs : FileSystem) (p : Path) : Location :=
  if p.isAbsolute then [] else fs.workingDirectory

/-- The location that a path names. The empty path names none. -/
def resolve (fs : FileSystem) (p : Path) : Except FileError Location :=
  if p.isEmpty then .error .notFound else fs.follow (fs.start p) p.segments

/-- What a path names. -/
def find? (fs : FileSystem) (p : Path) : Option Entry :=
  match fs.resolve p with
  | .ok location => fs.entry? location
  | .error _ => none

def isFile (fs : FileSystem) (p : Path) : Bool :=
  match fs.find? p with
  | some (.file _) => true
  | _ => false

def isDirectory (fs : FileSystem) (p : Path) : Bool := fs.find? p = some .directory

/-- The content of a file. -/
def read (fs : FileSystem) (p : Path) : Except FileError Content :=
  match fs.resolve p with
  | .error e => .error e
  | .ok location =>
    match fs.entry? location with
    | some (.file content) => .ok content
    | some .directory => .error .isDirectory
    | none => .error .notFound

/-- The content of a file that holds text. -/
def readText (fs : FileSystem) (p : Path) : Except FileError String :=
  match fs.read p with
  | .ok content => content.text?
  | .error e => .error e

/-- The names in a directory. -/
def list (fs : FileSystem) (p : Path) : Except FileError (List FileName) :=
  match fs.resolve p with
  | .error e => .error e
  | .ok location =>
    match fs.entry? location with
    | some .directory =>
      .ok ((fs.entries.filter fun e => !e.1.isEmpty && e.1.dropLast == location).filterMap
        (·.1.getLast?))
    | some (.file _) => .error .notDirectory
    | none => .error .notFound

/-- Where a path asks for something to be made: the directory and the name in it, which is none for
the root. -/
def site (fs : FileSystem) (p : Path) : Except FileError (Location × Option FileName) :=
  if p.isEmpty then .error .notFound
  else
    match (p.segments.reverse.dropWhile (·.isEmpty)) with
    | [] => .ok ([], none)
    | last :: above =>
      match fs.follow (fs.start p) (above.reverse ++ [.here]) with
      | .ok directory => .ok (directory, some last)
      | .error e => .error e

/-- The file system with a file written. A path that ends in a slash asks for a directory. -/
def write (fs : FileSystem) (p : Path) (content : Content) : Except FileError FileSystem :=
  match fs.site p with
  | .error e => .error e
  | .ok (_, none) => .error .isDirectory
  | .ok (directory, some name) =>
    if p.endsInSlash || name.isDots then .error .isDirectory
    else
      match fs.entry? (directory ++ [name]) with
      | some .directory => .error .isDirectory
      | _ => .ok (fs.put (directory ++ [name]) (.file content))

/-- The file system with one more directory. -/
def makeDirectory (fs : FileSystem) (p : Path) : Except FileError FileSystem :=
  match fs.site p with
  | .error e => .error e
  | .ok (_, none) => .error .alreadyExists
  | .ok (directory, some name) =>
    if name.isDots || (fs.entry? (directory ++ [name])).isSome then .error .alreadyExists
    else .ok (fs.put (directory ++ [name]) .directory)

/-- Makes a directory that may be there already. -/
def ensureLast (fs : FileSystem) (p : Path) : Except FileError FileSystem :=
  match fs.makeDirectory p with
  | .ok made => .ok made
  | .error e => if fs.isDirectory p then .ok fs else .error e

/-- Makes a directory and those above it, at most `depth` of them. A failure keeps the directories
made before it. -/
def ensureUpTo : Nat → FileSystem → Path → FileSystem × Option FileError
  | 0, fs, _ => (fs, some .notFound)
  | depth + 1, fs, p =>
    if p.isEmpty then (fs, none)
    else
      match fs.ensureLast p with
      | .ok made => (made, none)
      | .error .notFound =>
        match p.parent? with
        | none => (fs, some .notFound)
        | some parent =>
          match ensureUpTo depth fs parent with
          | (made, some e) => (made, some e)
          | (made, none) =>
            match made.ensureLast p with
            | .ok made => (made, none)
            | .error e => (made, some e)
      | .error e => (fs, some e)

/-- Makes a directory and those above it. The empty path is always there. -/
def ensureDirectory (fs : FileSystem) (p : Path) : FileSystem × Option FileError :=
  ensureUpTo (p.units.length + 1) fs p

/-- Makes the directories above a path. -/
def ensureAbove (fs : FileSystem) (p : Path) : FileSystem × Option FileError :=
  match p.parent? with
  | some parent => fs.ensureDirectory parent
  | none => (fs, none)

/-- Removes a file, and says whether there was one. -/
def remove (fs : FileSystem) (p : Path) : FileSystem × Bool :=
  match fs.resolve p with
  | .error _ => (fs, false)
  | .ok location =>
    match fs.entry? location with
    | some (.file _) => (fs.erase location, true)
    | _ => (fs, false)

/-- Stores a file and the directories above it, as far as that can be done. -/
def install (fs : FileSystem) (p : Path) (content : Content) : FileSystem :=
  let ready := (fs.ensureAbove p).1
  match ready.write p content with
  | .ok written => written
  | .error _ => ready

/-- A file system that holds nothing but its working directory. -/
def emptyAt (workingDirectory : Location) : FileSystem :=
  let above := (List.range workingDirectory.length).map fun n => workingDirectory.take (n + 1)
  ⟨above.map fun location => (location, .directory), workingDirectory⟩

end FileSystem

end Autotools
