import Autotools.Command.Check
import Autotools.Command.GenerateSchema
import Autotools.Command.Line
import Autotools.Json.Parser
import Autotools.Syntax.Interchange

/-! The program. It takes what a command may look at into a file system value, runs the command on
that, and writes back a cache that the command made. The tree of a make file is read from a file
beside it with `.tree` after its name, where a parser has left it. -/

namespace Autotools.Main

open Syntax CommandLine

/-- The file system value that holds nothing but the directory the program runs in. -/
def emptyFiles : IO FileSystem := do
  let here := Path.ofString (← IO.currentDir).toString
  return .emptyAt (here.segments.filter (!·.isEmpty))

/-- Takes a file or a directory with its files into a file system value. -/
def capture (files : FileSystem) (path : Path) : IO FileSystem := do
  let place := (← IO.currentDir) / path.display
  try
    if ← place.isDir then
      let mut files := (files.ensureDirectory path).1
      for entry in ← place.readDir do
        let inner := path.join entry.fileName
        if ← entry.path.isDir then
          files := (files.ensureDirectory inner).1
        else
          files := files.install inner (.bytes (← IO.FS.readBinFile entry.path).toList)
      return files
    else
      return files.install path (.bytes (← IO.FS.readBinFile place).toList)
  catch _ => return files

/-- The tree that a parser has left beside a file. -/
def treeBeside? (files : FileSystem) (path : Path) : Option Tree := do
  let text ← (files.readText (path.append ".tree")).toOption
  Tree.ofValue? (← Json.parseStrict? text)

/-- The parser that knows the trees left beside some files. -/
def parserFor (files : FileSystem) (paths : List Path) : Parser :=
  let trees := paths.filterMap fun path => do
    let source ← (files.readText path).toOption
    return (closedSource source, ← treeBeside? files path)
  fun source => (trees.lookup source).getD default

/-- The files that a make file requires to be there. -/
def required (files : FileSystem) (parser : Parser) (path : Path) : List Path :=
  match files.readText path, Check.directoryOf path with
  | .ok source, some directory =>
    (Diagnosis.requiredPaths (SyntaxTree.parse parser source)).map fun n => directory.join n.text
  | _, _ => []

def runCheck (paths : List Path) (color : ColorChoice) : IO UInt32 := do
  let stderr ← IO.getStderr
  let colored ← match color with
    | .auto => stderr.isTty
    | .always => pure true
    | .never => pure false
  let beside := paths.map fun path => (path.append ".tree" : Path)
  let files ← (paths ++ beside).foldlM capture (← emptyFiles)
  let parser := parserFor files paths
  let files ← (paths.flatMap (required files parser)).foldlM capture files
  let outcome := Check.run parser files colored paths
  stderr.putStr outcome.output
  match outcome.result with
  | .ok _ => return 0
  | .error failure =>
    stderr.putStrLn ("Error: " ++ ": ".intercalate failure.messages)
    return 1

def environment : IO Environment := do
  return ⟨← IO.getEnv "XDG_DATA_DIRS", ← IO.getEnv "XDG_CACHE_HOME", ← IO.getEnv "HOME"⟩

/-- Writes a cache that was not there before. -/
def writeCache (before after : FileSystem) (path : Path) : IO Unit := do
  match (before.readText path).toOption, (after.readText path).toOption with
  | none, some text =>
    try
      if let some directory := path.parent? then IO.FS.createDirAll directory.display
      IO.FS.writeFile path.display text
    catch _ => return
  | _, _ => return

def runSchema (fileType : FileType) (indent : Nat) (source : DocsSource)
    (documentation : Option Path) : IO UInt32 := do
  let env ← environment
  let wanted := documentation.toList ++ (Docs.cachePath? env).toList ++ Docs.infoDirs env
  let files ← wanted.foldlM capture (← emptyFiles)
  let (after, printed) := GenerateSchema.run env files fileType indent source documentation
  if let some path := Docs.cachePath? env then writeCache files after path
  match printed with
  | .ok text =>
    IO.print text
    return 0
  | .error cause =>
    IO.eprintln ("Error: " ++ cause.message)
    return 1

end Autotools.Main

open Autotools in
def main (args : List String) : IO UInt32 := do
  match CommandLine.parse args with
  | .ok (.check files color) => Main.runCheck files color
  | .ok (.generateSchema fileType indent source documentation) =>
    Main.runSchema fileType indent source documentation
  | .error cause =>
    IO.eprintln ("error: " ++ cause.message)
    return 2
