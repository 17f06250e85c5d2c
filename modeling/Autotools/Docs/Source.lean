import Autotools.Docs.Artifact
import Autotools.Docs.Builtin
import Autotools.Docs.Error
import Autotools.Docs.Manual

/-! Where a documentation table comes from: the table of the library, the manuals of the system, or
a cache of what the manuals gave. -/

namespace Autotools

/-- The variables of the environment that say where things are. -/
structure Environment where
  dataDirs : Option String
  cacheHome : Option String
  home : Option String
deriving Inhabited, Repr

/-- Where the table is taken from unless a file is named. -/
inductive DocsSource where
  | builtin
  | cache
  | system
deriving DecidableEq, Inhabited, Repr

namespace DocsSource

def name : DocsSource → String
  | .builtin => "builtin"
  | .cache => "cache"
  | .system => "system"

/-- The source with a name. -/
def ofName? : String → Option DocsSource
  | "builtin" => some .builtin
  | "cache" => some .cache
  | "system" => some .system
  | _ => none

/-- The source with a name that a user gave. -/
def parse (name : String) : Except DocsError DocsSource :=
  match ofName? name with
  | some source => .ok source
  | none => .error (.unknownSource name)

end DocsSource

/-- The type of file with a name that a user gave. -/
def FileType.parse (name : String) : Except DocsError FileType :=
  match FileType.ofName? name with
  | some fileType => .ok fileType
  | none => .error (.unknownFileType name)

namespace Docs

/-- The directories of info manuals that are searched last. -/
def fallbackDirs : List Path := [.ofString "/usr/share/info", .ofString "/usr/local/share/info"]

/-- The directories that are searched for info manuals: those of the data directories, then the
usual ones that are not among them. -/
def infoDirs (env : Environment) : List Path :=
  let named := ((env.dataDirs.getD "").toList.splitOn ':').filter (!·.isEmpty)
  let dirs := named.map fun dir => (Path.ofString (String.ofList dir)).join "info"
  fallbackDirs.foldl
    (fun dirs dir => if dirs.any (·.sameAs dir) then dirs else dirs ++ [dir]) dirs

/-- The cache file: in the cache directory if that is given by an absolute path, or else below the
home directory. -/
def cachePath? (env : Environment) : Option Path :=
  let given := (env.cacheHome.map Path.ofString).filter (·.isAbsolute)
  let home := (env.home.filter (!·.isEmpty)).map fun home => (Path.ofString home).join ".cache"
  (given <|> home).map fun dir =>
    (dir.join "autotools-language-server").join "autotools.json"

/-- The text of a manual file. A file named as compressed is decompressed. -/
def readManualFile (fs : FileSystem) (path : Path) (name : String) : Except DocsError String :=
  match fs.read path with
  | .error cause => .error (.read path cause)
  | .ok content =>
    if FileName.hasExtension name "gz" then
      match content.decompress with
      | .ok text => .ok text
      | .error cause => .error (.read path cause)
    else
      .ok content.lossyText

/-- The least file name in a directory that starts with a name. Names that are no text do not
count. -/
def candidate? (fs : FileSystem) (name : String) (dir : Path) : Option String :=
  match fs.list dir with
  | .error _ => none
  | .ok names =>
    let texts := names.filterMap (·.text?)
    ((texts.filter fun n => name.toList.isPrefixOf n.toList).mergeSort (· ≤ ·)).head?

/-- The text of a manual: the first directory that can be read and has a file whose name starts with
that of the manual decides. -/
def readManual (fs : FileSystem) (name : String) (dirs : List Path) : Except DocsError String :=
  match dirs.findSome? fun dir => (candidate? fs name dir).map fun file => (dir, file) with
  | some (dir, file) => readManualFile fs (dir.join file) file
  | none => .error (.manualNotFound name dirs)

/-- The text of the make manual, of which the second part suffices. -/
def readMakeManual (fs : FileSystem) (dirs : List Path) : Except DocsError String :=
  match readManual fs "make.info-2" dirs with
  | .ok text => .ok text
  | .error _ => readManual fs "make.info" dirs

/-- The table of the manuals in directories. -/
def extract (fs : FileSystem) (dirs : List Path) : Except DocsError Table :=
  match readManual fs "autoconf.info" dirs with
  | .error e => .error e
  | .ok autoconf =>
    match readMakeManual fs dirs with
    | .error e => .error e
    | .ok make =>
      .ok ((Table.empty.extend .config (Manual.autoconf.entries autoconf)).extend .make
        (Manual.make.entries make))

/-- The table in an artifact file. -/
def readArtifact (fs : FileSystem) (path : Path) : Except DocsError Table :=
  match fs.readText path with
  | .error cause => .error (.read path cause)
  | .ok text =>
    match Artifact.read? text with
    | some table => .ok table
    | none => .error (.artifact path)

/-- Writes a table to an artifact file, after making the directories above it. -/
def writeArtifact (fs : FileSystem) (path : Path) (table : Table) :
    FileSystem × Except DocsError Unit :=
  match fs.ensureAbove path with
  | (ready, some cause) => (ready, .error (.write path cause))
  | (ready, none) =>
    match ready.write path (.text (Artifact.render table)) with
    | .ok written => (written, .ok ())
    | .error cause => (ready, .error (.write path cause))

/-- What becomes of an extraction: its table is written to a cache file, and its failure leaves the
file system alone. A cache that cannot be written does no harm. -/
def cacheOutcome (fs : FileSystem) (path : Path) :
    Except DocsError Table → FileSystem × Except DocsError Table
  | .error e => (fs, .error e)
  | .ok table => ((writeArtifact fs path table).1, .ok table)

/-- The table of a cache file, which is made by an extraction if it is not there. The extraction may
have effects of its own. -/
def loadOrExtract {m : Type → Type} [Monad m] (fs : FileSystem) (path : Path)
    (extraction : m (Except DocsError Table)) : m (FileSystem × Except DocsError Table) :=
  if fs.isFile path then pure (fs, readArtifact fs path)
  else cacheOutcome fs path <$> extraction

/-- The table of a cache file, for an extraction without effects. -/
def loadCache (fs : FileSystem) (path : Path) (extraction : Except DocsError Table) :
    FileSystem × Except DocsError Table :=
  Id.run (loadOrExtract fs path (pure extraction))

/-- The table of a source. -/
def loadSource (env : Environment) (fs : FileSystem) :
    DocsSource → FileSystem × Except DocsError Table
  | .builtin => (fs, .ok Table.builtin)
  | .system => (fs, extract fs (infoDirs env))
  | .cache =>
    match cachePath? env with
    | none => (fs, .error .noCacheDirectory)
    | some path => loadCache fs path (extract fs (infoDirs env))

/-- The table of a file if one is named, or else of a source. -/
def load (env : Environment) (fs : FileSystem) (source : DocsSource) (path : Option Path) :
    FileSystem × Except DocsError Table :=
  match path with
  | some path => (fs, readArtifact fs path)
  | none => loadSource env fs source

end Docs

end Autotools
