import Autotools.SortedMap
import Autotools.Text.Blank
import Autotools.Text.Bytes
import Autotools.Text.Line

/-! Descriptions taken from the info manuals. A manual marks the names it documents on lines of
their own; marker lines that follow each other share one block, whose body runs on over the lines
that belong to it. Each manual has a convention for its markers and bodies. -/

namespace Autotools.Manual

/-- A marker line: the signature it shows, and the name that the signature documents, if any. -/
structure Marker where
  signature : List Char
  name : Option (List Char)
deriving DecidableEq, Inhabited, Repr

/-- How a manual marks names: which lines are markers, which other lines belong to the block before
them, and the language of its signatures. -/
structure Convention where
  fence : String
  marker? : List Char → Option Marker
  belongs : List Char → Bool

/-- A documented block: its names, their signatures, and the lines of its body. -/
structure Block where
  names : List String
  signatures : List String
  body : List (List Char)
deriving Inhabited, Repr

/-- Wrapped lines joined to paragraphs: blank lines divide them, and a paragraph is one line. -/
def paragraphs (lines : List (List Char)) : List Char :=
  let groups := (lines.map Text.trim).splitOnP List.isEmpty
  ['\n', '\n'].intercalate
    ((groups.filter (!·.isEmpty)).map fun group => [' '].intercalate group)

namespace Block

def empty : Block := ⟨[], [], []⟩

/-- A block is open once it has a name. -/
def isOpen (b : Block) : Bool := !b.names.isEmpty

/-- The signatures as a block of code. -/
def code (b : Block) (fence : String) : String :=
  "```" ++ fence ++ "\n" ++ "\n".intercalate b.signatures ++ "\n```"

/-- What is said of a name. A signature that is the name alone is left out. -/
def description (b : Block) (fence name : String) : String :=
  let text := String.ofList (paragraphs b.body)
  if b.signatures = [name] then text
  else if text.isEmpty then b.code fence
  else b.code fence ++ "\n" ++ text

/-- The descriptions of all names of a block. -/
def entries (b : Block) (fence : String) : List (String × String) :=
  b.names.map fun name => (name, b.description fence name)

/-- The block with a marker added. A marker without a name adds nothing. -/
def addMarker (b : Block) (m : Marker) : Block :=
  match m.name with
  | none => b
  | some name =>
    { b with
      names := b.names ++ [String.ofList name]
      signatures := b.signatures ++ [String.ofList m.signature] }

def addLine (b : Block) (line : List Char) : Block := { b with body := b.body ++ [line] }

end Block

/-- How far a manual has been read: the descriptions so far, the block being read, and whether the
last line was a marker. -/
structure Progress where
  entries : SortedMap String
  block : Block
  afterMarker : Bool
deriving Inhabited, Repr

namespace Convention

variable (c : Convention)

/-- Ends the block being read. -/
def flush (p : Progress) : Progress :=
  { p with entries := p.entries.insertAll (p.block.entries c.fence), block := .empty }

/-- Reads one line. A marker opens a block unless it follows another marker; a line that does not
belong to the block ends it. -/
def step (p : Progress) (line : List Char) : Progress :=
  match c.marker? line with
  | some marker =>
    let p := if p.afterMarker then p else c.flush p
    { p with block := p.block.addMarker marker, afterMarker := true }
  | none =>
    if c.belongs line then
      { p with block := if p.block.isOpen then p.block.addLine line else p.block,
               afterMarker := false }
    else
      { c.flush p with afterMarker := false }

/-- The descriptions of a manual given as lines. -/
def read (lines : List (List Char)) : SortedMap String :=
  (c.flush (lines.foldl c.step ⟨.empty, .empty, false⟩)).entries

/-- The descriptions of a manual. -/
def entries (manual : String) : SortedMap String := c.read (Text.lines manual.toList)

end Convention

/-- What marks a line in the autoconf manual. -/
def autoconfMark : List Char := " -- Macro: ".toList

/-- A marker of the autoconf manual documents the first word of its signature. -/
def autoconfMarker? (line : List Char) : Option Marker :=
  if autoconfMark.isPrefixOf line then
    let signature := line.drop autoconfMark.length
    let name := signature.takeWhile (· ≠ ' ')
    some ⟨Text.trimEnd signature, if name.isEmpty then none else some name⟩
  else
    none

/-- A line belongs to a block of the autoconf manual if it is too short to have a fifth byte, or has
a space there. -/
def autoconfBelongs (line : List Char) : Bool :=
  Text.byteLength line < 5 || Text.charAtByte? line 4 = some ' '

def autoconf : Convention := ⟨"m4", autoconfMarker?, autoconfBelongs⟩

/-- A text without the quotes at its ends. -/
def unquoted (s : List Char) : List Char := Text.dropEndWhile (· = '\'') (s.dropWhile (· = '\''))

/-- Signatures that are options of the command line, or numbers of an exit status. -/
def isOption (signature : List Char) : Bool :=
  (signature.head? = some '-' && signature ≠ "-include".toList) ||
    ["0".toList, "1".toList, "2".toList].contains signature

/-- The name in a signature of the make manual: `$(subst FROM,TO,TEXT)` is about `subst`. -/
def makeName? (signature : List Char) : Option (List Char) :=
  let inner := signature.dropWhile fun c => c = '$' || c = '('
  (Text.words (Text.dropEndWhile (· = ')') inner)).head?

/-- A marker of the make manual is a quoted signature on a line of its own. -/
def makeMarker? (line : List Char) : Option Marker :=
  if line.length ≥ 2 && line.head? = some '\'' && line.getLast? = some '\'' then
    let signature := unquoted line
    if isOption signature then none else some ⟨signature, makeName? signature⟩
  else
    none

/-- A line belongs to a block of the make manual if it is empty or indented by five spaces. -/
def makeBelongs (line : List Char) : Bool :=
  line.isEmpty || (List.replicate 5 ' ').isPrefixOf line

def make : Convention := ⟨"make", makeMarker?, makeBelongs⟩

end Autotools.Manual
