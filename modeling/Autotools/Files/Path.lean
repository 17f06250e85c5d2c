import Autotools.Text.Utf8

/-! Paths as they are written: names divided by slashes. A name is a text as a rule, but may hold
bytes that are none. -/

namespace Autotools

open Text (Decoded)

/-- A name in a path. -/
structure FileName where
  units : List Decoded
deriving DecidableEq, Inhabited, Repr

namespace FileName

def ofString (s : String) : FileName := ⟨s.toList.map .char⟩

/-- The text of a name that is one. -/
def text? (n : FileName) : Option String := (Text.text? n.units).map String.ofList

/-- The name of a directory in itself. -/
def here : FileName := ofString "."

/-- The name in a directory of the one above it. -/
def above : FileName := ofString ".."

/-- Between two slashes there is no name. -/
def isEmpty (n : FileName) : Bool := n.units.isEmpty

/-- Whether a name leads nowhere. -/
def isIdle (n : FileName) : Bool := n.isEmpty || n = here

/-- Whether a name is a way to move rather than a name that could be given. -/
def isDots (n : FileName) : Bool := n = here || n = above

/-- Whether the text of a name carries an extension. A name that only starts with a dot has none. -/
def hasExtension (name extension : String) : Bool :=
  match (name.toList.splitOn '.').reverse with
  | last :: stem :: rest => last == extension.toList && !(stem.isEmpty && rest.isEmpty)
  | _ => false

end FileName

/-- A path as written. -/
structure Path where
  units : List Decoded
deriving DecidableEq, Inhabited, Repr

/-- A part of a path that leads somewhere. -/
inductive PathPart where
  | root
  | here
  | up
  | name (n : FileName)
deriving DecidableEq, Inhabited, Repr

namespace Path

def ofString (s : String) : Path := ⟨s.toList.map .char⟩

/-- The text of a path that is one. -/
def text? (p : Path) : Option String := (Text.text? p.units).map String.ofList

/-- A path as it is shown. -/
def display (p : Path) : String := String.ofList (p.units.map (·.shown))

def isEmpty (p : Path) : Bool := p.units.isEmpty

def slash : Decoded := .char '/'

def isAbsolute (p : Path) : Bool := p.units.head? = some slash

/-- Whether a path asks for a directory by its last slash. -/
def endsInSlash (p : Path) : Bool := p.units.getLast? = some slash

/-- What stands between slashes. -/
def split (units : List Decoded) : List FileName := (units.splitOn slash).map FileName.mk

/-- What stands between the slashes of a path. -/
def segments (p : Path) : List FileName := split p.units

/-- The path with some text written after it. -/
def append (p : Path) (s : String) : Path := ⟨p.units ++ s.toList.map .char⟩

/-- The second path taken from the first: an absolute path stands alone. -/
def join (p : Path) (q : String) : Path :=
  if (ofString q).isAbsolute then ofString q
  else if p.isEmpty || p.endsInSlash then p.append q
  else (p.append "/").append q

/-- Drops the parts that lead nowhere from the front of segments in reverse order: empty ones, and
dots unless one stands first in a relative path. -/
def dropIdle (relative : Bool) : List FileName → List FileName
  | [] => []
  | [n] => if n.isEmpty || (n = .here && !relative) then [] else [n]
  | n :: m :: rest => if n.isIdle then dropIdle relative (m :: rest) else n :: m :: rest

/-- The path without its last part, cut off as it is written; neither the empty path nor the root
has a last part. -/
def parent? (p : Path) : Option Path :=
  let body := if p.isAbsolute then p.units.drop 1 else p.units
  match dropIdle (!p.isAbsolute) (split body).reverse with
  | [] => none
  | _ :: rest =>
    let kept := [slash].intercalate ((dropIdle (!p.isAbsolute) rest).reverse.map (·.units))
    some ⟨if p.isAbsolute then slash :: kept else kept⟩

/-- The parts of a path. Doubled and trailing slashes and inner dots are none. -/
def parts (p : Path) : List PathPart :=
  let part (n : FileName) : Option PathPart :=
    if n.isIdle then none else if n = .above then some .up else some (.name n)
  let lead : List PathPart :=
    if p.isAbsolute then [.root] else if p.segments.head? = some .here then [.here] else []
  lead ++ p.segments.filterMap part

/-- Whether two paths are written alike up to slashes and dots that lead nowhere. -/
def sameAs (p q : Path) : Bool := p.parts == q.parts

/-- A path made from a text has that text. -/
@[simp] theorem text?_ofString (s : String) : (ofString s).text? = some s := by
  simp [ofString, text?]

/-- A path made from a text is shown as that text. -/
@[simp] theorem display_ofString (s : String) : (ofString s).display = s := by
  simp [ofString, display, Function.comp_def, Text.Decoded.shown]

end Path

end Autotools
