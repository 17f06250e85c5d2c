import Autotools.Files.Path
import Autotools.Server.Uri.Basic

/-! Files as URIs. Bytes that a URI cannot show are written as a percent sign and two hexadecimal
digits. -/

namespace Autotools.Uri

open Text (Decoded)

/-- The visible characters that have a meaning of their own in a URI, or none. -/
def reserved : List Char := ['"', '#', '%', '/', '<', '>', '?', '\\', '`', '\x7b', '\x7d']

/-- The characters that stand for themselves in a segment of a path. -/
def isPlain (c : Char) : Bool :=
  0x21 ≤ c.toNat && c.toNat ≤ 0x7E && !reserved.contains c

def hexUpper (n : Nat) : Char := (Nat.digitChar n).toUpper

/-- The percent-coded form of a byte. -/
def codedByte (b : UInt8) : List Char := ['%', hexUpper (b.toNat / 16), hexUpper (b.toNat % 16)]

/-- The percent-coded form of a unit of a name. -/
def codedUnit : Decoded → List Char
  | .char c => if isPlain c then [c] else (String.utf8EncodeChar c).flatMap codedByte
  | .malformed bytes => bytes.flatMap codedByte

/-- A path that ends like the name of a drive is closed by a slash. -/
def closeDrive (path : List Decoded) : List Decoded :=
  match path.reverse with
  | .char mark :: .char letter :: _ :: _ =>
    if (mark = ':' || mark = '|') && letter.isAlpha then path ++ [Path.slash] else path
  | _ => path

/-- The name by which a host calls itself. -/
def ownHost : String := "localhost"

/-- The path that a URI names on this host, whatever its scheme. -/
def filePath? (u : Uri) : Option Path :=
  if u.path.head? = some '/' && u.host.all (· = ownHost) then
    some ⟨closeDrive (Text.decode (decodedBytes u.path))⟩
  else
    none

/-- The path that the text of a URI names on this host. -/
def filePathOf? (uri : String) : Option Path := (parse uri).toOption.bind (·.filePath?)

/-- A part of a path as it stands in a URI. -/
def codedPart : PathPart → Option (List Char)
  | .root | .here => none
  | .up => some "..".toList
  | .name n => some (n.units.flatMap codedUnit)

/-- The URI of a file with an absolute path. -/
def ofPath? (p : Path) : Option String :=
  if p.isAbsolute then
    let parts := p.parts.filterMap codedPart
    let written := if parts.isEmpty then ['/'] else parts.flatMap ('/' :: ·)
    some ("file://" ++ String.ofList written)
  else
    none

end Autotools.Uri
