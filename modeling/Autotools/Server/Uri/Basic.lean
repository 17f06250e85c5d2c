import Autotools.Server.Uri.Host

/-! The parts of a URI: a scheme, a host for some, and a path. A URI is taken as it is written, so
two that are not in normal form may name the same thing and be told apart. -/

namespace Autotools

/-- The parts of a URI that matter here: the host if it names one, and the path, of which a query
and a fragment are no part. -/
structure Uri where
  scheme : String
  host : Option String
  path : List Char
deriving DecidableEq, Inhabited, Repr

namespace Uri

/-- The scheme before the first colon and what follows it. A scheme starts with a letter. -/
def scheme? (s : List Char) : Option (List Char × List Char) :=
  let isMark (c : Char) : Bool := c == '+' || c == '-' || c == '.'
  let name := s.takeWhile fun c => c.isAlphanum || isMark c
  match s.drop name.length with
  | ':' :: rest => if name.head?.any (·.isAlpha) then some (name.map (·.toLower), rest) else none
  | _ => none

/-- The schemes whose URIs always have a host, which is a domain. -/
def hostedSchemes : List String := ["http", "https", "ws", "wss", "ftp"]

/-- The scheme of files, whose host is a domain if there is one. -/
def fileScheme : String := "file"

/-- The characters that end the part of a URI with the host. -/
def endsAuthority (special : Bool) (c : Char) : Bool :=
  c == '/' || c == '?' || c == '#' || (special && c == '\\')

/-- The host of the part before the path, and what follows the host. A colon ends the host, except
in brackets. -/
def splitHost : Bool → List Char → List Char × List Char
  | _, [] => ([], [])
  | bracketed, c :: rest =>
    if c == ':' && !bracketed then ([], c :: rest)
    else
      let (host, after) := splitHost ((bracketed || c == '[') && c != ']') rest
      (c :: host, after)

/-- Checks what follows a host: nothing, or a colon and the number of a port. -/
def checkPort : List Char → Except Fault Unit
  | ':' :: port =>
    if (digits? 10 port).any (· ≤ 65535) then .ok () else .error .badPort
  | _ => .ok ()

/-- The host of the part before the path, after the name of a user if that is there. -/
def authorityHost (special : Bool) (s : List Char) : Except Fault (List Char) := do
  let afterUser := (s.reverse.takeWhile (· ≠ '@')).reverse
  let (host, after) := splitHost false afterUser
  if host.isEmpty && (special || !after.isEmpty || afterUser.length < s.length) then
    .error .emptyHost
  else
    if special then checkDomain host else checkHost host
    checkPort after
    return host

/-- A path without query and fragment. -/
def barePath (s : List Char) : List Char := s.takeWhile fun c => c ≠ '?' && c ≠ '#'

/-- The parts of a URI with a host, or with the place for one, from that place on. -/
def withAuthority (scheme : List Char) (special : Bool)
    (host : List Char → Except Fault (List Char)) (s : List Char) : Except Fault Uri := do
  let authority := s.takeWhile (!endsAuthority special ·)
  let host ← host authority
  return ⟨String.ofList scheme, if host.isEmpty then none else some (String.ofList host),
    barePath (s.drop authority.length)⟩

/-- The host of a file, which may be left out. -/
def fileHost (s : List Char) : Except Fault (List Char) := do
  if !s.isEmpty then checkDomain s
  return s

/-- The parts of a URI. -/
def parse (uri : String) : Except Fault Uri :=
  match scheme? uri.toList with
  | none => .error .noScheme
  | some (scheme, rest) =>
    if hostedSchemes.contains (String.ofList scheme) then
      withAuthority scheme true (authorityHost true) (rest.dropWhile fun c => c == '/' || c == '\\')
    else
      match rest with
      | '/' :: '/' :: rest =>
        if String.ofList scheme = fileScheme then withAuthority scheme true fileHost rest
        else withAuthority scheme false (authorityHost false) rest
      | _ => .ok ⟨String.ofList scheme, none, barePath rest⟩

end Uri

end Autotools
