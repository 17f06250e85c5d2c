/-! The hosts that a URI may name: a domain, or an address in numbers. -/

namespace Autotools.Uri

/-- Why a text is not a URI. -/
inductive Fault where
  | noScheme
  | emptyHost
  | badPort
  | badIpv4
  | badIpv6
  | badDomain
  | badHostCharacter
deriving DecidableEq, Inhabited, Repr

/-- The wording of a fault. -/
def Fault.message : Fault → String
  | .noScheme => "relative URL without a base"
  | .emptyHost => "empty host"
  | .badPort => "invalid port number"
  | .badIpv4 => "invalid IPv4 address"
  | .badIpv6 => "invalid IPv6 address"
  | .badDomain => "invalid international domain name"
  | .badHostCharacter => "invalid domain character"

/-- The value of a hexadecimal digit. -/
def hexValue? (c : Char) : Option Nat :=
  if c.isDigit then some (c.toNat - '0'.toNat)
  else if 'a' ≤ c.toLower && c.toLower ≤ 'f' then some (c.toLower.toNat - 'a'.toNat + 10)
  else none

/-- The bytes of a percent-coded text. A percent sign without two digits stands for itself. -/
def decodedBytes : List Char → List UInt8
  | [] => []
  | '%' :: a :: b :: rest =>
    match hexValue? a, hexValue? b with
    | some high, some low => (high * 16 + low).toUInt8 :: decodedBytes rest
    | _, _ => '%'.toNat.toUInt8 :: decodedBytes (a :: b :: rest)
  | c :: rest => String.utf8EncodeChar c ++ decodedBytes rest

/-- The number that digits of a base stand for. -/
def digits? (base : Nat) (s : List Char) : Option Nat :=
  s.foldlM (fun n c => ((hexValue? c).filter (· < base)).map fun d => n * base + d) 0

/-- A number in an address: octal after a zero, and hexadecimal after a zero and an `x`. -/
def addressNumber? : List Char → Option Nat
  | [] => none
  | '0' :: 'x' :: rest | '0' :: 'X' :: rest => digits? 16 rest
  | '0' :: c :: rest => digits? 8 (c :: rest)
  | s => digits? 10 s

/-- The labels of a domain, without an empty one at the end. -/
def labels (s : List Char) : List (List Char) :=
  match (s.splitOn '.').reverse with
  | [] :: last :: rest => (last :: rest).reverse
  | _ => s.splitOn '.'

/-- Whether a host ends like an address of four numbers. -/
def endsInNumber (s : List Char) : Bool :=
  match (labels s).getLast? with
  | none | some [] => false
  | some last => last.all (·.isDigit) || (addressNumber? last).isSome

/-- Whether a host is an address of at most four numbers: all but the last are bytes, and the last
one fills the bytes that are left. -/
def isIpv4 (s : List Char) : Bool :=
  match (labels s).mapM addressNumber? with
  | none => false
  | some numbers =>
    numbers.length ≤ 4 && numbers.dropLast.all (· < 256) &&
      numbers.getLast?.any (· < 1 <<< (8 * (5 - numbers.length)))

/-- A byte in decimal digits, without zeros in front. -/
def isPlainByte (s : List Char) : Bool :=
  !s.isEmpty && s.all (·.isDigit) && (s.length = 1 || s.head? ≠ some '0') &&
    (digits? 10 s).any (· < 256)

/-- How many groups of sixteen bits a part of an address has: groups of hexadecimal digits between
colons, and four bytes in the place of the last two groups if that is allowed. -/
def groups? (bytesAllowed : Bool) (s : List Char) : Option Nat :=
  if s.isEmpty then some 0
  else
    let isGroup (g : List Char) : Bool :=
      !g.isEmpty && g.length ≤ 4 && g.all fun c => (hexValue? c).isSome
    let isBytes (g : List Char) : Bool :=
      (g.splitOn '.').length = 4 && (g.splitOn '.').all isPlainByte
    let parts := s.splitOn ':'
    if parts.all isGroup then some parts.length
    else if bytesAllowed && parts.dropLast.all isGroup && parts.getLast?.any isBytes then
      some (parts.length + 1)
    else none

/-- The two sides of the first two colons that stand together. -/
def gap? : List Char → Option (List Char × List Char)
  | ':' :: ':' :: rest => some ([], rest)
  | c :: rest => (gap? rest).map fun sides => (c :: sides.1, sides.2)
  | [] => none

/-- Whether a text is an address of eight groups, of which two colons together leave some out. -/
def isIpv6 (s : List Char) : Bool :=
  match gap? s with
  | none => groups? true s = some 8
  | some (before, after) =>
    match groups? false before, groups? true after with
    | some m, some n => m + n ≤ 7
    | _, _ => false

/-- The characters that a domain must not have. -/
def isForbidden (c : Char) : Bool :=
  c.toNat ≤ 0x20 || c.toNat = 0x7F || "%#/:<>?@[\\]^|".toList.contains c

/-- The characters that no host must have. -/
def isForbiddenAnywhere (c : Char) : Bool :=
  "\x00\t\n\r #/:<>?@[\\]^|".toList.contains c

/-- Checks an address in brackets. -/
def checkBracketed (s : List Char) : Except Fault Unit :=
  if s.getLast? = some ']' && isIpv6 (s.drop 1).dropLast then .ok () else .error .badIpv6

/-- Checks the host of a scheme whose hosts are domains. -/
def checkDomain (s : List Char) : Except Fault Unit :=
  if s.head? = some '[' then checkBracketed s
  else
    let domain := (decodedBytes s).map fun b => Char.ofNat b.toNat
    if domain.any isForbidden then .error .badDomain
    else if domain.isEmpty then .error .emptyHost
    else if endsInNumber domain && !isIpv4 domain then .error .badIpv4
    else .ok ()

/-- Checks the host of any other scheme. -/
def checkHost (s : List Char) : Except Fault Unit :=
  if s.head? = some '[' then checkBracketed s
  else if s.any isForbiddenAnywhere then .error .badHostCharacter
  else .ok ()

end Autotools.Uri
