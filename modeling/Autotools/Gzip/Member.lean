import Autotools.Gzip.Checksum
import Autotools.Gzip.Inflate

/-! A compressed file: a header, the compressed data, and a trailer with the checksum and the size
of what was packed. -/

namespace Autotools.Gzip

/-- The next `n` bytes of data and those that follow. -/
def splitData (n : Nat) (data : List UInt8) : Except Failure (List UInt8 × List UInt8) :=
  if data.length < n then .error .truncated else .ok (data.take n, data.drop n)

/-- The number in some bytes, of which the first is the lowest. -/
def littleEndian : List UInt8 → Nat
  | [] => 0
  | b :: rest => b.toNat + 256 * littleEndian rest

/-- The number of bytes that a header has at least. -/
def headerSize : Nat := 10

/-- The greatest number of bytes in a name or a comment. -/
def maxField : Nat := 65535

/-- What a header announces. -/
structure Flags where
  checksum : Bool
  extra : Bool
  name : Bool
  comment : Bool
deriving DecidableEq, Inhabited, Repr

/-- The flags of a header: two bytes that mark the format, one for the method, one for the flags, of
which three bits must not be set, and six that do not matter here. -/
def flags? : List UInt8 → Option Flags
  | 0x1F :: 0x8B :: 8 :: f :: _ =>
    if f.toNat < 32 then
      some ⟨f.toNat.testBit 1, f.toNat.testBit 2, f.toNat.testBit 3, f.toNat.testBit 4⟩
    else none
  | _ => none

/-- Data after a field that gives its own size. -/
def skipExtra (data : List UInt8) : Except Failure (List UInt8) := do
  let (size, rest) ← splitData 2 data
  let (_, rest) ← splitData (littleEndian size) rest
  return rest

/-- Data after a field that ends in a zero. -/
def skipField (data : List UInt8) : Except Failure (List UInt8) :=
  let field := data.takeWhile (· ≠ 0)
  if field.length > maxField then .error .longField
  else
    match data.drop field.length with
    | _ :: rest => .ok rest
    | [] => .error .truncated

/-- Data after a part of the header that is there only if it was announced. -/
def skipIf (announced : Bool) (skip : List UInt8 → Except Failure (List UInt8))
    (data : List UInt8) : Except Failure (List UInt8) :=
  if announced then skip data else .ok data

/-- Data after the checksum of the header, which has the two low bytes of the checksum of all that
stands before it. -/
def skipChecksum (start data : List UInt8) : Except Failure (List UInt8) := do
  let (given, rest) ← splitData 2 data
  let header := start.take (start.length - data.length)
  if littleEndian given = (checksum header).toNat % 65536 then return rest else .error .mismatch

/-- Data after its header. -/
def skipHeader (start : List UInt8) : Except Failure (List UInt8) := do
  let (head, rest) ← splitData headerSize start
  match flags? head with
  | none => .error .badHeader
  | some flags =>
    let rest ← skipIf flags.extra skipExtra rest
    let rest ← skipIf flags.name skipField rest
    let rest ← skipIf flags.comment skipField rest
    skipIf flags.checksum (skipChecksum start) rest

/-- Whether a trailer is that of some data: its checksum, then its size up to a multiple of what
four bytes can hold. -/
def isTrailer (trailer content : List UInt8) : Bool :=
  littleEndian (trailer.take 4) = (checksum content).toNat &&
    littleEndian (trailer.drop 4) = content.length % UInt32.size

/-- What a compressed file holds. Whatever follows its trailer does not matter. -/
def decompress (data : List UInt8) : Except Failure (List UInt8) := do
  let body ← skipHeader data
  let unpack : Reader (List UInt8 × List UInt8) := do
    let content ← inflate
    align
    return (content, ← bytes 8)
  let (content, trailer) ← unpack.run' (bits body)
  if isTrailer trailer content then return content else .error .mismatch

end Autotools.Gzip
