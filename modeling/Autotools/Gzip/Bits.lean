import Autotools.Gzip.Failure

/-! Compressed data as bits, from the low end of every byte to its high end. -/

namespace Autotools.Gzip

/-- The bits of a byte. -/
def byteBits (b : UInt8) : List Bool := (List.range 8).map b.toNat.testBit

/-- The bits of data. -/
def bits (data : List UInt8) : List Bool := data.flatMap byteBits

/-- A way to read from bits: it takes those that it reads, or fails. -/
abbrev Reader := StateT (List Bool) (Except Failure)

/-- The next bit. -/
def bit : Reader Bool
  | [] => .error .truncated
  | b :: s => .ok (b, s)

/-- The number in the next `n` bits, of which the first is the lowest. -/
def number : Nat → Reader Nat
  | 0 => return 0
  | n + 1 => do
    let low ← bit
    let high ← number n
    return 2 * high + low.toNat

/-- The next `n` numbers of so many bits. -/
def numbers (width : Nat) : Nat → Reader (List Nat)
  | 0 => return []
  | n + 1 => do
    let first ← number width
    let others ← numbers width n
    return first :: others

/-- The next `n` bytes. -/
def bytes (n : Nat) : Reader (List UInt8) := do
  let found ← numbers 8 n
  return found.map (·.toUInt8)

/-- Goes on to the next byte. The bits end where the data ends, so those left of a byte that was
begun are those beyond a multiple of eight. -/
def align : Reader Unit := fun s => .ok ((), s.drop (s.length % 8))

/-- How many bits are left. -/
def left : Reader Nat := fun s => .ok (s.length, s)

end Autotools.Gzip
