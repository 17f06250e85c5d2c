/-! The checksum of data: the remainder of a division of polynomials whose coefficients are bits. -/

namespace Autotools.Gzip

/-- The divisor, without its leading term and with the highest power in the lowest bit. -/
def divisor : UInt32 := 0xEDB88320

/-- The remainder after so many more bits. -/
def remainder : Nat → UInt32 → UInt32
  | 0, r => r
  | n + 1, r => remainder n (if r &&& 1 = 1 then (r >>> 1) ^^^ divisor else r >>> 1)

/-- The remainder after one more byte. -/
def checkByte (r : UInt32) (b : UInt8) : UInt32 := remainder 8 (r ^^^ b.toUInt32)

/-- The checksum of data. It starts from all ones and ends with every bit turned. -/
def checksum (data : List UInt8) : UInt32 := data.foldl checkByte 0xFFFFFFFF ^^^ 0xFFFFFFFF

end Autotools.Gzip
