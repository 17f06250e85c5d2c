/-! Why compressed data cannot be read. -/

namespace Autotools.Gzip

/-- A fault of compressed data: it ends too early, does not start like compressed data, has a header
field without bounds, cannot be unpacked, or unpacks to something else than was packed. -/
inductive Failure where
  | truncated
  | badHeader
  | longField
  | corrupt
  | mismatch
deriving DecidableEq, Inhabited, Repr

/-- The wording of a fault. -/
def Failure.message : Failure → String
  | .truncated => "unexpected end of file"
  | .badHeader => "invalid gzip header"
  | .longField => "gzip header field too long"
  | .corrupt => "corrupt deflate stream"
  | .mismatch => "corrupt gzip stream does not have a matching checksum"

end Autotools.Gzip
