import Autotools.Text.Bytes

/-! The word that touches a column of a line. -/

namespace Autotools.Text

/-- The byte bounds of the run of word characters around byte `column`: empty runs are none, and
so is a column inside a character or past the end of the line. -/
def wordAround? (isWord : Char → Bool) (line : List Char) (column : Nat) : Option (Nat × Nat) := do
  let parts ← splitAtByte? line column
  let before := parts.1.reverse.takeWhile isWord
  let after := parts.2.takeWhile isWord
  if before.isEmpty && after.isEmpty then none
  else some (column - byteLength before, column + byteLength after)

end Autotools.Text
