import Autotools.Text.Bytes
import Autotools.Text.Line

/-! Positions in a text: a byte offset, or the row and column that an editor shows. Columns count
bytes, and both numbers of a point are words of 32 bits. -/

namespace Autotools

/-- A row and a byte column, both counted from zero. -/
structure Point where
  row : UInt32
  column : UInt32
deriving DecidableEq, Inhabited, Repr

namespace Point

/-- The point at a row and column that are given as numbers of any size. -/
def ofNat (row column : Nat) : Point := ⟨row.toUInt32, column.toUInt32⟩

/-- Reading order: rows first, then columns. -/
def le (p q : Point) : Bool :=
  p.row < q.row || (p.row == q.row && p.column ≤ q.column)

instance : LE Point := ⟨fun p q => p.le q = true⟩

instance (p q : Point) : Decidable (p ≤ q) := inferInstanceAs (Decidable (p.le q = true))

/-- The point as an editor shows it: row and column counted from one. -/
def display (p : Point) : String :=
  toString (p.row + 1) ++ ":" ++ toString (p.column + 1)

end Point

/-- The part of a text between two points. -/
structure Range where
  start : Point
  stop : Point
deriving DecidableEq, Inhabited, Repr

namespace Range

/-- The range of no text at the start of a document. -/
def origin : Range := ⟨⟨0, 0⟩, ⟨0, 0⟩⟩

/-- Whether a point lies in a range, both ends counted. -/
def contains (r : Range) (p : Point) : Bool := r.start.le p && p.le r.stop

end Range

namespace Position

/-- Row and column after reading at most `n` more bytes of a text from a row and column. -/
def advance (row column : Nat) : List Char → Nat → Nat × Nat
  | [], _ => (row, column)
  | c :: s, n =>
    if n < c.utf8Size then (row, column + n)
    else if c = '\n' then advance (row + 1) 0 s (n - c.utf8Size)
    else advance row (column + c.utf8Size) s (n - c.utf8Size)

/-- Row and column of a byte offset; past the end of the text, those of its end. -/
def pointAt (s : List Char) (offset : Nat) : Point :=
  let reached := advance 0 0 s offset
  Point.ofNat reached.1 reached.2

/-- The range between two byte offsets. -/
def rangeAt (s : List Char) (start stop : Nat) : Range := ⟨pointAt s start, pointAt s stop⟩

/-- The byte offset of a row and column among rows. The column stops at the end of its row, before
a carriage return. -/
def offsetIn : List (List Char) → Nat → Nat → Option Nat
  | [], _, _ => none
  | row :: _, 0, column => some (min column (Text.byteLength (Text.dropReturn row)))
  | row :: rest, n + 1, column => (offsetIn rest n column).map (Text.byteLength row + 1 + ·)

/-- The byte offset of a point; there is none in a row past the last. -/
def offsetAt? (s : List Char) (p : Point) : Option Nat :=
  offsetIn (Text.rows s) p.row.toNat p.column.toNat

theorem offsetIn_eq_none {rows : List (List Char)} {n column : Nat} (h : rows.length ≤ n) :
    offsetIn rows n column = none := by
  induction rows generalizing n with
  | nil => rfl
  | cons row rows ih =>
    cases n with
    | zero => simp at h
    | succ n => rw [offsetIn, ih (by simpa using h), Option.map_none]

end Position

end Autotools
