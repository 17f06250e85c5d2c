import Autotools.Proofs.Position.Inverse
import Autotools.Proofs.Text.Words
import Autotools.Syntax.Tree

/-! The rows of a text and of the source of its tree.  Words are looked for in the rows of the text
as it was sent, and nodes at offsets of the source, which may have one newline more and is cut into
rows by the table of their starts.  A row of the text is the same row of the source, its carriage
return left out in both, and the source has one empty row more if the newline was added. -/

namespace Autotools

namespace Text

/-- The row behind the newline that closes a text, if it has none at its end. -/
def IsAddedRow (s : List Char) (n : Nat) : Prop :=
  s ≠ [] ∧ s.getLast? ≠ some '\n' ∧ n = s.count '\n' + 1

theorem closed_of_not_ended {s : List Char} (nonempty : s ≠ []) (last : s.getLast? ≠ some '\n') :
    closed s = s ++ ['\n'] := by
  simp [closed, nonempty, last]

theorem closed_of_ended {s : List Char} (ended : s = [] ∨ s.getLast? = some '\n') :
    closed s = s := by
  rcases ended with rfl | last
  · rfl
  · simp [closed, last]

/-- Closing a text keeps its rows. -/
theorem exists_rows_closed (s : List Char) : ∃ added, rows (closed s) = rows s ++ added := by
  by_cases ended : s = [] ∨ s.getLast? = some '\n'
  · exact ⟨[], by rw [closed_of_ended ended, List.append_nil]⟩
  · obtain ⟨nonempty, last⟩ := not_or.1 ended
    exact ⟨[[]], by rw [closed_of_not_ended nonempty last, rows_append_newline]⟩

theorem exists_rows_of_row? {s line : List Char} {n : Nat} (h : row? s n = some line) :
    ∃ above row below, rows s = above ++ row :: below ∧ above.length = n ∧
      line = dropReturn row := by
  have inside : n ≤ s.count '\n' := by
    by_contra past
    rw [row?_eq_none_iff.2 (Nat.not_le.1 past)] at h
    cases h
  obtain ⟨above, row, below, split, rfl⟩ := exists_rows_eq inside
  exact ⟨above, row, below, split, rfl, Option.some.inj (h.symm.trans (row?_of_rows split))⟩

theorem exists_append_dropReturn (row : List Char) : ∃ rest, row = dropReturn row ++ rest := by
  rw [dropReturn]
  split
  · next last =>
    obtain ⟨front, rfl⟩ := List.getLast?_eq_some_iff.1 last
    exact ⟨['\r'], by rw [List.dropLast_concat]⟩
  · exact ⟨[], (List.append_nil row).symm⟩

end Text

namespace Position

open Syntax Text

/-! ### Offsets by the table of rows -/

/-- The end of a row by the offsets at which rows start: it is before the newline in front of the
next row, or at the end of the text. -/
def rowStop? (starts : List Nat) (length row : Nat) : Option Nat :=
  match starts[row + 1]? with
  | some next => minus? next 1
  | none => some length

/-- The offset of a point by the offsets at which rows start.  There is none if a row is looked up
that is not there, a difference is negative, or a row cannot be cut out of the text. -/
def offsetBy? (starts : List Nat) (s : List Char) (p : Point) : Option Nat := do
  let start ← starts[p.row.toNat]?
  let stop ← rowStop? starts (byteLength s) p.row.toNat
  let row ← slice? s start stop
  return start + min p.column.toNat (byteLength (dropReturn row))

theorem startsAfter_of_not_mem {l : List UInt8} (h : 10 ∉ l) (offset : Nat) :
    startsAfter offset l = [] := by
  induction l generalizing offset with
  | nil => rfl
  | cons b l ih =>
    obtain ⟨other, rest⟩ := not_or.1 (mt List.mem_cons.2 h)
    rw [startsAfter, if_neg (Ne.symm other), ih rest]

section Table

variable {s row : List Char} {above below : List (List Char)}

/-- The table up to a row, and the starts of the rows below it. -/
theorem exists_rowStarts (h : rows s = above ++ row :: below) :
    ∃ starts, rowStarts s = starts ++
        startsAfter (byteLength (ended above)) (bytes (row ++ below.flatMap ('\n' :: ·))) ∧
      starts.length = above.length + 1 ∧
      starts[above.length]? = some (byteLength (ended above)) := by
  have inner (r : List Char) (member : r ∈ above) : '\n' ∉ r :=
    newline_not_mem_of_mem_rows (h ▸ List.mem_append_left _ member)
  obtain ⟨count, start, there, sum⟩ := startsAfter_reached (bytes (ended above))
  rw [foldl_readByte_ended inner, Nat.zero_add] at count there sum
  rw [length_bytes, Nat.add_zero] at sum
  refine ⟨0 :: startsAfter 0 (bytes (ended above)), ?_, by rw [List.length_cons, count], ?_⟩
  · rw [rowStarts, eq_of_rows_eq h, bytes_append, startsAfter_append, length_bytes, Nat.zero_add]
    rfl
  · rw [there, sum]

theorem getElem?_rowStarts (h : rows s = above ++ row :: below) :
    (rowStarts s)[above.length]? = some (byteLength (ended above)) := by
  obtain ⟨starts, table, size, there⟩ := exists_rowStarts h
  rw [table, List.getElem?_append_left (by omega), there]

theorem length_rowStarts (s : List Char) : (rowStarts s).length = (rows s).length := by
  obtain ⟨above, row, split⟩ := (rows s).eq_nil_or_concat.resolve_left (rows_ne_nil s)
  rw [List.concat_eq_append] at split
  obtain ⟨starts, table, size, -⟩ := exists_rowStarts split
  have plain : (10 : UInt8) ∉ bytes row := by
    rw [mem_bytes_iff (c := '\n') (by decide) rfl]
    exact newline_not_mem_of_mem_rows (s := s) (by rw [split]; simp)
  rw [table, List.flatMap_nil, List.append_nil, startsAfter_of_not_mem plain, List.append_nil, size,
    split, List.length_append, List.length_singleton]

theorem rowStop?_of_rows (h : rows s = above ++ row :: below) :
    rowStop? (rowStarts s) (byteLength s) above.length =
      some (byteLength (ended above) + byteLength row) := by
  cases below with
  | nil =>
    have past : (rowStarts s)[above.length + 1]? = none := by
      rw [List.getElem?_eq_none_iff, length_rowStarts, h]
      simp
    rw [rowStop?, past, eq_of_rows_eq h]
    simp
  | cons next below =>
    have split : rows s = (above ++ [row]) ++ next :: below := by rw [h]; simp
    have there := getElem?_rowStarts split
    have size : byteLength (ended (above ++ [row])) =
        byteLength (ended above) + byteLength row + 1 := by
      have one : '\n'.utf8Size = 1 := rfl
      simp [ended, one]
      omega
    rw [List.length_append, List.length_singleton] at there
    rw [rowStop?, there, size]
    simp [minus?]

/-- A row can be cut out of its text between its start and its end in the table. -/
theorem offsetBy?_of_rows {p : Point} (h : rows s = above ++ row :: below)
    (here : p.row.toNat = above.length) :
    offsetBy? (rowStarts s) s p =
      some (byteLength (ended above) + min p.column.toNat (byteLength (dropReturn row))) := by
  have cut : slice? s (byteLength (ended above)) (byteLength (ended above) + byteLength row) =
      some row := by
    rw [eq_of_rows_eq h]
    exact slice?_append ..
  rw [offsetBy?, here, getElem?_rowStarts h, rowStop?_of_rows h]
  simp only [Option.bind_eq_bind, Option.bind_some, cut]
  rfl

theorem offsetBy?_rowStarts (s : List Char) (p : Point) :
    offsetBy? (rowStarts s) s p = offsetAt? s p := by
  by_cases inside : p.row.toNat ≤ s.count '\n'
  · obtain ⟨above, row, below, split, here⟩ := exists_rows_eq inside
    rw [offsetBy?_of_rows split here.symm, offsetAt?_of_rows split here.symm]
  · have past : (rowStarts s)[p.row.toNat]? = none := by
      rw [List.getElem?_eq_none_iff, length_rowStarts, length_rows]
      omega
    rw [offsetAt?_eq_none.2 (Nat.not_le.1 inside), offsetBy?, past]
    rfl

end Table

/-! ### Rows of a text and of its source -/

/-- A row of a text lies in the closed text from the offset of its column 0 on. -/
theorem offsetAt?_closed_of_row? {s line : List Char} {p : Point}
    (h : row? s p.row.toNat = some line) :
    ∃ b, offsetAt? (closed s) ⟨p.row, 0⟩ = some b ∧
      slice? (closed s) b (b + byteLength line) = some line ∧
      offsetAt? (closed s) p = some (b + min p.column.toNat (byteLength line)) := by
  obtain ⟨above, row, below, split, here, rfl⟩ := exists_rows_of_row? h
  obtain ⟨added, rows⟩ := exists_rows_closed s
  have split' : Text.rows (closed s) = above ++ row :: (below ++ added) := by
    rw [rows, split, List.append_assoc, List.cons_append]
  refine ⟨byteLength (ended above), ?_, ?_, offsetAt?_of_rows split' here.symm⟩
  · rw [offsetAt?_of_rows (p := ⟨p.row, 0⟩) split' here.symm]
    simp
  · obtain ⟨rest, parts⟩ := exists_append_dropReturn row
    have text := eq_of_rows_eq split'
    rw [parts, List.append_assoc] at text
    rw [text]
    exact slice?_append ..

/-- A point below all rows of a text has no offset, unless closing the text adds its row. -/
theorem offsetAt?_closed_eq_none {s : List Char} {p : Point} (h : row? s p.row.toNat = none)
    (known : ¬IsAddedRow s p.row.toNat) : offsetAt? (closed s) p = none := by
  have past := row?_eq_none_iff.1 h
  rw [offsetAt?_eq_none]
  by_cases ended : s = [] ∨ s.getLast? = some '\n'
  · rwa [closed_of_ended ended]
  · obtain ⟨nonempty, last⟩ := not_or.1 ended
    have other : p.row.toNat ≠ s.count '\n' + 1 := fun same => known ⟨nonempty, last, same⟩
    rw [closed_of_not_ended nonempty last, List.count_append, List.count_singleton_self]
    omega

/-- The row that closing a text adds is empty and at the end of the closed text. -/
theorem offsetAt?_closed_of_isAddedRow {s : List Char} {p : Point}
    (h : IsAddedRow s p.row.toNat) :
    row? s p.row.toNat = none ∧ row? (closed s) p.row.toNat = some [] ∧
      offsetAt? (closed s) p = some (byteLength (closed s)) := by
  obtain ⟨nonempty, last, here⟩ := h
  have below : (rows s).length = p.row.toNat := by rw [length_rows, here]
  have split : rows (closed s) = rows s ++ [] :: [] := by
    rw [closed_of_not_ended nonempty last, rows_append_newline]
  refine ⟨?_, ?_, ?_⟩
  · rw [row?_eq_none_iff]
    omega
  · rw [← below, row?_of_rows split]
    rfl
  · have text := eq_of_rows_eq split
    rw [offsetAt?_of_rows split below.symm, text]
    simp [dropReturn]

/-- For every text and point, in the tree of the text:

* If the text has the row of the point, then the source has this row from the offset of its first
  column on, and the offset of the point is as many bytes further as its column says, but not past
  the end of the row.
* If the text does not have the row, then the point has no offset, except in the one empty row
  behind a newline that was added to the text, where it is the end of the source.
* The table of the rows of the source gives the same offset, without a look-up, a difference or a
  cut out of range. -/
theorem offsetAt?_source (parser : Parser) (text : String) (p : Point) :
    let source := (SyntaxTree.parse parser text).source.toList
    (∀ line, row? text.toList p.row.toNat = some line →
      ∃ b, offsetAt? source ⟨p.row, 0⟩ = some b ∧
        slice? source b (b + byteLength line) = some line ∧
        offsetAt? source p = some (b + min p.column.toNat (byteLength line))) ∧
    (row? text.toList p.row.toNat = none → ¬IsAddedRow text.toList p.row.toNat →
      offsetAt? source p = none) ∧
    (IsAddedRow text.toList p.row.toNat →
      row? text.toList p.row.toNat = none ∧ row? source p.row.toNat = some [] ∧
        offsetAt? source p = some (byteLength source)) ∧
    offsetBy? (rowStarts source) source p = offsetAt? source p := by
  intro source
  have closed : source = closed text.toList := String.toList_ofList
  refine ⟨?_, ?_, ?_, offsetBy?_rowStarts source p⟩
  · intro line there
    rw [closed]
    exact offsetAt?_closed_of_row? there
  · intro none known
    rw [closed]
    exact offsetAt?_closed_eq_none none known
  · intro added
    rw [closed]
    exact offsetAt?_closed_of_isAddedRow added

end Position

end Autotools
