import Autotools.Text.Bytes
import Autotools.Text.Line
import Mathlib.Data.List.Induction

/-! Texts as bytes and as rows.  A newline is one byte, which is no part of another character.  The
rows of a text have no newlines in them, and the text is again the rows above a row with the
newlines that end them, the row, and the rows below with the newlines before them. -/

namespace Autotools.Text

/-- The bytes of a text in UTF-8. -/
def bytes (s : List Char) : List UInt8 := s.flatMap String.utf8EncodeChar

@[simp] theorem bytes_nil : bytes [] = [] := rfl

@[simp] theorem bytes_cons (c : Char) (s : List Char) :
    bytes (c :: s) = String.utf8EncodeChar c ++ bytes s := List.flatMap_cons

@[simp] theorem bytes_append (s t : List Char) : bytes (s ++ t) = bytes s ++ bytes t :=
  List.flatMap_append

@[simp] theorem length_bytes (s : List Char) : (bytes s).length = byteLength s := by
  induction s with
  | nil => rfl
  | cons c s ih => simp [ih]

/-- A byte below 128 is a character of its own and no part of another one. -/
theorem mem_utf8EncodeChar {b : UInt8} (ascii : b.toNat < 128) (c : Char) :
    b ∈ String.utf8EncodeChar c ↔ c.toNat = b.toNat := by
  have value : c.val.toNat = c.toNat := rfl
  have bound : c.toNat < 1114112 := by
    have := c.valid
    rw [← value]
    rcases this with h | h <;> omega
  rw [String.utf8EncodeChar]
  simp only [value]
  split_ifs with one two three
  all_goals
    simp only [List.mem_cons, List.not_mem_nil, or_false, UInt8.ext_iff, UInt8.toNat_ofNat']
    omega

theorem mem_bytes_iff {b : UInt8} {c : Char} (ascii : c.toNat < 128) (same : c.toNat = b.toNat)
    (s : List Char) : b ∈ bytes s ↔ c ∈ s := by
  rw [bytes, List.mem_flatMap]
  constructor
  · rintro ⟨d, member, byte⟩
    have : d = c := Char.toNat_inj.1 (((mem_utf8EncodeChar (by omega) d).1 byte).trans same.symm)
    exact this ▸ member
  · intro member
    exact ⟨c, member, (mem_utf8EncodeChar (by omega) c).2 same⟩

/-! ### Rows -/

theorem newline_not_mem_of_mem_rows {s row : List Char} (h : row ∈ rows s) : '\n' ∉ row := by
  induction s generalizing row with
  | nil =>
    obtain rfl : row = [] := by simpa [rows] using h
    simp
  | cons c s ih =>
    rw [rows, List.splitOn_cons_eq_if_modifyHead] at h
    split at h
    · rcases List.mem_cons.1 h with rfl | h
      · simp
      · exact ih h
    · next other =>
      cases split : s.splitOn '\n' with
      | nil => exact absurd split (rows_ne_nil s)
      | cons first rest =>
        rw [split, List.modifyHead_cons] at h
        rcases List.mem_cons.1 h with rfl | h
        · have inner : '\n' ∉ first := ih (by rw [rows, split]; simp)
          have differ : '\n' ≠ c := fun same => other (beq_iff_eq.2 same.symm)
          simp [inner, differ]
        · exact ih (by rw [rows, split]; simp [h])

/-- Rows, each with the newline that ends it. -/
def ended (rows : List (List Char)) : List Char := rows.flatMap (· ++ ['\n'])

@[simp] theorem ended_nil : ended [] = [] := rfl

@[simp] theorem ended_cons (row : List Char) (rows : List (List Char)) :
    ended (row :: rows) = row ++ '\n' :: ended rows := by
  simp [ended]

theorem intercalate_append_cons (above : List (List Char)) (row : List Char)
    (below : List (List Char)) :
    ['\n'].intercalate (above ++ row :: below) =
      ended above ++ (row ++ below.flatMap ('\n' :: ·)) := by
  induction above with
  | nil =>
    induction below generalizing row with
    | nil => simp
    | cons next below ih =>
      rw [List.nil_append, List.intercalate_cons_cons, ← List.nil_append (next :: below), ih]
      simp
  | cons first above ih =>
    rw [List.cons_append, List.intercalate_cons_of_ne_nil (by simp), ih]
    simp

/-- A text around one of its rows: the rows above with their newlines, the row, and the rows below
with the newlines before them. -/
theorem eq_of_rows_eq {s row : List Char} {above below : List (List Char)}
    (h : rows s = above ++ row :: below) :
    s = ended above ++ (row ++ below.flatMap ('\n' :: ·)) := by
  rw [← intercalate_append_cons, ← h, intercalate_rows]

theorem rows_ended_append {above : List (List Char)} {row after : List Char}
    (inner : ∀ r ∈ above, '\n' ∉ r) (here : '\n' ∉ row) :
    rows (ended above ++ (row ++ '\n' :: after)) = above ++ row :: rows after := by
  induction above with
  | nil => exact List.splitOn_append_cons_self_of_not_mem here after
  | cons first above ih =>
    obtain ⟨free, others⟩ := List.forall_mem_cons.1 inner
    rw [ended_cons, List.append_assoc, List.cons_append, rows,
      List.splitOn_append_cons_self_of_not_mem free, ← rows, ih others, List.cons_append]

theorem exists_rows_eq {s : List Char} {n : Nat} (h : n ≤ s.count '\n') :
    ∃ above row below, rows s = above ++ row :: below ∧ above.length = n := by
  have bound : n < (rows s).length := by
    rw [length_rows]
    omega
  refine ⟨(rows s).take n, (rows s)[n], (rows s).drop (n + 1), ?_, ?_⟩
  · rw [List.getElem_cons_drop, List.take_append_drop]
  · rw [List.length_take]
    omega

theorem row?_of_rows {s row : List Char} {above below : List (List Char)}
    (h : rows s = above ++ row :: below) :
    row? s above.length = some (dropReturn row) := by
  rw [row?, h]
  simp

theorem row?_eq_none_iff {s : List Char} {n : Nat} : row? s n = none ↔ s.count '\n' < n := by
  rw [row?, Option.map_eq_none_iff, List.getElem?_eq_none_iff, length_rows]
  exact Nat.succ_le_iff

/-- The rows of a text with a newline more are its rows and an empty one. -/
theorem rows_append_newline (s : List Char) : rows (s ++ ['\n']) = rows s ++ [[]] :=
  List.splitOn_append_cons_self s []

theorem byteLength_dropReturn_le (row : List Char) :
    byteLength (dropReturn row) ≤ byteLength row := by
  rw [dropReturn]
  split
  · next last =>
    obtain ⟨front, rfl⟩ := List.getLast?_eq_some_iff.1 last
    simp
  · exact Nat.le_refl _

/-- Every offset of a text is in one of its rows or at the end of one. -/
theorem exists_row_around {rows : List (List Char)} (some : rows ≠ []) {offset : Nat}
    (inside : offset ≤ byteLength (['\n'].intercalate rows)) :
    ∃ above row below column, rows = above ++ row :: below ∧
      offset = byteLength (ended above) + column ∧ column ≤ byteLength row := by
  induction rows generalizing offset with
  | nil => exact absurd rfl some
  | cons row rows ih =>
    by_cases here : offset ≤ byteLength row
    · exact ⟨[], row, rows, offset, rfl, by simp, here⟩
    · have more : rows ≠ [] := by
        rintro rfl
        simp at inside
        omega
      have size : '\n'.utf8Size = 1 := rfl
      rw [List.intercalate_cons_of_ne_nil more] at inside
      simp only [byteLength_append, byteLength_cons, byteLength_nil, size] at inside
      have rest : offset - (byteLength row + 1) ≤ byteLength (['\n'].intercalate rows) := by omega
      obtain ⟨above, row', below, column, rfl, same, bound⟩ := ih more rest
      refine ⟨row :: above, row', below, column, rfl, ?_, bound⟩
      simp only [ended_cons, byteLength_append, byteLength_cons, size]
      omega

end Autotools.Text
