import Autotools.Position
import Autotools.Proofs.Text.Rows

/-! Offsets and points.  A text is read byte by byte, so that the row of an offset is the number of
newlines before it and its column the number of bytes behind the last of them; the table of the
offsets at which rows start gives the same place.  The offset of a point is in the row of the point,
so that the two ways are inverse but for columns past the end of a line. -/

namespace Autotools

theorem Point.le_iff (p q : Point) :
    p ≤ q ↔ p.row.toNat < q.row.toNat ∨ p.row.toNat = q.row.toNat ∧
      p.column.toNat ≤ q.column.toNat := by
  show p.le q = true ↔ _
  simp [Point.le, UInt32.lt_iff_toNat_lt, UInt32.le_iff_toNat_le, UInt32.toNat_inj]

namespace Position

open Text

theorem offsetIn_append_cons (above : List (List Char)) (row : List Char)
    (below : List (List Char)) (column : Nat) :
    offsetIn (above ++ row :: below) above.length column =
      some (byteLength (ended above) + min column (byteLength (dropReturn row))) := by
  induction above with
  | nil => simp [offsetIn]
  | cons first above ih =>
    have size : '\n'.utf8Size = 1 := rfl
    rw [List.cons_append, List.length_cons, offsetIn, ih]
    simp only [Option.map_some, ended_cons, byteLength_append, byteLength_cons, size]
    congr 1
    omega

/-! ### Reading byte by byte -/

/-- The row and column behind one more byte. -/
def readByte (place : Nat × Nat) (b : UInt8) : Nat × Nat :=
  if b = 10 then (place.1 + 1, 0) else (place.1, place.2 + 1)

theorem foldl_readByte_of_not_mem {l : List UInt8} (h : 10 ∉ l) (row column : Nat) :
    l.foldl readByte (row, column) = (row, column + l.length) := by
  induction l generalizing column with
  | nil => rfl
  | cons b l ih =>
    have other : b ≠ 10 := fun same => h (by simp [same])
    rw [List.foldl_cons, readByte, if_neg other, ih fun inside => h (by simp [inside]),
      List.length_cons]
    congr 1
    omega

theorem newline_not_mem_utf8EncodeChar {c : Char} (h : c ≠ '\n') :
    (10 : UInt8) ∉ String.utf8EncodeChar c := by
  rw [mem_utf8EncodeChar (by decide)]
  exact fun same => h (Char.toNat_inj.1 same)

/-- A text is read byte by byte. -/
theorem advance_eq_foldl (row column : Nat) (s : List Char) (n : Nat) :
    advance row column s n = ((bytes s).take n).foldl readByte (row, column) := by
  induction s generalizing row column n with
  | nil => simp [advance]
  | cons c s ih =>
    have size := String.length_utf8EncodeChar c
    rw [advance, bytes_cons, List.take_append, size, List.foldl_append]
    by_cases newline : c = '\n'
    · subst newline
      have code : String.utf8EncodeChar '\n' = [10] := by decide
      have one : '\n'.utf8Size = 1 := rfl
      rw [one, code]
      cases n with
      | zero => simp
      | succ n => simp [ih, readByte]
    · have inner := newline_not_mem_utf8EncodeChar newline
      have part : (10 : UInt8) ∉ (String.utf8EncodeChar c).take n :=
        fun inside => inner (List.mem_of_mem_take inside)
      rw [foldl_readByte_of_not_mem part, List.length_take, size]
      split
      · next short =>
        rw [Nat.min_eq_left (Nat.le_of_lt short), Nat.sub_eq_zero_of_le (Nat.le_of_lt short)]
        rfl
      · next fits =>
        rw [Nat.min_eq_right (Nat.not_lt.1 fits), ih]

/-- The number of bytes behind the last newline. -/
def sinceNewline (l : List UInt8) : Nat := (l.reverse.takeWhile (· ≠ 10)).length

/-- Reading counts the newlines, and the bytes behind the last of them. -/
theorem foldl_readByte (l : List UInt8) :
    l.foldl readByte (0, 0) = (l.count 10, sinceNewline l) := by
  induction l using List.reverseRecOn with
  | nil => rfl
  | append_singleton l b ih =>
    rw [List.foldl_append, ih, List.foldl_cons, List.foldl_nil, readByte]
    by_cases newline : b = 10
    · simp [newline, sinceNewline]
    · simp [newline, sinceNewline]

/-- Reading on does not go back. -/
theorem le_foldl_readByte (l : List UInt8) (place : Nat × Nat) :
    let reached := l.foldl readByte place
    place.1 < reached.1 ∨ place.1 = reached.1 ∧ place.2 ≤ reached.2 := by
  induction l generalizing place with
  | nil => exact .inr ⟨rfl, Nat.le_refl _⟩
  | cons b l ih =>
    have rest := ih (readByte place b)
    simp only [List.foldl_cons]
    by_cases newline : b = 10
    · have step : readByte place b = (place.1 + 1, 0) := if_pos newline
      rw [step] at rest ⊢
      omega
    · have step : readByte place b = (place.1, place.2 + 1) := if_neg newline
      rw [step] at rest ⊢
      omega

theorem foldl_readByte_ended {above : List (List Char)} (inner : ∀ row ∈ above, '\n' ∉ row)
    (row : Nat) : (bytes (ended above)).foldl readByte (row, 0) = (row + above.length, 0) := by
  induction above generalizing row with
  | nil => rfl
  | cons first above ih =>
    obtain ⟨here, others⟩ := List.forall_mem_cons.1 inner
    have code : String.utf8EncodeChar '\n' = [10] := by decide
    have plain : (10 : UInt8) ∉ bytes first := by
      rwa [mem_bytes_iff (c := '\n') (by decide) rfl]
    rw [ended_cons, bytes_append, bytes_cons, code, List.foldl_append, List.foldl_append,
      foldl_readByte_of_not_mem plain]
    simp only [List.foldl_cons, List.foldl_nil, readByte, if_true]
    rw [ih others, List.length_cons]
    congr 1
    omega

/-- The place of a column in a row. -/
theorem advance_of_rows {s row : List Char} {above below : List (List Char)}
    (h : rows s = above ++ row :: below) {column : Nat} (inside : column ≤ byteLength row) :
    advance 0 0 s (byteLength (ended above) + column) = (above.length, column) := by
  have inner (r : List Char) (member : r ∈ above ++ row :: below) : '\n' ∉ r :=
    newline_not_mem_of_mem_rows (h ▸ member)
  have read : (bytes s).take (byteLength (ended above) + column) =
      bytes (ended above) ++ (bytes row).take column := by
    rw [eq_of_rows_eq h, bytes_append, bytes_append, ← length_bytes (ended above),
      List.take_length_add_append, List.take_append_of_le_length (by simpa using inside)]
  have plain : (10 : UInt8) ∉ (bytes row).take column := by
    intro newline
    have := (mem_bytes_iff (c := '\n') (by decide) rfl row).1 (List.mem_of_mem_take newline)
    exact inner row (by simp) this
  rw [advance_eq_foldl, read, List.foldl_append,
    foldl_readByte_ended (fun r member => inner r (by simp [member])),
    foldl_readByte_of_not_mem plain, List.length_take, length_bytes, Nat.min_eq_left inside]
  simp

/-! ### The table of rows -/

/-- The offsets behind the newlines of some bytes, the first of which has an offset. -/
def startsAfter (offset : Nat) : List UInt8 → List Nat
  | [] => []
  | b :: rest =>
    if b = 10 then (offset + 1) :: startsAfter (offset + 1) rest
    else startsAfter (offset + 1) rest

/-- The offsets at which the rows of a text start. -/
def rowStarts (s : List Char) : List Nat := 0 :: startsAfter 0 (bytes s)

/-- A difference that is not negative. -/
def minus? (a b : Nat) : Option Nat := if b ≤ a then some (a - b) else none

/-- Row and column of an offset, clamped to a length, by the offsets at which rows start.  There are
none if a row is looked up that is not there, or a difference is negative. -/
def placeIn? (starts : List Nat) (length offset : Nat) : Option (Nat × Nat) := do
  let row ← minus? (starts.takeWhile (· ≤ min offset length)).length 1
  let start ← starts[row]?
  let column ← minus? (min offset length) start
  return (row, column)

theorem startsAfter_append (offset : Nat) (l m : List UInt8) :
    startsAfter offset (l ++ m) = startsAfter offset l ++ startsAfter (offset + l.length) m := by
  induction l generalizing offset with
  | nil => rfl
  | cons b l ih =>
    have sum : offset + 1 + l.length = offset + (l.length + 1) := by omega
    rw [List.cons_append, startsAfter, startsAfter, ih, List.length_cons, sum]
    split <;> rfl

theorem bounds_startsAfter {offset start : Nat} {l : List UInt8}
    (h : start ∈ startsAfter offset l) : offset < start ∧ start ≤ offset + l.length := by
  induction l generalizing offset with
  | nil => cases h
  | cons b l ih =>
    rw [startsAfter] at h
    rw [List.length_cons]
    split at h
    · rcases List.mem_cons.1 h with rfl | h
      · omega
      · have := ih h
        omega
    · have := ih h
      omega

/-- The last row that starts in some bytes is the row that is reached behind them, and it starts as
many bytes before their end as there are columns. -/
theorem startsAfter_reached (l : List UInt8) :
    (startsAfter 0 l).length = (l.foldl readByte (0, 0)).1 ∧
      ∃ start, (0 :: startsAfter 0 l)[(l.foldl readByte (0, 0)).1]? = some start ∧
        start + (l.foldl readByte (0, 0)).2 = l.length := by
  induction l using List.reverseRecOn with
  | nil => exact ⟨rfl, 0, rfl, rfl⟩
  | append_singleton l b ih =>
    obtain ⟨count, start, there, sum⟩ := ih
    rw [List.foldl_append, startsAfter_append, List.length_append, List.length_append]
    generalize l.foldl readByte (0, 0) = reached at count there sum ⊢
    by_cases newline : b = 10
    · subst newline
      simp [readByte, startsAfter, count]
    · have same : startsAfter l.length [b] = [] := if_neg newline
      refine ⟨by simp [readByte, newline, same, count], start, ?_, ?_⟩
      · simpa [readByte, newline, same] using there
      · simp [readByte, newline, ← sum]
        omega

/-- Every look-up in the table of rows succeeds, and gives the place that reading reaches. -/
theorem placeIn?_rowStarts (s : List Char) (offset : Nat) :
    placeIn? (rowStarts s) (byteLength s) offset = some (advance 0 0 s offset) := by
  obtain ⟨count, start, there, sum⟩ := startsAfter_reached ((bytes s).take offset)
  have table : rowStarts s = 0 :: startsAfter 0 ((bytes s).take offset) ++
      startsAfter (min offset (byteLength s)) ((bytes s).drop offset) := by
    have split := startsAfter_append 0 ((bytes s).take offset) ((bytes s).drop offset)
    rw [List.take_append_drop, List.length_take, length_bytes, Nat.zero_add] at split
    rw [rowStarts, split]
    rfl
  have before : ∀ start ∈ 0 :: startsAfter 0 ((bytes s).take offset),
      decide (start ≤ min offset (byteLength s)) = true := by
    intro start member
    rcases List.mem_cons.1 member with rfl | member
    · exact decide_eq_true (Nat.zero_le _)
    · have upTo := (bounds_startsAfter member).2
      rw [List.length_take, length_bytes, Nat.zero_add] at upTo
      exact decide_eq_true upTo
  have first : (rowStarts s).takeWhile (· ≤ min offset (byteLength s)) =
      0 :: startsAfter 0 ((bytes s).take offset) := by
    rw [table, List.takeWhile_append_of_pos before]
    cases behind : startsAfter (min offset (byteLength s)) ((bytes s).drop offset) with
    | nil => simp
    | cons next rest =>
      have member : next ∈ startsAfter (min offset (byteLength s)) ((bytes s).drop offset) := by
        rw [behind]
        simp
      have past := (bounds_startsAfter member).1
      rw [List.takeWhile_cons_of_neg (by rw [decide_eq_true_eq]; omega), List.append_nil]
  rw [List.length_take, length_bytes] at sum
  rw [advance_eq_foldl, placeIn?, first, List.length_cons, count]
  generalize ((bytes s).take offset).foldl readByte (0, 0) = reached at there sum count
  have found : (rowStarts s)[reached.1]? = some start := by
    rw [table, List.getElem?_append_left (by simp [count]), there]
  have row : minus? (reached.1 + 1) 1 = some reached.1 := by
    rw [minus?, if_pos (by omega), Nat.add_sub_cancel]
  have column : minus? (min offset (byteLength s)) start = some reached.2 := by
    rw [minus?, if_pos (by omega)]
    exact congrArg some (by omega)
  simp only [row, found, column, Option.bind_eq_bind, Option.bind_some]
  rfl

/-! ### Points and offsets -/

theorem advance_mono (s : List Char) {o o' : Nat} (h : o ≤ o') :
    (advance 0 0 s o).1 < (advance 0 0 s o').1 ∨
      (advance 0 0 s o).1 = (advance 0 0 s o').1 ∧ (advance 0 0 s o).2 ≤ (advance 0 0 s o').2 := by
  obtain ⟨more, rfl⟩ := Nat.exists_eq_add_of_le h
  rw [advance_eq_foldl, advance_eq_foldl, List.take_add, List.foldl_append]
  exact le_foldl_readByte ..

theorem advance_eq_count (s : List Char) (o : Nat) :
    advance 0 0 s o = (((bytes s).take o).count 10, sinceNewline ((bytes s).take o)) := by
  rw [advance_eq_foldl, foldl_readByte]

theorem sinceNewline_le_length (l : List UInt8) : sinceNewline l ≤ l.length := by
  have := (List.takeWhile_sublist (· ≠ (10 : UInt8)) (l := l.reverse)).length_le
  rwa [List.length_reverse] at this

/-- The numbers of a point of a short text fit in their words. -/
theorem toNat_pointAt {s : List Char} (short : byteLength s < UInt32.size) (o : Nat) :
    (pointAt s o).row.toNat = (advance 0 0 s o).1 ∧
      (pointAt s o).column.toNat = (advance 0 0 s o).2 := by
  have part : ((bytes s).take o).length ≤ byteLength s := by
    rw [List.length_take, length_bytes]
    omega
  have row : ((bytes s).take o).count 10 ≤ ((bytes s).take o).length := List.count_le_length
  have column := sinceNewline_le_length ((bytes s).take o)
  rw [advance_eq_count, pointAt, Point.ofNat, advance_eq_count]
  exact ⟨UInt32.toNat_ofNat_of_lt' (by omega), UInt32.toNat_ofNat_of_lt' (by omega)⟩

theorem pointAt_mono {s : List Char} (short : byteLength s < UInt32.size) {o o' : Nat}
    (h : o ≤ o') : pointAt s o ≤ pointAt s o' := by
  rw [Point.le_iff, (toNat_pointAt short o).1, (toNat_pointAt short o).2,
    (toNat_pointAt short o').1, (toNat_pointAt short o').2]
  exact advance_mono s h

theorem offsetAt?_of_rows {s row : List Char} {above below : List (List Char)} {p : Point}
    (h : rows s = above ++ row :: below) (here : p.row.toNat = above.length) :
    offsetAt? s p =
      some (byteLength (ended above) + min p.column.toNat (byteLength (dropReturn row))) := by
  rw [offsetAt?, h, here, offsetIn_append_cons]

theorem offsetAt?_eq_none {s : List Char} {p : Point} :
    offsetAt? s p = none ↔ s.count '\n' < p.row.toNat := by
  constructor
  · intro none
    by_contra inside
    obtain ⟨above, row, below, split, here⟩ := exists_rows_eq (Nat.not_lt.1 inside)
    rw [offsetAt?_of_rows split here.symm] at none
    cases none
  · intro past
    exact offsetIn_eq_none (by rw [length_rows]; omega)

/-- The point of an offset that a point has. -/
theorem exists_offsetAt? {s : List Char} {p : Point} (inside : p.row.toNat ≤ s.count '\n') :
    ∃ o line, offsetAt? s p = some o ∧ row? s p.row.toNat = some line ∧
      advance 0 0 s o = (p.row.toNat, min p.column.toNat (byteLength line)) := by
  obtain ⟨above, row, below, split, here⟩ := exists_rows_eq inside
  refine ⟨_, dropReturn row, offsetAt?_of_rows split here.symm, ?_, ?_⟩
  · rw [← here, row?_of_rows split]
  · have := byteLength_dropReturn_le row
    rw [advance_of_rows split (by omega), here]

theorem offsetAt?_mono {s : List Char} {p q : Point} (le : p ≤ q) {b : Nat}
    (found : offsetAt? s q = some b) : ∃ a, offsetAt? s p = some a ∧ a ≤ b := by
  have inside : q.row.toNat ≤ s.count '\n' := by
    by_contra past
    rw [offsetAt?_eq_none.2 (Nat.not_le.1 past)] at found
    cases found
  rcases (Point.le_iff p q).1 le with lower | ⟨same, columns⟩
  · obtain ⟨a, _, there, -, placeA⟩ := exists_offsetAt? (s := s) (p := p) (by omega)
    obtain ⟨b', _, there', -, placeB⟩ := exists_offsetAt? inside
    obtain rfl := Option.some.inj (found.symm.trans there')
    refine ⟨a, there, ?_⟩
    by_contra after
    have back := advance_mono s (Nat.le_of_not_le after)
    rw [placeA, placeB] at back
    omega
  · obtain ⟨above, row, below, split, here⟩ := exists_rows_eq inside
    rw [offsetAt?_of_rows split here.symm] at found
    refine ⟨_, offsetAt?_of_rows split (same.trans here.symm), ?_⟩
    obtain rfl := Option.some.inj found
    omega

/-! ### Carriage returns -/

/-- An offset of the newline behind a carriage return. -/
def IsPairEnd (s : List Char) (o : Nat) : Prop :=
  ∃ before after, s = before ++ '\r' :: '\n' :: after ∧ o = byteLength before + 1

theorem IsPairEnd.lt_byteLength {s : List Char} {o : Nat} (h : IsPairEnd s o) :
    o < byteLength s := by
  obtain ⟨before, after, rfl, rfl⟩ := h
  have carriage : '\r'.utf8Size = 1 := rfl
  have newline : '\n'.utf8Size = 1 := rfl
  simp only [byteLength_append, byteLength_cons, carriage, newline]
  omega

theorem rows_of_isPairEnd {s : List Char} {o : Nat} (h : IsPairEnd s o) :
    ∃ above row below, rows s = above ++ (row ++ ['\r']) :: below ∧
      o = byteLength (ended above) + byteLength row + 1 := by
  obtain ⟨before, after, rfl, rfl⟩ := h
  obtain ⟨above, row, split⟩ := (rows before).eq_nil_or_concat.resolve_left (rows_ne_nil before)
  rw [List.concat_eq_append] at split
  have inner (r : List Char) (member : r ∈ above ++ [row]) : '\n' ∉ r :=
    newline_not_mem_of_mem_rows (split ▸ member)
  have text : before = ended above ++ row := by simpa using eq_of_rows_eq split
  refine ⟨above, row, rows after, ?_, by rw [text, byteLength_append]⟩
  have last : '\n' ∉ row ++ ['\r'] := by simpa using inner row (by simp)
  rw [← rows_ended_append (fun r member => inner r (by simp [member])) last, text]
  simp

theorem isPairEnd_of_rows {s row : List Char} {above below : List (List Char)}
    (closed : closed s = s) (h : rows s = above ++ (row ++ ['\r']) :: below) :
    IsPairEnd s (byteLength (ended above) + byteLength row + 1) := by
  have text := eq_of_rows_eq h
  cases below with
  | nil =>
    -- nothing is below the row, so the text would end in a carriage return
    rw [List.flatMap_nil, List.append_nil, ← List.append_assoc] at text
    rw [Text.closed, text] at closed
    simp at closed
  | cons next below =>
    refine ⟨ended above ++ row, next ++ below.flatMap ('\n' :: ·), ?_, by rw [byteLength_append]⟩
    rw [text]
    simp

theorem offsetAt?_pointAt_of_isPairEnd {s : List Char} (short : byteLength s < UInt32.size)
    {o : Nat} (h : IsPairEnd s o) : offsetAt? s (pointAt s o) = some (o - 1) := by
  obtain ⟨above, row, below, split, rfl⟩ := rows_of_isPairEnd h
  have size : '\r'.utf8Size = 1 := rfl
  have inside : byteLength row + 1 ≤ byteLength (row ++ ['\r']) := by simp [size]
  have place := advance_of_rows split inside
  obtain ⟨atRow, atColumn⟩ := toNat_pointAt short (byteLength (ended above) + (byteLength row + 1))
  rw [place] at atRow atColumn
  have dropped : dropReturn (row ++ ['\r']) = row := by simp [dropReturn]
  rw [Nat.add_assoc, offsetAt?_of_rows split atRow, atColumn, dropped]
  congr 1
  omega

theorem offsetAt?_pointAt_of_le {s : List Char} (closed : closed s = s)
    (short : byteLength s < UInt32.size) {o : Nat} (inside : o ≤ byteLength s)
    (single : ¬IsPairEnd s o) : offsetAt? s (pointAt s o) = some o := by
  rw [← intercalate_rows s] at inside
  obtain ⟨above, row, below, column, split, rfl, bound⟩ :=
    exists_row_around (rows_ne_nil s) inside
  obtain ⟨atRow, atColumn⟩ := toNat_pointAt short (byteLength (ended above) + column)
  rw [advance_of_rows split bound] at atRow atColumn
  have unclamped : column ≤ byteLength (dropReturn row) := by
    rw [dropReturn]
    split
    · next last =>
      obtain ⟨front, rfl⟩ := List.getLast?_eq_some_iff.1 last
      have size : '\r'.utf8Size = 1 := rfl
      have before : column ≠ byteLength front + 1 := by
        rintro rfl
        exact single (isPairEnd_of_rows closed split)
      rw [List.dropLast_concat]
      simp only [byteLength_append, byteLength_cons, byteLength_nil, size] at bound
      omega
    · exact bound
  rw [offsetAt?_of_rows split atRow, atColumn, Nat.min_eq_left unclamped]

theorem pointAt_of_ge {s : List Char} {o : Nat} (past : byteLength s ≤ o) :
    pointAt s o = pointAt s (byteLength s) := by
  rw [pointAt, pointAt, advance_eq_foldl, advance_eq_foldl,
    List.take_of_length_le (by simpa using past), List.take_of_length_le (by simp)]

theorem offsetAt?_pointAt {s : List Char} (closed : closed s = s)
    (short : byteLength s < UInt32.size) {o : Nat} (single : ¬IsPairEnd s o) :
    offsetAt? s (pointAt s o) = some (min o (byteLength s)) := by
  by_cases inside : o ≤ byteLength s
  · rw [Nat.min_eq_left inside, offsetAt?_pointAt_of_le closed short inside single]
  · have last : ¬IsPairEnd s (byteLength s) := fun h => Nat.lt_irrefl _ h.lt_byteLength
    rw [pointAt_of_ge (Nat.le_of_not_le inside), Nat.min_eq_right (Nat.le_of_not_le inside),
      offsetAt?_pointAt_of_le closed short (Nat.le_refl _) last]

/-- In every text that is closed by a newline and has fewer bytes than there are words of 32 bits:

* The point of an offset has as its row the number of newline bytes before the offset, and as its
  column the number of bytes behind the last of them, and both can be found in the table of the rows
  without a look-up or a difference out of range.  The offset of this point is the offset again,
  clamped to the text, but one less at the newline behind a carriage return.
* A point has no offset just if its row is past the number of newlines; otherwise it has one, the
  point of which is in the same row, and in the same column or at the end of the line if that is
  earlier.
* Both ways keep the reading order. -/
theorem offsetAt?_inverse {s : List Char} (closed : closed s = s)
    (short : byteLength s < UInt32.size) :
    (∀ o, (pointAt s o).row.toNat = ((bytes s).take o).count 10 ∧
      (pointAt s o).column.toNat = (((bytes s).take o).reverse.takeWhile (· ≠ 10)).length ∧
      placeIn? (rowStarts s) (byteLength s) o =
        some ((pointAt s o).row.toNat, (pointAt s o).column.toNat) ∧
      (IsPairEnd s o → offsetAt? s (pointAt s o) = some (o - 1)) ∧
      (¬IsPairEnd s o → offsetAt? s (pointAt s o) = some (min o (byteLength s)))) ∧
    (∀ p, (offsetAt? s p = none ↔ s.count '\n' < p.row.toNat) ∧
      (p.row.toNat ≤ s.count '\n' → ∃ o line, offsetAt? s p = some o ∧
        row? s p.row.toNat = some line ∧ (pointAt s o).row = p.row ∧
        (pointAt s o).column.toNat = min p.column.toNat (byteLength line))) ∧
    (∀ o o', o ≤ o' → pointAt s o ≤ pointAt s o') ∧
    ∀ p q b, p ≤ q → offsetAt? s q = some b → ∃ a, offsetAt? s p = some a ∧ a ≤ b := by
  refine ⟨?_, ?_, fun _ _ => pointAt_mono short, fun _ _ _ le => offsetAt?_mono le⟩
  · intro o
    obtain ⟨row, column⟩ := toNat_pointAt short o
    exact ⟨by rw [row, advance_eq_count], by rw [column, advance_eq_count, sinceNewline],
      by rw [placeIn?_rowStarts, row, column], offsetAt?_pointAt_of_isPairEnd short,
      offsetAt?_pointAt closed short⟩
  · intro p
    refine ⟨offsetAt?_eq_none, ?_⟩
    intro inside
    obtain ⟨o, line, offset, there, place⟩ := exists_offsetAt? inside
    obtain ⟨row, column⟩ := toNat_pointAt short o
    rw [place] at row column
    exact ⟨o, line, offset, there, UInt32.toNat_inj.1 row, column⟩

/-- The offset of the newline behind the carriage return is not found again, and that of the end of
the text is. -/
theorem offsetAt?_mixedEnds :
    let s := "é:\r\nb\n".toList
    offsetAt? s (pointAt s 4) = some 3 ∧ offsetAt? s (pointAt s 99) = some 7 ∧
    offsetAt? s ⟨3, 0⟩ = none ∧ ∃ o, offsetAt? s ⟨0, 9⟩ = some o ∧ pointAt s o = ⟨0, 3⟩ := by
  intro s
  have closed : closed s = s := by decide
  have short : byteLength s < UInt32.size := by decide
  obtain ⟨offsets, points, -, -⟩ := offsetAt?_inverse closed short
  refine ⟨(offsets 4).2.2.2.1 ⟨"é:".toList, "b\n".toList, by decide, by decide⟩, ?_,
    (points ⟨3, 0⟩).1.2 (by decide), ?_⟩
  · have past : ¬IsPairEnd s 99 := fun h => absurd h.lt_byteLength (by decide)
    exact (offsets 99).2.2.2.2 past
  · obtain ⟨o, line, offset, there, row, column⟩ := (points ⟨0, 9⟩).2 (by decide)
    obtain rfl : "é:".toList = line := Option.some.inj (Eq.trans (by decide) there)
    refine ⟨o, offset, ?_⟩
    rw [Point.mk.injEq]
    exact ⟨row, UInt32.toNat_inj.1 column⟩

end Position

end Autotools
