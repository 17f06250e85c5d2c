import Autotools.Position
import Autotools.Text.Word
import Mathlib.Data.List.TakeWhile

/-! The word at a cursor.  A cursor is a cut of a row, if its column is not inside a character.
The word before it is the longest run of word characters that ends there, and can be cut out of the
row.  The word around it is told by the line alone: it is the same from every cut between its
bounds. -/

namespace Autotools.Text

theorem splitAtByte?_append (a b : List Char) :
    splitAtByte? (a ++ b) (byteLength a) = some (a, b) := by
  induction a with
  | nil => cases b <;> rfl
  | cons c a ih =>
    obtain ⟨n, size⟩ := Nat.exists_eq_succ_of_ne_zero (Nat.ne_of_gt c.utf8Size_pos)
    have length : byteLength (c :: a) = (n + byteLength a) + 1 := by
      rw [byteLength_cons, size]
      omega
    have fits : c.utf8Size ≤ n + byteLength a + 1 := by omega
    have rest : n + byteLength a + 1 - c.utf8Size = byteLength a := by omega
    rw [length, List.cons_append, splitAtByte?, if_pos fits, rest, ih]
    rfl

/-- A text is cut at a byte just if it is two texts and the first one ends there. -/
theorem splitAtByte?_eq_some_iff {s a b : List Char} {n : Nat} :
    splitAtByte? s n = some (a, b) ↔ s = a ++ b ∧ byteLength a = n := by
  refine ⟨splitAtByte?_eq_some, ?_⟩
  rintro ⟨rfl, rfl⟩
  exact splitAtByte?_append a b

theorem slice?_append (a b c : List Char) :
    slice? (a ++ (b ++ c)) (byteLength a) (byteLength a + byteLength b) = some b := by
  rw [slice?, if_pos (by omega), Nat.add_sub_cancel_left]
  simp [splitAtByte?_append]

/-- The longest run of word characters at the end of a text. -/
structure EndsInWord (isWord : Char → Bool) (s word : List Char) : Prop where
  all : ∀ c ∈ word, isWord c = true
  longest : ∃ front, s = front ++ word ∧ ∀ c, front.getLast? = some c → isWord c = false

theorem endsInWord_takeWhile (isWord : Char → Bool) (s : List Char) :
    EndsInWord isWord s (s.reverse.takeWhile isWord).reverse := by
  constructor
  · intro c member
    exact List.mem_takeWhile_imp (List.mem_reverse.1 member)
  · refine ⟨(s.reverse.dropWhile isWord).reverse, ?_, ?_⟩
    · rw [← List.reverse_append, List.takeWhile_append_dropWhile, List.reverse_reverse]
    · intro c last
      rw [List.getLast?_reverse] at last
      have := List.head?_dropWhile_not isWord s.reverse
      rw [last] at this
      simpa using this

/-- A point is between two parts of a row. -/
def IsCut (s : List Char) (p : Point) (before after : List Char) : Prop :=
  row? s p.row.toNat = some (before ++ after) ∧ byteLength before = p.column.toNat

/-- The longest run of word characters that ends at a point.  A point that is in no row, behind the
end of its row or inside a character has an empty one. -/
def IsWordBefore (isWord : Char → Bool) (s : List Char) (p : Point) (word : List Char) : Prop :=
  (∃ before after, IsCut s p before after ∧ EndsInWord isWord before word) ∨
    (∀ before after, ¬IsCut s p before after) ∧ word = []

theorem byteLength_reverse (s : List Char) : byteLength s.reverse = byteLength s := by
  induction s with
  | nil => rfl
  | cons c s ih =>
    rw [List.reverse_cons, byteLength_append, ih, byteLength_cons, byteLength_cons, byteLength_nil]
    omega

/-- The part of the word around a cut that is before it. -/
theorem slice?_wordAround? (isWord : Char → Bool) (before after : List Char) :
    ((wordAround? isWord (before ++ after) (byteLength before)).bind fun bounds =>
      slice? (before ++ after) bounds.1 (byteLength before)).getD [] =
        (before.reverse.takeWhile isWord).reverse := by
  obtain ⟨-, front, split, -⟩ := endsInWord_takeWhile isWord before
  rw [wordAround?, splitAtByte?_append]
  simp only [Option.bind_eq_bind, Option.bind_some]
  split
  · next none =>
    have empty : before.reverse.takeWhile isWord = [] :=
      List.isEmpty_iff.1 (Bool.and_eq_true_iff.1 none).1
    rw [empty]
    rfl
  · have start : byteLength before - byteLength (before.reverse.takeWhile isWord) =
        byteLength front := by
      have length := congrArg byteLength split
      rw [byteLength_append, byteLength_reverse] at length
      omega
    have cut := slice?_append front (before.reverse.takeWhile isWord).reverse after
    rw [← List.append_assoc, ← split, ← byteLength_append, ← split] at cut
    rw [Option.bind_some, start, cut, Option.getD_some]

/-! ### The word around a cursor -/

/-- A character starts at a byte of a line, or the line ends there. -/
def IsBoundary (line : List Char) (n : Nat) : Prop :=
  ∃ before after, line = before ++ after ∧ byteLength before = n

/-- A word of a line: a run of word characters between two bytes that no word character precedes or
follows. -/
structure IsWordIn (isWord : Char → Bool) (line : List Char) (start stop : Nat)
    (word : List Char) : Prop where
  nonempty : word ≠ []
  all : ∀ c ∈ word, isWord c = true
  longest : ∃ front back, line = front ++ (word ++ back) ∧ byteLength front = start ∧
    byteLength (front ++ word) = stop ∧ (∀ c, front.getLast? = some c → isWord c = false) ∧
    ∀ c, back.head? = some c → isWord c = false

variable {isWord : Char → Bool} {line word : List Char} {column start stop : Nat}

theorem byteLength_pos {s : List Char} (h : s ≠ []) : 0 < byteLength s := by
  obtain ⟨c, rest, rfl⟩ := List.exists_cons_of_ne_nil h
  have := c.utf8Size_pos
  rw [byteLength_cons]
  omega

/-- Of two beginnings of a text, the one with fewer bytes is a beginning of the other. -/
theorem prefix_of_byteLength_le {s a b : List Char} (ha : a <+: s) (hb : b <+: s)
    (le : byteLength a ≤ byteLength b) : a <+: b := by
  rcases List.prefix_or_prefix_of_prefix ha hb with shorter | ⟨rest, rfl⟩
  · exact shorter
  · have none : rest = [] := by
      by_contra more
      have := byteLength_pos more
      rw [byteLength_append] at le
      omega
    simp [none]

/-- A cut between the ends of a word cuts the word in two. -/
theorem exists_cut_of_isBoundary {front back : List Char}
    (boundary : IsBoundary (front ++ (word ++ back)) column) (above : byteLength front ≤ column)
    (below : column ≤ byteLength (front ++ word)) :
    ∃ left right, word = left ++ right ∧ byteLength (front ++ left) = column := by
  obtain ⟨before, after, split, rfl⟩ := boundary
  have cut : before <+: front ++ (word ++ back) := ⟨after, split.symm⟩
  obtain ⟨left, rfl⟩ := prefix_of_byteLength_le (List.prefix_append _ _) cut above
  have inside : front ++ left <+: front ++ word :=
    prefix_of_byteLength_le cut (by rw [← List.append_assoc]; exact List.prefix_append _ _) below
  obtain ⟨right, rfl⟩ := (List.prefix_append_right_inj front).1 inside
  exact ⟨left, right, rfl, rfl⟩

theorem takeWhile_append_of_head {s rest : List Char} (all : ∀ c ∈ s, isWord c = true)
    (ends : ∀ c, rest.head? = some c → isWord c = false) : (s ++ rest).takeWhile isWord = s := by
  have none : rest.takeWhile isWord = [] := by
    cases rest with
    | nil => rfl
    | cons c rest => rw [List.takeWhile_cons_of_neg (by simp [ends c rfl])]
  rw [List.takeWhile_append_of_pos all, none, List.append_nil]

/-- A cut of a run of word characters finds both ends of the run. -/
theorem wordAround?_append {front left right back : List Char}
    (all : ∀ c ∈ left ++ right, isWord c = true)
    (starts : ∀ c, front.getLast? = some c → isWord c = false)
    (ends : ∀ c, back.head? = some c → isWord c = false) :
    wordAround? isWord (front ++ (left ++ right ++ back)) (byteLength (front ++ left)) =
      if left ++ right = [] then none
      else some (byteLength front, byteLength (front ++ (left ++ right))) := by
  have before : (front ++ left).reverse.takeWhile isWord = left.reverse := by
    rw [List.reverse_append]
    refine takeWhile_append_of_head ?_ ?_
    · intro c member
      exact all c (by simp [List.mem_reverse.1 member])
    · intro c last
      exact starts c (by rwa [List.head?_reverse] at last)
  have after : (right ++ back).takeWhile isWord = right :=
    takeWhile_append_of_head (fun c member => all c (by simp [member])) ends
  have parts : front ++ (left ++ right ++ back) = (front ++ left) ++ (right ++ back) := by simp
  rw [wordAround?, parts, splitAtByte?_append]
  simp only [Option.bind_eq_bind, Option.bind_some, before, after, byteLength_reverse,
    byteLength_append, Bool.and_eq_true, List.isEmpty_iff,
    List.reverse_eq_nil_iff, List.append_eq_nil_iff, Nat.add_sub_cancel, Nat.add_assoc]

/-- The two sides of a cut, divided where the word characters next to it end. -/
theorem exists_word_parts (isWord : Char → Bool) (before after : List Char) :
    ∃ front left right back, before = front ++ left ∧ after = right ++ back ∧
      (∀ c ∈ left ++ right, isWord c = true) ∧
      (∀ c, front.getLast? = some c → isWord c = false) ∧
      ∀ c, back.head? = some c → isWord c = false := by
  obtain ⟨all, front, split, starts⟩ := endsInWord_takeWhile isWord before
  refine ⟨front, _, after.takeWhile isWord, after.dropWhile isWord, split,
    List.takeWhile_append_dropWhile.symm, ?_, starts, ?_⟩
  · intro c member
    rcases List.mem_append.1 member with left | right
    · exact all c left
    · exact List.mem_takeWhile_imp right
  · intro c first
    have := List.head?_dropWhile_not isWord after
    rw [first] at this
    exact this

theorem isBoundary_of_wordAround? {bounds : Nat × Nat}
    (h : wordAround? isWord line column = some bounds) : IsBoundary line column := by
  rw [wordAround?] at h
  obtain ⟨⟨before, after⟩, cut, -⟩ := Option.bind_eq_some_iff.1 h
  exact ⟨before, after, splitAtByte?_eq_some cut⟩

/-- The bounds that are found at a column are those of the word that the column is in or at one end
of. -/
theorem wordAround?_eq_some_iff :
    wordAround? isWord line column = some (start, stop) ↔
      IsBoundary line column ∧ start ≤ column ∧ column ≤ stop ∧
        ∃ word, IsWordIn isWord line start stop word := by
  constructor
  · intro found
    obtain ⟨before, after, rfl, rfl⟩ := isBoundary_of_wordAround? found
    obtain ⟨front, left, right, back, rfl, rfl, all, starts, ends⟩ :=
      exists_word_parts isWord before after
    have parts : (front ++ left) ++ (right ++ back) = front ++ (left ++ right ++ back) := by simp
    rw [parts, wordAround?_append all starts ends] at found
    split at found
    · cases found
    · next nonempty =>
      obtain ⟨rfl, rfl⟩ := Prod.mk.inj (Option.some.inj found)
      refine ⟨⟨_, _, rfl, rfl⟩, ?_, ?_, left ++ right, nonempty, all, front, back, parts, rfl, rfl,
        starts, ends⟩
      · simp
      · simp
  · rintro ⟨boundary, above, below, word, nonempty, all, front, back, rfl, rfl, rfl, starts, ends⟩
    obtain ⟨left, right, rfl, rfl⟩ := exists_cut_of_isBoundary boundary above below
    rw [wordAround?_append all starts ends, if_neg nonempty]

theorem takeWhile_ne_nil_iff {s : List Char} :
    s.takeWhile isWord ≠ [] ↔ ∃ c, s.head? = some c ∧ isWord c = true := by
  cases s with
  | nil => simp
  | cons c s => by_cases h : isWord c = true <;> simp [h]

theorem isSome_wordAround?_append (isWord : Char → Bool) (before after : List Char) :
    (wordAround? isWord (before ++ after) (byteLength before)).isSome ↔
      ∃ c, (before.getLast? = some c ∨ after.head? = some c) ∧ isWord c = true := by
  simp only [wordAround?, splitAtByte?_append, Option.bind_eq_bind, Option.bind_some,
    Bool.and_eq_true, List.isEmpty_iff, Option.isSome_ite', or_and_right, exists_or,
    ← List.head?_reverse, ← takeWhile_ne_nil_iff]
  exact not_and_or

/-- There is a word at a column just if the character before the column or the one behind it is a
word character. -/
theorem isSome_wordAround? :
    (wordAround? isWord line column).isSome ↔
      ∃ before after, line = before ++ after ∧ byteLength before = column ∧
        ∃ c, (before.getLast? = some c ∨ after.head? = some c) ∧ isWord c = true := by
  constructor
  · intro found
    obtain ⟨bounds, bound⟩ := Option.isSome_iff_exists.1 found
    obtain ⟨before, after, rfl, rfl⟩ := isBoundary_of_wordAround? bound
    exact ⟨before, after, rfl, rfl, (isSome_wordAround?_append ..).1 found⟩
  · rintro ⟨before, after, rfl, rfl, near⟩
    exact (isSome_wordAround?_append ..).2 near

/-- A word can be cut out of its line, and so can its part before a column. -/
theorem IsWordIn.slice? (h : IsWordIn isWord line start stop word) (boundary : IsBoundary line column)
    (above : start ≤ column) (below : column ≤ stop) :
    Text.slice? line start stop = some word ∧
      ∃ part, part <+: word ∧ Text.slice? line start column = some part := by
  obtain ⟨-, -, front, back, rfl, rfl, rfl, -, -⟩ := h
  obtain ⟨left, right, rfl, rfl⟩ := exists_cut_of_isBoundary boundary above below
  refine ⟨?_, left, List.prefix_append _ _, ?_⟩
  · rw [byteLength_append]
    exact slice?_append ..
  · rw [byteLength_append, List.append_assoc]
    exact slice?_append ..

theorem IsWordIn.lt (h : IsWordIn isWord line start stop word) : start < stop := by
  obtain ⟨nonempty, -, front, back, -, rfl, rfl, -, -⟩ := h
  have := byteLength_pos nonempty
  rw [byteLength_append]
  omega

end Autotools.Text
