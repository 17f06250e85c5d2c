import Autotools.Report.Terminal

/-! Where the lines of a drawing start.  A line ends behind each of several characters, so lines
start at offset zero and behind every line end that is not the last character.  Up to an offset in
the text, their number is one more than the number of newlines before it and of the other line ends
before it. -/

namespace Autotools.Terminal

/-- Whether a line ends between two characters.  A carriage return and a newline stay together. -/
def endsBetween (c d : Char) : Bool := isLineEnd c && !(c == '\r' && d == '\n')

/-- The offsets behind the first character of a text, which has an offset itself, at which lines
start. -/
def startsAfter (offset : Nat) : List Char → List Nat
  | [] => []
  | [_] => []
  | c :: d :: s =>
    if endsBetween c d then (offset + 1) :: startsAfter (offset + 1) (d :: s)
    else startsAfter (offset + 1) (d :: s)

theorem eq_nil_of_splitLines {s : List Char} (h : splitLines s = []) : s = [] := by
  fun_cases splitLines s <;> simp_all [splitLines]

theorem map_offset_place {s : List Char} (h : s ≠ []) (offset : Nat) :
    (place offset (splitLines s)).map (·.offset) = offset :: startsAfter offset s := by
  fun_induction splitLines s generalizing offset with
  | case1 => exact absurd rfl h
  | case2 rest ih =>
    cases rest with
    | nil => rfl
    | cons d rest =>
      have split : startsAfter offset ('\r' :: '\n' :: d :: rest) =
          (offset + 2) :: startsAfter (offset + 2) (d :: rest) := rfl
      rw [place, List.map_cons, split, ← ih (by simp)]
      rfl
  | case3 c rest apart ends ih =>
    cases rest with
    | nil => rfl
    | cons d rest =>
      have between : endsBetween c d = true := by
        have apart : c ≠ '\r' ∨ d ≠ '\n' :=
          Decidable.not_and_iff_not_or_not.1 fun pair => apart rest pair.1 (by rw [pair.2])
        simpa [endsBetween, ends] using apart
      rw [place, List.map_cons, startsAfter, if_pos between, ← ih (by simp)]
      rfl
  | case4 c rest apart inner none ih =>
    rw [eq_nil_of_splitLines none]
    rfl
  | case5 c rest apart inner line others lines ih =>
    cases rest with
    | nil => simp [splitLines] at lines
    | cons d rest =>
      have between : endsBetween c d = false := by simp [endsBetween, inner]
      have behind := ih (by simp) (offset + 1)
      rw [lines, place, List.map_cons, List.cons.injEq] at behind
      rw [place, List.map_cons, startsAfter, if_neg (by simp [between]), ← behind.2,
        List.length_cons]
      congr 3
      omega

theorem lt_of_mem_startsAfter {offset n : Nat} {s : List Char} (h : n ∈ startsAfter offset s) :
    offset < n := by
  fun_induction startsAfter offset s with
  | case1 => cases h
  | case2 => cases h
  | case3 offset c d s ends ih =>
    rcases List.mem_cons.1 h with rfl | h
    · omega
    · have := ih h
      omega
  | case4 offset c d s inner ih =>
    have := ih h
    omega

theorem lt_length_of_mem_startsAfter {offset n : Nat} {s : List Char}
    (h : n ∈ startsAfter offset s) : n < offset + s.length := by
  fun_induction startsAfter offset s with
  | case1 => cases h
  | case2 => cases h
  | case3 offset c d s ends ih =>
    simp only [List.length_cons] at ih ⊢
    rcases List.mem_cons.1 h with rfl | h
    · omega
    · have := ih h
      omega
  | case4 offset c d s inner ih =>
    simp only [List.length_cons] at ih ⊢
    have := ih h
    omega

theorem pairwise_startsAfter (offset : Nat) (s : List Char) :
    (offset :: startsAfter offset s).Pairwise (· < ·) := by
  refine List.pairwise_cons.2 ⟨fun n h => lt_of_mem_startsAfter h, ?_⟩
  fun_induction startsAfter offset s with
  | case1 => exact .nil
  | case2 => exact .nil
  | case3 offset c d s ends ih =>
    exact List.pairwise_cons.2 ⟨fun n h => lt_of_mem_startsAfter h, ih⟩
  | case4 offset c d s inner ih => exact ih

/-- The offsets at which the lines of a source start. -/
def starts (source : List Char) : List Nat := 0 :: startsAfter 0 source

theorem map_offset_sourceLines (source : List Char) :
    (sourceLines source).map (·.offset) = starts source := by
  rw [sourceLines, starts]
  cases source with
  | nil => rfl
  | cons c s => exact map_offset_place (by simp) 0

/-- In an ascending list, the members up to a bound come first. -/
theorem lt_countP_iff {l : List Nat} (ascending : l.Pairwise (· < ·)) {i x : Nat} (k : Nat)
    (there : l[i]? = some x) : i < l.countP (· ≤ k) ↔ x ≤ k := by
  induction l generalizing i with
  | nil => simp at there
  | cons a l ih =>
    obtain ⟨above, rest⟩ := List.pairwise_cons.1 ascending
    have beyond (h : ¬a ≤ k) : l.countP (· ≤ k) = 0 := by
      rw [List.countP_eq_zero]
      intro b hb
      have := above b hb
      rw [decide_eq_true_eq]
      omega
    rw [List.countP_cons]
    cases i with
    | zero =>
      obtain rfl : a = x := by simpa using there
      by_cases h : a ≤ k <;> simp [h, beyond]
    | succ i =>
      have := ih rest (by simpa using there)
      have := above x (List.mem_of_getElem? (by simpa using there))
      by_cases h : a ≤ k
      · rw [if_pos (decide_eq_true h)]
        omega
      · rw [if_neg (by rwa [decide_eq_true_eq]), beyond h]
        omega

/-! ### Line ends -/

/-- The number of line ends in `before` that are neither newlines nor carriage returns in front of
one, where `after` follows. -/
def otherEnds : List Char → List Char → Nat
  | [], _ => 0
  | c :: before, after =>
    (if isLineEnd c && c != '\n' && !(c == '\r' && (before ++ after).head? == some '\n') then 1
      else 0) + otherEnds before after

theorem otherEnds_append (before middle after : List Char) :
    otherEnds (before ++ middle) after =
      otherEnds before (middle ++ after) + otherEnds middle after := by
  induction before with
  | nil => simp [otherEnds]
  | cons c before ih => simp only [List.cons_append, otherEnds, ih, List.append_assoc]; omega

/-- One more character adds a line end if a line ends behind it. -/
theorem count_add_otherEnds_cons {c d : Char} {before after s : List Char}
    (next : before ++ after = d :: s) :
    (c :: before).count '\n' + otherEnds (c :: before) after =
      (if endsBetween c d then 1 else 0) + (before.count '\n' + otherEnds before after) := by
  rw [List.count_cons, otherEnds, next, endsBetween, List.head?_cons]
  by_cases newline : c = '\n'
  · subst newline
    have ends : isLineEnd '\n' = true := by decide
    simp only [ends, bne_self_eq_false, Bool.and_false, Bool.false_and, Bool.false_eq_true,
      if_false, BEq.rfl, if_true, Char.reduceBEq, Bool.not_false, Bool.and_self]
    omega
  · have other : (c != '\n') = true := bne_iff_ne.2 newline
    have same : (c == '\n') = false := beq_false_of_ne newline
    simp only [other, same, Bool.and_true, Option.some_beq_some, Bool.false_eq_true, if_false]
    omega

/-- Up to an offset before the end of a text, one line starts at the beginning and one behind each
line end before the offset. -/
theorem countP_startsAfter {before after : List Char} (more : after ≠ []) (offset : Nat) :
    (offset :: startsAfter offset (before ++ after)).countP (· ≤ offset + before.length) =
      1 + (before.count '\n' + otherEnds before after) := by
  induction before generalizing offset with
  | nil =>
    have beyond : (startsAfter offset after).countP (· ≤ offset) = 0 := by
      rw [List.countP_eq_zero]
      intro n hn
      have := lt_of_mem_startsAfter hn
      rw [decide_eq_true_eq]
      omega
    simp [otherEnds, beyond]
  | cons c before ih =>
    obtain ⟨d, s, next⟩ :=
      List.exists_cons_of_ne_nil (List.append_ne_nil_of_right_ne_nil before more)
    have bound : offset + (c :: before).length = offset + 1 + before.length := by
      rw [List.length_cons]
      omega
    have behind := ih (offset + 1)
    rw [next, List.countP_cons_of_pos (by simp)] at behind
    rw [count_add_otherEnds_cons next, List.cons_append, next, startsAfter, bound,
      List.countP_cons_of_pos (by simp; omega)]
    split
    · rw [List.countP_cons_of_pos (by simp)]
      omega
    · omega

theorem countP_starts (before : List Char) {after : List Char} (more : after ≠ []) :
    (starts (before ++ after)).countP (· ≤ before.length) =
      1 + (before.count '\n' + otherEnds before after) := by
  simpa [starts] using countP_startsAfter more 0

theorem lt_length_of_mem_starts {source : List Char} (some : source ≠ []) {start : Nat}
    (h : start ∈ starts source) : start < source.length := by
  rcases List.mem_cons.1 h with rfl | h
  · exact List.length_pos_iff.2 some
  · simpa using lt_length_of_mem_startsAfter h

/-! ### Line and column -/

/-- A character is in the last line that starts no later. -/
theorem exists_location (source : List Char) (offset : Nat) :
    ∃ row start, (starts source)[row]? = some start ∧
      (starts source).countP (· ≤ offset) = row + 1 ∧
      location (sourceLines source) offset = (row + 1, offset - start + 1) := by
  have row : lineOf (sourceLines source) offset = (starts source).countP (· ≤ offset) - 1 := by
    rw [lineOf, ← map_offset_sourceLines, List.countP_map]
    rfl
  have first : 0 < (starts source).countP (· ≤ offset) := by
    rw [starts, List.countP_cons_of_pos (by simp)]
    omega
  have bound : (starts source).countP (· ≤ offset) ≤ (starts source).length :=
    List.countP_le_length
  obtain ⟨start, there⟩ : ∃ start,
      (starts source)[(starts source).countP (· ≤ offset) - 1]? = some start :=
    ⟨_, List.getElem?_eq_getElem (by omega)⟩
  refine ⟨_, start, there, by omega, ?_⟩
  have line : ((sourceLines source)[(starts source).countP (· ≤ offset) - 1]?.getD
      default).offset = start := by
    rw [← map_offset_sourceLines, List.getElem?_map] at there
    obtain ⟨line, found, same⟩ := Option.map_eq_some_iff.1 there
    rw [← map_offset_sourceLines, found]
    exact same
  simp only [location, row, line]

/-- The number of characters behind the last newline of a text. -/
def sinceNewline (s : List Char) : Nat := (s.reverse.takeWhile (· ≠ '\n')).length

/-- A text is its rows up to the last newline, and what is behind that. -/
theorem exists_lastRow (s : List Char) :
    ∃ above row, s = above ++ row ∧ row.length = sinceNewline s ∧ '\n' ∉ row ∧
      (above = [] ∨ ∃ rows, above = rows ++ ['\n']) := by
  have split := List.takeWhile_append_dropWhile (p := (· ≠ '\n')) (l := s.reverse)
  refine ⟨(s.reverse.dropWhile (· ≠ '\n')).reverse, (s.reverse.takeWhile (· ≠ '\n')).reverse,
    ?_, by rw [List.length_reverse]; rfl, ?_, ?_⟩
  · rw [← List.reverse_append, split, List.reverse_reverse]
  · intro newline
    have := List.all_eq_true.1 List.all_takeWhile _ (List.mem_reverse.1 newline)
    simp at this
  · cases rows : s.reverse.dropWhile (· ≠ '\n') with
    | nil => exact .inl rfl
    | cons c rows' =>
      have : ¬(c ≠ '\n') := by
        have := List.head?_dropWhile_not (· ≠ '\n') s.reverse
        rw [rows] at this
        simpa using this
      obtain rfl : c = '\n' := Decidable.not_not.1 this
      exact .inr ⟨rows'.reverse, by simp⟩

section Location

variable {before after above row : List Char}

/-- The line with the number of newlines before an offset starts no later than behind the last of
them. -/
theorem start_le {start : Nat} (more : row ++ after ≠ []) (inner : '\n' ∉ row)
    (there : (starts (above ++ (row ++ after)))[(above ++ row).count '\n']? = some start) :
    start ≤ above.length := by
  rw [← lt_countP_iff (pairwise_startsAfter 0 _) above.length there]
  have count := countP_starts above more
  rw [starts] at count
  rw [count, List.count_append, List.count_eq_zero.2 inner]
  omega

/-- If all line ends before it are newlines, it starts right behind the last of them. -/
theorem le_start {start : Nat} (plain : otherEnds (above ++ row) after = 0)
    (newline : above = [] ∨ ∃ rows, above = rows ++ ['\n'])
    (there : (starts (above ++ (row ++ after)))[(above ++ row).count '\n']? = some start) :
    above.length ≤ start := by
  rcases newline with rfl | ⟨rows, rfl⟩
  · simp
  · have count := countP_starts rows (show '\n' :: (row ++ after) ≠ [] by simp)
    have none : otherEnds rows ('\n' :: (row ++ after)) = 0 := by
      rw [List.append_assoc, otherEnds_append] at plain
      simpa using (Nat.add_eq_zero_iff.1 plain).1
    have text : rows ++ ['\n'] ++ (row ++ after) = rows ++ '\n' :: (row ++ after) := by simp
    rw [text] at there
    have later := lt_countP_iff (pairwise_startsAfter 0 _) rows.length there
    rw [starts] at count
    rw [count, none] at later
    simp only [List.count_append, List.count_cons_self, List.count_nil] at later
    rw [List.length_append, List.length_singleton]
    omega

/-- In a text that ends in a newline, let an offset be at least the number of characters of
`before`.  The line and the column of the offset are those behind `before`, counted by newlines, if
and only if the offset is the number of characters of `before`, some text follows, and no line ends
in `before` but at newlines. -/
theorem location_eq_iff {offset : Nat} (closed : (before ++ after).getLast? = some '\n')
    (low : before.length ≤ offset) (high : offset ≤ (before ++ after).length) :
    location (sourceLines (before ++ after)) offset =
        (before.count '\n' + 1, sinceNewline before + 1) ↔
      offset = before.length ∧ after ≠ [] ∧ otherEnds before after = 0 := by
  obtain ⟨above, row, rfl, since, inner, newline⟩ := exists_lastRow before
  obtain ⟨line, start, there, count, location⟩ :=
    exists_location (above ++ row ++ after) offset
  have some : above ++ row ++ after ≠ [] := by
    intro none
    rw [none] at closed
    cases closed
  have inside := lt_length_of_mem_starts some (List.mem_of_getElem? there)
  rw [location, ← since, Prod.mk.injEq]
  simp only [List.length_append] at low high inside
  constructor
  · rintro ⟨sameLine, sameColumn⟩
    obtain rfl : line = (above ++ row).count '\n' := by omega
    have offset_eq : offset = (above ++ row).length := by
      rw [List.length_append]
      by_cases more : row ++ after = []
      · simp only [List.append_eq_nil_iff] at more
        simp only [more, List.length_nil] at low high ⊢
        omega
      · rw [List.append_assoc] at there
        have := start_le more inner there
        omega
    have more : after ≠ [] := by
      rintro rfl
      -- the text ends in a newline, so its last row is empty and no line starts behind it
      have last : row = [] := by
        cases row.eq_nil_or_concat with
        | inl none => exact none
        | inr concat =>
          obtain ⟨front, c, rfl⟩ := concat
          simp at closed
          simp [closed] at inner
      subst last
      simp only [List.append_nil, List.length_nil] at offset_eq inside sameColumn
      omega
    refine ⟨offset_eq, more, ?_⟩
    rw [offset_eq, countP_starts _ more] at count
    omega
  · rintro ⟨rfl, more, plain⟩
    rw [countP_starts _ more, plain] at count
    obtain rfl : line = (above ++ row).count '\n' := by omega
    rw [List.append_assoc] at there
    have upper := start_le (List.append_ne_nil_of_right_ne_nil row more) inner there
    have lower := le_start plain newline there
    rw [List.length_append]
    omega

end Location

end Autotools.Terminal
