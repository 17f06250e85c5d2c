import Autotools.Docs.Manual
import Autotools.Proofs.Text.Blank
import Autotools.Proofs.Text.Rows

/-! Paragraphs of wrapped lines.  A line with words puts its trimmed text in front of the paragraphs
of the lines behind it, with a space between if the next line has words too and an empty row
otherwise; a blank line adds nothing.  So the words stay as they are, and the paragraphs read as
lines are the same paragraphs. -/

namespace Autotools.Manual

open Text

variable {x y : List Char} {lines rest : List (List Char)}

/-! ### Line by line -/

/-- The lines of each paragraph, trimmed. -/
def groups (lines : List (List Char)) : List (List (List Char)) :=
  ((lines.map trim).splitOnP List.isEmpty).filter (!·.isEmpty)

theorem paragraphs_eq (lines : List (List Char)) :
    paragraphs lines = ['\n', '\n'].intercalate ((groups lines).map [' '].intercalate) := rfl

theorem groups_cons_of_blank (blank : trim x = []) (rest : List (List Char)) :
    groups (x :: rest) = groups rest := by
  simp [groups, List.splitOnP_cons_eq_if_modifyHead, blank]

theorem groups_eq_nil (blank : ∀ line ∈ lines, trim line = []) : groups lines = [] := by
  induction lines with
  | nil => rfl
  | cons x rest ih =>
    obtain ⟨here, others⟩ := List.forall_mem_cons.1 blank
    rw [groups_cons_of_blank here, ih others]

theorem exists_groups_cons (solid : trim x ≠ []) (rest : List (List Char)) :
    ∃ group others, groups (x :: rest) = (trim x :: group) :: others := by
  obtain ⟨group, others, split⟩ := List.exists_cons_of_ne_nil
    (List.splitOnP_ne_nil List.isEmpty (rest.map trim))
  refine ⟨group, others.filter (!·.isEmpty), ?_⟩
  simp [groups, List.splitOnP_cons_eq_if_modifyHead, solid, split]

/-- A line with words goes to the paragraph of the next line if that has words too. -/
theorem groups_cons_cons (solid : trim x ≠ []) (solid' : trim y ≠ []) (rest : List (List Char)) :
    ∃ group others, groups (y :: rest) = group :: others ∧ group ≠ [] ∧
      groups (x :: y :: rest) = (trim x :: group) :: others := by
  obtain ⟨group, others, split⟩ := List.exists_cons_of_ne_nil
    (List.splitOnP_ne_nil List.isEmpty (rest.map trim))
  refine ⟨trim y :: group, others.filter (!·.isEmpty), ?_, by simp, ?_⟩
  · simp [groups, List.splitOnP_cons_eq_if_modifyHead, solid', split]
  · simp [groups, List.splitOnP_cons_eq_if_modifyHead, solid, solid', split]

theorem groups_cons_of_apart (solid : trim x ≠ []) (blank : trim y = [])
    (rest : List (List Char)) : groups (x :: y :: rest) = [trim x] :: groups (y :: rest) := by
  simp [groups, List.splitOnP_cons_eq_if_modifyHead, solid, blank]

theorem intercalate_cons_eq (sep first : List Char) (others : List (List Char)) :
    sep.intercalate (first :: others) = first ++ others.flatMap (sep ++ ·) := by
  induction others generalizing first with
  | nil => simp
  | cons next others ih =>
    rw [List.intercalate_cons_cons, ih, List.flatMap_cons]
    simp

theorem paragraphs_cons_of_blank (blank : trim x = []) (rest : List (List Char)) :
    paragraphs (x :: rest) = paragraphs rest := by
  rw [paragraphs_eq, groups_cons_of_blank blank, ← paragraphs_eq]

/-- Paragraphs start with the first line that has words. -/
theorem exists_paragraphs_cons (solid : trim x ≠ []) (rest : List (List Char)) :
    ∃ more, paragraphs (x :: rest) = trim x ++ more := by
  obtain ⟨group, others, split⟩ := exists_groups_cons solid rest
  rw [paragraphs_eq, split, List.map_cons, intercalate_cons_eq, intercalate_cons_eq,
    List.append_assoc]
  exact ⟨_, rfl⟩

theorem paragraphs_eq_nil_iff : paragraphs lines = [] ↔ ∀ line ∈ lines, trim line = [] := by
  induction lines with
  | nil => simp [paragraphs]
  | cons x rest ih =>
    by_cases blank : trim x = []
    · rw [paragraphs_cons_of_blank blank, ih, List.forall_mem_cons]
      exact (and_iff_right blank).symm
    · obtain ⟨more, split⟩ := exists_paragraphs_cons blank rest
      simp [split, blank]

/-- What stands before the paragraphs of some lines, behind a line with words: an empty row if the
first of them is blank, or else a space. -/
def gap : List (List Char) → List Char
  | [] => []
  | y :: _ => if trim y = [] then ['\n', '\n'] else [' ']

/-- What the lines behind a line with words add to it. -/
def following (rest : List (List Char)) : List Char :=
  if paragraphs rest = [] then [] else gap rest ++ paragraphs rest

/-- A line with words puts its text in front of what the lines behind it add. -/
theorem paragraphs_cons (solid : trim x ≠ []) (rest : List (List Char)) :
    paragraphs (x :: rest) = trim x ++ following rest := by
  cases rest with
  | nil => simp [paragraphs, following, List.splitOnP_cons_eq_if_modifyHead, solid]
  | cons y rest =>
    rw [following, gap]
    by_cases blank : trim y = []
    · rw [if_pos blank, paragraphs_eq, groups_cons_of_apart solid blank, List.map_cons,
        List.intercalate_singleton]
      by_cases none : paragraphs (y :: rest) = []
      · have nothing := groups_eq_nil (paragraphs_eq_nil_iff.1 none)
        rw [if_pos none, nothing]
        simp
      · have more : (groups (y :: rest)).map [' '].intercalate ≠ [] := by
          intro nothing
          rw [paragraphs_eq, nothing] at none
          exact none rfl
        rw [if_neg none, List.intercalate_cons_of_ne_nil more, ← paragraphs_eq, List.append_assoc]
    · obtain ⟨group, others, split, nonempty, joined⟩ := groups_cons_cons solid blank rest
      have more : paragraphs (y :: rest) ≠ [] := by simp [paragraphs_eq_nil_iff, blank]
      rw [if_neg more, if_neg blank, paragraphs_eq, paragraphs_eq, joined, split, List.map_cons,
        List.map_cons, List.intercalate_cons_of_ne_nil nonempty, intercalate_cons_eq,
        intercalate_cons_eq]
      simp

/-- What one more line does to paragraphs.  Every fact about them follows from these three cases. -/
theorem paragraphs_cases (x : List Char) (rest : List (List Char)) :
    (trim x = [] ∧ paragraphs (x :: rest) = paragraphs rest) ∨
    (trim x ≠ [] ∧ paragraphs rest = [] ∧ paragraphs (x :: rest) = trim x) ∨
    (trim x ≠ [] ∧ paragraphs rest ≠ [] ∧ (gap rest = [' '] ∨ gap rest = ['\n', '\n']) ∧
      paragraphs (x :: rest) = trim x ++ (gap rest ++ paragraphs rest)) := by
  by_cases blank : trim x = []
  · exact .inl ⟨blank, paragraphs_cons_of_blank blank rest⟩
  · by_cases none : paragraphs rest = []
    · refine .inr (.inl ⟨blank, none, ?_⟩)
      rw [paragraphs_cons blank, following, if_pos none, List.append_nil]
    · refine .inr (.inr ⟨blank, none, ?_, ?_⟩)
      · cases rest with
        | nil => exact absurd rfl none
        | cons y rest => by_cases next : trim y = [] <;> simp [gap, next]
      · rw [paragraphs_cons blank, following, if_neg none]

theorem paragraphs_singleton (x : List Char) : paragraphs [x] = trim x := by
  rcases paragraphs_cases x [] with ⟨blank, same⟩ | ⟨-, -, last⟩ | ⟨-, more, -⟩
  · rw [same, blank]
    rfl
  · exact last
  · exact absurd rfl more

/-! ### Words and ends -/

theorem isBlankText_of_gap {s : List Char} (h : s = [' '] ∨ s = ['\n', '\n']) :
    IsBlankText s ∧ s ≠ [] := by
  rcases h with rfl | rfl <;> exact ⟨by simp [IsBlankText, isBlank], by simp⟩

theorem words_paragraphs (lines : List (List Char)) :
    words (paragraphs lines) = lines.flatMap words := by
  induction lines with
  | nil => rfl
  | cons x rest ih =>
    rw [List.flatMap_cons, ← ih, ← words_trim x]
    rcases paragraphs_cases x rest with ⟨blank, same⟩ | ⟨-, none, last⟩ | ⟨-, -, between, joined⟩
    · rw [same, blank, words_nil, List.nil_append]
    · rw [last, none, words_nil, List.append_nil]
    · obtain ⟨blank, nonempty⟩ := isBlankText_of_gap between
      rw [joined, words_append_gap blank nonempty]

theorem isTrimmed_paragraphs (lines : List (List Char)) : IsTrimmed (paragraphs lines) := by
  induction lines with
  | nil => exact isTrimmed_nil
  | cons x rest ih =>
    rcases paragraphs_cases x rest with ⟨-, same⟩ | ⟨-, -, last⟩ | ⟨solid, more, -, joined⟩
    · rwa [same]
    · rw [last]
      exact isTrimmed_trim x
    · rw [joined]
      exact (isTrimmed_trim x).append ih solid more (gap rest)

/-! ### Newlines -/

/-- Paragraphs start with a character that is not blank. -/
theorem exists_cons_of_paragraphs (nonempty : paragraphs lines ≠ []) :
    ∃ c more, paragraphs lines = c :: more ∧ isBlank c = false := by
  obtain ⟨c, more, split⟩ := List.exists_cons_of_ne_nil nonempty
  exact ⟨c, more, split, (isTrimmed_paragraphs lines).head c (by rw [split]; rfl)⟩

theorem newline_not_mem_trim (plain : '\n' ∉ x) : '\n' ∉ trim x :=
  fun inside => plain (mem_of_mem_trim inside)

theorem not_infix_append {s t : List Char} (plain : '\n' ∉ s)
    (h : ¬['\n', '\n', '\n'] <:+: t) : ¬['\n', '\n', '\n'] <:+: s ++ t := by
  induction s with
  | nil => exact h
  | cons c s ih =>
    obtain ⟨other, rest⟩ := not_or.1 (mt List.mem_cons.2 plain)
    rw [List.cons_append, List.infix_cons_iff]
    rintro (start | inside)
    · exact other (List.cons_prefix_cons.1 start).1
    · exact ih rest inside

theorem three_newlines_not_infix (plain : ∀ line ∈ lines, '\n' ∉ line) :
    ¬['\n', '\n', '\n'] <:+: paragraphs lines := by
  induction lines with
  | nil => simp [paragraphs]
  | cons x rest ih =>
    obtain ⟨here, others⟩ := List.forall_mem_cons.1 plain
    have inner := newline_not_mem_trim here
    rcases paragraphs_cases x rest with ⟨-, same⟩ | ⟨-, -, last⟩ | ⟨-, more, between, joined⟩
    · rw [same]
      exact ih others
    · rw [last, ← List.append_nil (trim x)]
      exact not_infix_append inner (by simp)
    · obtain ⟨c, text, start, visible⟩ := exists_cons_of_paragraphs more
      have other : '\n' ≠ c := by
        rintro rfl
        cases visible
      rw [joined]
      refine not_infix_append inner ?_
      rcases between with space | newlines
      · rw [space]
        exact not_infix_append (by simp) (ih others)
      · -- the two newlines of the gap are not followed by a third one
        have below := ih others
        rw [start] at below
        rw [newlines, start, List.cons_append, List.cons_append, List.nil_append,
          List.infix_cons_iff, List.infix_cons_iff]
        simp [other, below]

/-! ### Lines next to each other -/

theorem paragraphs_append_of_blank {between : List (List Char)}
    (blank : ∀ line ∈ between, trim line = []) (rest : List (List Char)) :
    paragraphs (between ++ rest) = paragraphs rest := by
  induction between with
  | nil => rfl
  | cons x between ih =>
    obtain ⟨here, others⟩ := List.forall_mem_cons.1 blank
    rw [List.cons_append, paragraphs_cons_of_blank here, ih others]

theorem gap_append {between : List (List Char)} (blank : ∀ line ∈ between, trim line = [])
    (solid : trim y ≠ []) (rest : List (List Char)) :
    gap (between ++ y :: rest) = if between = [] then [' '] else ['\n', '\n'] := by
  cases between with
  | nil => simp [gap, solid]
  | cons z between => simp [gap, blank z (by simp)]

/-- Paragraphs of lines are cut between two lines with words. -/
theorem paragraphs_append {between : List (List Char)} (solid : trim x ≠ []) (solid' : trim y ≠ [])
    (blank : ∀ line ∈ between, trim line = []) (before after : List (List Char)) :
    paragraphs (before ++ x :: (between ++ y :: after)) =
      paragraphs (before ++ [x]) ++
        ((if between = [] then [' '] else ['\n', '\n']) ++ paragraphs (y :: after)) := by
  have front (first later : List (List Char)) : paragraphs (first ++ x :: later) ≠ [] := by
    rw [ne_eq, paragraphs_eq_nil_iff]
    exact fun none => solid (none x (by simp))
  induction before with
  | nil =>
    have more : paragraphs (y :: after) ≠ [] := by simp [paragraphs_eq_nil_iff, solid']
    rw [List.nil_append, List.nil_append, paragraphs_singleton, paragraphs_cons solid, following,
      paragraphs_append_of_blank blank, if_neg more, gap_append blank solid']
  | cons z before ih =>
    rw [List.cons_append, List.cons_append]
    by_cases none : trim z = []
    · rw [paragraphs_cons_of_blank none, paragraphs_cons_of_blank none, ih]
    · -- the gap in front of `before` is told by its first line, or by `x`
      have same : gap (before ++ x :: (between ++ y :: after)) = gap (before ++ [x]) := by
        cases before <;> rfl
      rw [paragraphs_cons none, paragraphs_cons none, following, following, if_neg (front _ _),
        if_neg (front _ _), same, ih]
      simp

/-- Paragraphs end with the last line that has words. -/
theorem exists_paragraphs_concat (solid : trim x ≠ []) (before : List (List Char)) :
    ∃ start, paragraphs (before ++ [x]) = start ++ trim x := by
  induction before with
  | nil => exact ⟨[], by rw [List.nil_append, paragraphs_singleton, List.nil_append]⟩
  | cons z before ih =>
    obtain ⟨start, split⟩ := ih
    rw [List.cons_append]
    rcases paragraphs_cases z (before ++ [x]) with ⟨-, same⟩ | ⟨-, none, -⟩ | ⟨-, -, -, joined⟩
    · exact ⟨start, by rw [same, split]⟩
    · exact absurd (paragraphs_eq_nil_iff.1 none x (by simp)) solid
    · exact ⟨trim z ++ (gap (before ++ [x]) ++ start), by rw [joined, split]; simp⟩

/-! ### Paragraphs as lines -/

theorem rows_append_of_not_mem {s t row : List Char} {others : List (List Char)}
    (plain : '\n' ∉ s) (h : rows t = row :: others) : rows (s ++ t) = (s ++ row) :: others := by
  induction s with
  | nil => exact h
  | cons c s ih =>
    obtain ⟨other, rest⟩ := not_or.1 (mt List.mem_cons.2 plain)
    have joined : (s ++ t).splitOn '\n' = (s ++ row) :: others := ih rest
    rw [List.cons_append, rows, List.splitOn_cons_eq_if_modifyHead, joined,
      if_neg (by simpa using Ne.symm other)]
    rfl

theorem trim_cons_ne_nil {c : Char} (visible : isBlank c = false) (s : List Char) :
    trim (c :: s) ≠ [] := by
  rw [ne_eq, trim_eq_nil_iff]
  intro blank
  rw [blank c (by simp)] at visible
  cases visible

/-- A text with a space behind it that is put before the first row is put before the paragraphs. -/
theorem paragraphs_rows_append_space {u s : List Char} (trimmed : IsTrimmed u) (nonempty : u ≠ [])
    (plain : '\n' ∉ u) (first : ∃ c more, s = c :: more ∧ isBlank c = false) :
    paragraphs (rows (u ++ ([' '] ++ s))) = u ++ ([' '] ++ paragraphs (rows s)) := by
  obtain ⟨c, more, rfl, visible⟩ := first
  obtain ⟨row, others, split⟩ := List.exists_cons_of_ne_nil (rows_ne_nil more)
  have single : '\n' ∉ [c] := by
    intro inside
    rw [← List.mem_singleton.1 inside] at visible
    cases visible
  have lower : rows (c :: more) = (c :: row) :: others := rows_append_of_not_mem single split
  have upper : rows (u ++ ([' '] ++ c :: more)) = (u ++ ([' '] ++ c :: row)) :: others := by
    rw [← List.append_assoc, rows_append_of_not_mem (by simp [plain]) lower, List.append_assoc]
  have joined : trim (u ++ ([' '] ++ c :: row)) = u ++ ([' '] ++ trim (c :: row)) :=
    trim_append trimmed nonempty ⟨c, row, rfl, visible⟩ [' ']
  have solid : trim (u ++ ([' '] ++ c :: row)) ≠ [] := by
    rw [joined]
    simp
  rw [upper, lower, paragraphs_cons solid, paragraphs_cons (trim_cons_ne_nil visible row), joined]
  simp

/-- A text with an empty row behind it that is put before the rows is put before the paragraphs. -/
theorem paragraphs_rows_append_newlines {u s : List Char} (trimmed : IsTrimmed u)
    (nonempty : u ≠ []) (plain : '\n' ∉ u) (more : paragraphs (rows s) ≠ []) :
    paragraphs (rows (u ++ (['\n', '\n'] ++ s))) =
      u ++ (['\n', '\n'] ++ paragraphs (rows s)) := by
  have split : rows (u ++ (['\n', '\n'] ++ s)) = u :: [] :: rows s := by
    have below : rows ('\n' :: s) = [] :: rows s :=
      List.splitOn_append_cons_self_of_not_mem (List.not_mem_nil (a := '\n')) s
    rw [← below]
    exact List.splitOn_append_cons_self_of_not_mem plain ('\n' :: s)
  have blank : trim [] = [] := rfl
  have solid : trim u ≠ [] := by rwa [trimmed.trim_eq]
  rw [split, paragraphs_cons solid, trimmed.trim_eq, following, paragraphs_cons_of_blank blank,
    if_neg more, gap, if_pos blank]

/-- Paragraphs read as rows are the same paragraphs. -/
theorem paragraphs_rows (plain : ∀ line ∈ lines, '\n' ∉ line) :
    paragraphs (rows (paragraphs lines)) = paragraphs lines := by
  induction lines with
  | nil => rfl
  | cons x rest ih =>
    obtain ⟨here, others⟩ := List.forall_mem_cons.1 plain
    have inner := newline_not_mem_trim here
    have trimmed := isTrimmed_trim x
    rcases paragraphs_cases x rest with ⟨-, same⟩ | ⟨-, -, last⟩ | ⟨solid, more, between, joined⟩
    · rw [same, ih others]
    · have single : rows (trim x) = [trim x] := List.splitOn_eq_singleton inner
      rw [last, single, paragraphs_singleton, trimmed.trim_eq]
    · rw [joined]
      rcases between with space | newlines
      · rw [space, paragraphs_rows_append_space trimmed solid inner (exists_cons_of_paragraphs more),
          ih others]
      · rw [newlines, paragraphs_rows_append_newlines trimmed solid inner (by rwa [ih others]),
          ih others]

theorem trim_dropReturn (row : List Char) : trim (dropReturn row) = trim row := by
  rw [dropReturn]
  split
  · next last =>
    obtain ⟨front, rfl⟩ := List.getLast?_eq_some_iff.1 last
    rw [List.dropLast_concat, trim_append_of_isBlankText (by simp [IsBlankText, isBlank])]
  · rfl

theorem paragraphs_concat_nil (lines : List (List Char)) :
    paragraphs (lines ++ [[]]) = paragraphs lines := by
  have blank : trim [] = [] := rfl
  induction lines with
  | nil => rfl
  | cons x rest ih =>
    rw [List.cons_append]
    by_cases none : trim x = []
    · rw [paragraphs_cons_of_blank none, paragraphs_cons_of_blank none, ih]
    · have same : following (rest ++ [[]]) = following rest := by
        rw [following, following, ih]
        cases rest <;> rfl
      rw [paragraphs_cons none, paragraphs_cons none, same]

theorem paragraphs_congr {lines' : List (List Char)} (h : lines.map trim = lines'.map trim) :
    paragraphs lines = paragraphs lines' := by
  rw [paragraphs, paragraphs, h]

/-- The lines of a text and its rows have the same paragraphs. -/
theorem paragraphs_lines (s : List Char) : paragraphs (Text.lines s) = paragraphs (rows s) := by
  obtain ⟨above, last, split⟩ := (rows s).eq_nil_or_concat.resolve_left (rows_ne_nil s)
  rw [List.concat_eq_append] at split
  have above' : (above.map dropReturn).map trim = above.map trim := by
    rw [List.map_map]
    exact List.map_congr_left fun row _ => trim_dropReturn row
  rw [Text.lines, split, List.dropLast_concat, List.getLast?_concat, Option.toList_some]
  by_cases none : last = []
  · subst none
    rw [paragraphs_concat_nil]
    exact paragraphs_congr (by simpa using above')
  · refine paragraphs_congr ?_
    rw [List.filter_cons_of_pos (by simpa using none), List.map_append, above']
    simp

/-- For lines without newlines:

* The words of the paragraphs are the words of the lines, in their order.
* The paragraphs neither start nor end with a blank, and never have three newlines in a row.
* Two lines with words that have only blank lines between them stand in the paragraphs trimmed, with
  a space between them if there is no such line and two newlines if there is one; what is before and
  behind them is what it is without the lines on the other side.
* The paragraphs of the lines of the paragraphs are the same again, and so are those of the rows. -/
theorem paragraphs_exact {lines : List (List Char)} (plain : ∀ line ∈ lines, '\n' ∉ line) :
    words (paragraphs lines) = lines.flatMap words ∧
    IsTrimmed (paragraphs lines) ∧
    ¬['\n', '\n', '\n'] <:+: paragraphs lines ∧
    (∀ before x between y after, lines = before ++ x :: (between ++ y :: after) →
      ¬IsBlankText x → ¬IsBlankText y → (∀ line ∈ between, IsBlankText line) →
      ∃ start more, paragraphs (before ++ [x]) = start ++ trim x ∧
        paragraphs (y :: after) = trim y ++ more ∧
        paragraphs lines = start ++ trim x ++
          (if between = [] then [' '] else ['\n', '\n']) ++ trim y ++ more) ∧
    paragraphs (Text.lines (paragraphs lines)) = paragraphs lines ∧
    paragraphs (rows (paragraphs lines)) = paragraphs lines := by
  refine ⟨words_paragraphs lines, isTrimmed_paragraphs lines, three_newlines_not_infix plain, ?_, ?_,
    paragraphs_rows plain⟩
  · rintro before x between y after rfl solid solid' blank
    simp only [← trim_eq_nil_iff] at solid solid' blank
    obtain ⟨start, front⟩ := exists_paragraphs_concat solid before
    obtain ⟨more, back⟩ := exists_paragraphs_cons solid' after
    refine ⟨start, more, front, back, ?_⟩
    rw [paragraphs_append solid solid' blank, front, back]
    simp
  · rw [paragraphs_lines, paragraphs_rows plain]

/-- Lines of two paragraphs, with blanks at their ends and two blank lines between them. -/
def wrapped : List (List Char) :=
  ["", "     One two", "     three\t", " \t", "", "     four\x0d"].map String.toList

theorem paragraphs_wrapped :
    String.ofList (paragraphs wrapped) = "One two three\n\nfour" ∧
      words (paragraphs wrapped) = wrapped.flatMap words ∧
      (∃ start more, paragraphs wrapped = start ++ "three".toList ++ ['\n', '\n'] ++
        "four".toList ++ more) ∧
      paragraphs (Text.lines (paragraphs wrapped)) = paragraphs wrapped := by
  obtain ⟨kept, -, -, joined, again, -⟩ := @paragraphs_exact wrapped (by decide)
  refine ⟨by decide +kernel, kept, ?_, again⟩
  obtain ⟨start, more, -, -, parts⟩ := joined (wrapped.take 2) "     three\t".toList
    [" \t".toList, []] "     four\x0d".toList [] rfl (by decide) (by decide) (by decide)
  exact ⟨start, more, parts⟩

end Autotools.Manual
