import Autotools.Text.Blank
import Mathlib.Data.List.DropRight
import Mathlib.Data.List.TakeWhile

/-! Blanks at the ends of a text and between its words.  A text is its trimmed part with blanks
around it, and no other part of it without blanks at its ends is.  Blanks divide words and are part
of none, so that trimming keeps the words. -/

namespace Autotools.Text

/-- A text of blanks only, or of nothing. -/
def IsBlankText (s : List Char) : Prop := ∀ c ∈ s, isBlank c = true

instance (s : List Char) : Decidable (IsBlankText s) :=
  List.decidableBAll (isBlank · = true) s

/-- A text that neither starts nor ends with a blank. -/
structure IsTrimmed (s : List Char) : Prop where
  head : ∀ c, s.head? = some c → isBlank c = false
  last : ∀ c, s.getLast? = some c → isBlank c = false

variable {s t : List Char}

theorem isBlankText_nil : IsBlankText [] := by simp [IsBlankText]

theorem isTrimmed_nil : IsTrimmed [] := ⟨by simp, by simp⟩

/-- Only the ends of a text count. -/
theorem IsTrimmed.append (hs : IsTrimmed s) (ht : IsTrimmed t) (nonempty : s ≠ [])
    (nonempty' : t ≠ []) (middle : List Char) : IsTrimmed (s ++ (middle ++ t)) := by
  constructor
  · intro c first
    rw [List.head?_append_of_ne_nil s nonempty] at first
    exact hs.head c first
  · intro c last
    rw [← List.append_assoc, List.getLast?_append_of_ne_nil _ nonempty'] at last
    exact ht.last c last

theorem trim_eq (s : List Char) : trim s = (s.dropWhile isBlank).rdropWhile isBlank := rfl

theorem isTrimmed_trim (s : List Char) : IsTrimmed (trim s) := by
  constructor
  · intro c first
    obtain ⟨rest, rest_eq⟩ := List.rdropWhile_prefix isBlank (l := s.dropWhile isBlank)
    have start := List.head?_dropWhile_not isBlank s
    rw [← rest_eq, List.head?_append, ← trim_eq, first, Option.some_or] at start
    exact start
  · intro c last
    obtain ⟨front, split⟩ := List.getLast?_eq_some_iff.1 last
    have nonempty : (s.dropWhile isBlank).rdropWhile isBlank ≠ [] := by
      rw [← trim_eq, split]
      simp
    have stop := List.rdropWhile_last_not isBlank _ nonempty
    simp only [← trim_eq, split, List.getLast_concat] at stop
    simpa using stop

theorem exists_blanks_around (s : List Char) :
    ∃ left right, s = left ++ (trim s ++ right) ∧ IsBlankText left ∧ IsBlankText right := by
  refine ⟨s.takeWhile isBlank, (s.dropWhile isBlank).rtakeWhile isBlank, ?_, ?_, ?_⟩
  · rw [trim_eq, List.rdropWhile_append_rtakeWhile, List.takeWhile_append_dropWhile]
  · intro c member
    exact List.mem_takeWhile_imp member
  · intro c member
    exact List.mem_rtakeWhile_imp member

/-- The part of a text between blanks that has no blanks at its ends is the trimmed text. -/
theorem trim_of_blanks_around {left right : List Char} (hl : IsBlankText left)
    (hr : IsBlankText right) (h : IsTrimmed s) : trim (left ++ (s ++ right)) = s := by
  rw [trim_eq, List.dropWhile_append_of_pos hl]
  cases s with
  | nil => rw [List.nil_append, List.dropWhile_eq_nil_iff.2 hr, List.rdropWhile_nil]
  | cons c s =>
    have front : (c :: s ++ right).dropWhile isBlank = c :: s ++ right := by
      rw [List.cons_append, List.dropWhile_cons_of_neg (by simp [h.head c rfl])]
    have back : (c :: s).rdropWhile isBlank = c :: s := by
      rw [List.rdropWhile_eq_self_iff]
      intro nonempty
      simp [h.last _ (List.getLast?_eq_some_getLast nonempty)]
    have reversed : IsBlankText right.reverse := by
      intro d member
      exact hr d (List.mem_reverse.1 member)
    rw [front, List.rdropWhile, List.reverse_append, List.dropWhile_append_of_pos reversed,
      ← List.rdropWhile, back]

theorem IsTrimmed.trim_eq (h : IsTrimmed s) : trim s = s := by
  simpa using trim_of_blanks_around isBlankText_nil isBlankText_nil h

theorem trim_eq_nil_iff : trim s = [] ↔ IsBlankText s := by
  constructor
  · intro none
    obtain ⟨left, right, split, hl, hr⟩ := exists_blanks_around s
    rw [none, List.nil_append] at split
    rw [split]
    intro c member
    exact (List.mem_append.1 member).elim (hl c) (hr c)
  · intro blank
    simpa using trim_of_blanks_around blank isBlankText_nil isTrimmed_nil

theorem mem_of_mem_trim {c : Char} (h : c ∈ trim s) : c ∈ s := by
  obtain ⟨left, right, split, -, -⟩ := exists_blanks_around s
  rw [split]
  simp [h]

theorem trim_append_of_isBlankText (blank : IsBlankText t) : trim (s ++ t) = trim s := by
  obtain ⟨left, right, split, hl, hr⟩ := exists_blanks_around s
  have more : IsBlankText (right ++ t) := by
    intro c member
    exact (List.mem_append.1 member).elim (hr c) (blank c)
  have parts : s ++ t = left ++ (trim s ++ (right ++ t)) := by
    rw [← List.append_assoc, ← List.append_assoc, List.append_assoc left, ← split]
  rw [parts, trim_of_blanks_around hl more (isTrimmed_trim s)]

/-- What stands before a text that starts with no blank is kept. -/
theorem trim_append (hs : IsTrimmed s) (nonempty : s ≠ [])
    (first : ∃ c rest, t = c :: rest ∧ isBlank c = false) (middle : List Char) :
    trim (s ++ (middle ++ t)) = s ++ (middle ++ trim t) := by
  obtain ⟨c, rest, rfl, visible⟩ := first
  obtain ⟨left, right, split, hl, hr⟩ := exists_blanks_around (c :: rest)
  obtain rfl : left = [] := by
    cases left with
    | nil => rfl
    | cons d left =>
      have same : c = d := (List.cons.inj split).1
      rw [same, hl d (by simp)] at visible
      cases visible
  have nonempty' : trim (c :: rest) ≠ [] := by
    rw [ne_eq, trim_eq_nil_iff]
    intro blank
    rw [blank c (by simp)] at visible
    cases visible
  have trimmed := hs.append (isTrimmed_trim (c :: rest)) nonempty nonempty' middle
  have parts : s ++ (middle ++ c :: rest) =
      [] ++ ((s ++ (middle ++ trim (c :: rest))) ++ right) := by
    rw [List.nil_append] at split
    rw [List.nil_append, List.append_assoc, List.append_assoc, ← split]
  rw [parts, trim_of_blanks_around hl hr trimmed]

/-! ### Words -/

theorem words_nil : words [] = [] := rfl

theorem words_append_cons {c : Char} (blank : isBlank c = true) (s t : List Char) :
    words (s ++ c :: t) = words s ++ words t := by
  rw [words, List.splitOnP_append_cons s t blank, List.filter_append]
  rfl

theorem words_append_left {gap : List Char} (blank : IsBlankText gap) (t : List Char) :
    words (gap ++ t) = words t := by
  induction gap with
  | nil => rfl
  | cons c gap ih =>
    obtain ⟨here, rest⟩ := List.forall_mem_cons.1 blank
    exact (words_append_cons here [] (gap ++ t)).trans (ih rest)

/-- Blanks between two texts divide their words. -/
theorem words_append_gap {gap : List Char} (blank : IsBlankText gap) (nonempty : gap ≠ [])
    (s t : List Char) : words (s ++ (gap ++ t)) = words s ++ words t := by
  obtain ⟨c, gap, rfl⟩ := List.exists_cons_of_ne_nil nonempty
  obtain ⟨here, rest⟩ := List.forall_mem_cons.1 blank
  rw [List.cons_append, words_append_cons here, words_append_left rest]

theorem words_trim (s : List Char) : words (trim s) = words s := by
  obtain ⟨left, right, split, hl, hr⟩ := exists_blanks_around s
  have tail : words (trim s ++ right) = words (trim s) := by
    cases right with
    | nil => rw [List.append_nil]
    | cons c right =>
      have none := words_append_gap hr (by simp) (trim s) []
      rwa [List.append_nil, words_nil, List.append_nil] at none
  calc words (trim s) = words (left ++ (trim s ++ right)) := by rw [words_append_left hl, tail]
    _ = words s := by rw [← split]

end Autotools.Text
