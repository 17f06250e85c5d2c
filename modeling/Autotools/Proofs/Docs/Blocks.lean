import Autotools.Docs.Manual
import Mathlib.Data.List.Induction

/-! The blocks of a manual.  A line that is neither a marker nor part of a block ends the block
being read, whatever it says, and the manual is read as the two parts around it.  A line that is
part of a block adds its text to the description, without the blanks at its ends. -/

namespace Autotools

namespace SortedMap

variable {β : Type}

theorem insertAll_append (m : SortedMap β) (first second : List (String × β)) :
    m.insertAll (first ++ second) = (m.insertAll first).insertAll second :=
  List.foldl_append

theorem get?_insertAll (m : SortedMap β) (pairs : List (String × β)) (key : String) :
    (m.insertAll pairs).get? key = ((ofList pairs).get? key).or (m.get? key) := by
  induction pairs using List.reverseRecOn with
  | nil => rfl
  | append_singleton pairs pair ih =>
    rw [ofList, insertAll_append, insertAll_append]
    simp only [insertAll, List.foldl_cons, List.foldl_nil, get?_insert]
    split
    · rfl
    · exact ih

/-- Bindings that are put on top one after the other may be put together first. -/
theorem insertAll_insertAll (m n : SortedMap β) (pairs : List (String × β)) :
    (m.insertAll n.toList).insertAll pairs = m.insertAll (n.insertAll pairs).toList := by
  apply ext
  intro key
  rw [get?_insertAll, get?_insertAll m, get?_insertAll m, ofList_toList, ofList_toList,
    get?_insertAll n, Option.or_assoc]

end SortedMap

/-- Lines that end in a carriage return and a newline are the lines of their text. -/
theorem Text.lines_ended {ls : List (List Char)} (h : ∀ l ∈ ls, '\n' ∉ l) :
    Text.lines (ls.flatMap (· ++ ['\r', '\n'])) = ls := by
  induction ls with
  | nil => rfl
  | cons l ls ih =>
    have apart : '\n' ∉ l ++ ['\r'] := by simpa using h l (by simp)
    have cut : rows ((l :: ls).flatMap (· ++ ['\r', '\n'])) =
        (l ++ ['\r']) :: rows (ls.flatMap (· ++ ['\r', '\n'])) := by
      have := List.splitOn_append_cons_self_of_not_mem apart (ls.flatMap (· ++ ['\r', '\n']))
      simpa [rows] using this
    have rest := ih fun l inside => h l (by simp [inside])
    have some := rows_ne_nil (ls.flatMap (· ++ ['\r', '\n']))
    rw [lines, cut, List.dropLast_cons_of_ne_nil some, List.getLast?_cons_of_ne_nil some,
      List.map_cons, List.cons_append, ← lines, rest]
    simp [dropReturn]

namespace Manual

/-! ### Lines that end a block -/

/-- What was read of a manual, on top of descriptions from elsewhere. -/
def Progress.onTop (p : Progress) (base : SortedMap String) : Progress :=
  { p with entries := base.insertAll p.entries.toList }

namespace Convention

variable {c : Convention} {p q : Progress} {line : List Char}

/-- A line that is neither a marker nor part of a block. -/
structure Ends (c : Convention) (line : List Char) : Prop where
  marker : c.marker? line = none
  apart : c.belongs line = false

theorem flush_onTop (c : Convention) (p : Progress) (base : SortedMap String) :
    c.flush (p.onTop base) = (c.flush p).onTop base := by
  simp only [flush, Progress.onTop, SortedMap.insertAll_insertAll]

theorem step_onTop (c : Convention) (p : Progress) (base : SortedMap String) (line : List Char) :
    c.step (p.onTop base) line = (c.step p line).onTop base := by
  unfold step
  cases c.marker? line with
  | some marker =>
    cases follows : p.afterMarker with
    | true => simp [Progress.onTop, follows]
    | false => simp [Progress.onTop, follows, flush, SortedMap.insertAll_insertAll]
  | none =>
    cases c.belongs line with
    | true => rfl
    | false =>
      show ({ c.flush (p.onTop base) with afterMarker := false } : Progress) = _
      rw [flush_onTop]
      rfl

/-- What stood in the table before a manual is read has no part in the reading. -/
theorem foldl_step_onTop (c : Convention) (lines : List (List Char)) (p : Progress)
    (base : SortedMap String) :
    lines.foldl c.step (p.onTop base) = (lines.foldl c.step p).onTop base := by
  induction lines generalizing p with
  | nil => rfl
  | cons line lines ih => rw [List.foldl_cons, List.foldl_cons, step_onTop, ih]

theorem step_of_ends (h : c.Ends line) (p : Progress) :
    c.step p line = (⟨.empty, .empty, false⟩ : Progress).onTop (c.flush p).entries := by
  simp only [step, h.marker, h.apart]
  rfl

/-- A manual is read as the two parts around a line that ends a block, and where both describe a
name the second one counts. -/
theorem read_of_ends (h : c.Ends line) (before after : List (List Char)) :
    c.read (before ++ line :: after) = (c.read before).insertAll (c.read after).toList := by
  rw [read, List.foldl_append, List.foldl_cons, step_of_ends h, foldl_step_onTop, flush_onTop]
  rfl

end Convention

/-! ### Lines that are part of a block -/

/-- Two states of reading that differ at most in the blanks around the lines of a body. -/
structure Progress.Alike (p q : Progress) : Prop where
  entries : p.entries = q.entries
  names : p.block.names = q.block.names
  signatures : p.block.signatures = q.block.signatures
  body : p.block.body.map Text.trim = q.block.body.map Text.trim
  afterMarker : p.afterMarker = q.afterMarker

theorem Progress.Alike.refl (p : Progress) : p.Alike p := ⟨rfl, rfl, rfl, rfl, rfl⟩

namespace Convention

variable {c : Convention} {p q : Progress} {line : List Char}

theorem flush_of_alike (h : p.Alike q) : c.flush p = c.flush q := by
  have described (name : String) :
      p.block.description c.fence name = q.block.description c.fence name := by
    have text : paragraphs p.block.body = paragraphs q.block.body := by
      rw [paragraphs, paragraphs, h.body]
    rw [Block.description, Block.description, Block.code, Block.code, text, h.signatures]
  simp only [flush, Block.entries, h.entries, h.names, h.afterMarker, described]

theorem addMarker_of_alike (h : p.Alike q) (marker : Marker) (b : Bool) :
    Progress.Alike { p with block := p.block.addMarker marker, afterMarker := b }
      { q with block := q.block.addMarker marker, afterMarker := b } := by
  unfold Block.addMarker
  cases marker.name with
  | none => exact ⟨h.entries, h.names, h.signatures, h.body, rfl⟩
  | some name => exact ⟨h.entries, by simp [h.names], by simp [h.signatures], h.body, rfl⟩

/-- Lines that say the same are read alike into the body of a block. -/
theorem addLine_of_alike (h : p.Alike q) {x y : List Char} (same : Text.trim x = Text.trim y) :
    Progress.Alike
      { p with block := if p.block.isOpen then p.block.addLine x else p.block,
               afterMarker := false }
      { q with block := if q.block.isOpen then q.block.addLine y else q.block,
               afterMarker := false } := by
  have isOpen : p.block.isOpen = q.block.isOpen := by rw [Block.isOpen, Block.isOpen, h.names]
  rw [← isOpen]
  cases p.block.isOpen with
  | true => exact ⟨h.entries, h.names, h.signatures, by simp [Block.addLine, h.body, same], rfl⟩
  | false => exact ⟨h.entries, h.names, h.signatures, h.body, rfl⟩

theorem step_of_alike (h : p.Alike q) (line : List Char) :
    (c.step p line).Alike (c.step q line) := by
  unfold step
  cases c.marker? line with
  | some marker =>
    dsimp only
    rw [h.afterMarker]
    cases q.afterMarker with
    | true => exact addMarker_of_alike h marker true
    | false =>
      rw [flush_of_alike h]
      exact .refl _
  | none =>
    cases c.belongs line with
    | true => exact addLine_of_alike h rfl
    | false =>
      rw [flush_of_alike h]
      exact .refl _

theorem foldl_step_of_alike (h : p.Alike q) (lines : List (List Char)) :
    (lines.foldl c.step p).Alike (lines.foldl c.step q) := by
  induction lines generalizing p q with
  | nil => exact h
  | cons line lines ih => exact ih (step_of_alike h line)

/-- Of a line in a block only what it says counts, not the blanks around it. -/
theorem read_of_trim_eq {x y : List Char} (unmarked : c.marker? x = none)
    (unmarked' : c.marker? y = none) (part : c.belongs x = true) (part' : c.belongs y = true)
    (same : Text.trim x = Text.trim y) (before after : List (List Char)) :
    c.read (before ++ x :: after) = c.read (before ++ y :: after) := by
  have alike : (c.step (before.foldl c.step ⟨.empty, .empty, false⟩) x).Alike
      (c.step (before.foldl c.step ⟨.empty, .empty, false⟩) y) := by
    simp only [step, unmarked, unmarked', part, part', if_true]
    exact addLine_of_alike (.refl _) same
  rw [read, read, List.foldl_append, List.foldl_append, List.foldl_cons, List.foldl_cons,
    flush_of_alike (foldl_step_of_alike alike after)]

end Convention

/-! ### Chapter text in the autoconf manual -/

/-- The fifth byte of a line is there and is no space. -/
def Interrupts (line : List Char) : Prop :=
  5 ≤ Text.byteLength line ∧ Text.charAtByte? line 4 ≠ some ' '

instance (line : List Char) : Decidable (Interrupts line) :=
  inferInstanceAs (Decidable (5 ≤ Text.byteLength line ∧ Text.charAtByte? line 4 ≠ some ' '))

theorem autoconfBelongs_eq_false {line : List Char} :
    autoconfBelongs line = false ↔ Interrupts line := by
  simp [autoconfBelongs, Interrupts]

theorem ends_of_interrupts {line : List Char} (unmarked : autoconfMarker? line = none)
    (h : Interrupts line) : autoconf.Ends line :=
  ⟨unmarked, autoconfBelongs_eq_false.2 h⟩

/-- A manual with one block, in which a line comes before the text `z`. -/
def probe (line : List Char) : List (List Char) :=
  [" -- Macro: X".toList, line, "     z".toList]

theorem get?_read_probe {line : List Char} (unmarked : autoconfMarker? line = none) :
    (autoconf.read (probe line)).get? "X" = some (String.ofList
      (if autoconfBelongs line then paragraphs [line, "     z".toList] else [])) := by
  have mark : autoconf.step ⟨.empty, .empty, false⟩ " -- Macro: X".toList =
      ⟨.empty, ⟨["X"], ["X"], []⟩, true⟩ := by rfl
  have unmarkedLine : autoconf.marker? line = none := unmarked
  rw [Convention.read, probe, List.foldl_cons, mark, List.foldl_cons]
  cases part : autoconfBelongs line with
  | true =>
    have within : autoconf.belongs line = true := part
    simp only [Convention.step, unmarkedLine, within, if_true]
    rfl
  | false =>
    -- the text behind the line has no block to go to
    have apart : autoconf.belongs line = false := part
    simp only [Convention.step, unmarkedLine, apart]
    rfl

theorem paragraphs_probe (line : List Char) :
    paragraphs [line, "     z".toList] =
      if Text.trim line = [] then ['z'] else Text.trim line ++ [' ', 'z'] := by
  have last : Text.trim "     z".toList = ['z'] := by decide
  rw [paragraphs, List.map_cons, List.map_cons, last]
  cases Text.trim line with
  | nil => rfl
  | cons c rest => simp [List.splitOnP_cons_eq_if_modifyHead]

theorem trim_eq_of_paragraphs_probe {x y : List Char}
    (h : paragraphs [x, "     z".toList] = paragraphs [y, "     z".toList]) :
    Text.trim x = Text.trim y := by
  rw [paragraphs_probe, paragraphs_probe] at h
  split at h <;> split at h
  · next blank blank' => rw [blank, blank']
  · simpa using congrArg List.length h
  · simpa using congrArg List.length h
  · exact List.append_cancel_right h

theorem paragraphs_probe_ne_nil (line : List Char) : paragraphs [line, "     z".toList] ≠ [] := by
  rw [paragraphs_probe]
  split <;> simp

/-- Two lines that make no difference in a manual with one block end it both, or are both part of
it and say the same. -/
theorem of_read_probe_eq {x y : List Char} (unmarked : autoconfMarker? x = none)
    (unmarked' : autoconfMarker? y = none)
    (same : autoconf.read (probe x) = autoconf.read (probe y)) :
    (Interrupts x ∧ Interrupts y) ∨
      (¬Interrupts x ∧ ¬Interrupts y ∧ Text.trim x = Text.trim y) := by
  have described := congrArg (·.get? "X") same
  simp only [get?_read_probe unmarked, get?_read_probe unmarked', Option.some.injEq,
    String.ofList_inj] at described
  rw [← autoconfBelongs_eq_false, ← autoconfBelongs_eq_false]
  cases part : autoconfBelongs x <;> cases part' : autoconfBelongs y <;>
    simp only [part, part', if_true, Bool.false_eq_true, if_false] at described
  · exact .inl ⟨rfl, rfl⟩
  · exact absurd described.symm (paragraphs_probe_ne_nil y)
  · exact absurd described (paragraphs_probe_ne_nil x)
  · exact .inr ⟨by simp, by simp, trim_eq_of_paragraphs_probe described⟩

/-- For any two lines that are no markers: to put one in the place of the other leaves the
descriptions of every autoconf manual as they are if and only if both have a fifth byte that is no
space, or neither has and they differ at most in blanks at their ends.  A line with a fifth byte
that is no space ends the block before it and has no part in any description: the manual has the
descriptions of the part before the line, overridden by those of the part behind it. -/
theorem entries_replaced_iff {x y : List Char} (line : '\n' ∉ x) (line' : '\n' ∉ y)
    (unmarked : autoconfMarker? x = none) (unmarked' : autoconfMarker? y = none) :
    ((∀ (m m' : String) (before after : List (List Char)),
        Text.lines m.toList = before ++ x :: after → Text.lines m'.toList = before ++ y :: after →
        autoconf.entries m = autoconf.entries m') ↔
      (Interrupts x ∧ Interrupts y) ∨
        (¬Interrupts x ∧ ¬Interrupts y ∧ Text.trim x = Text.trim y)) ∧
    (Interrupts x → ∀ (m : String) (before after : List (List Char)),
      Text.lines m.toList = before ++ x :: after →
      autoconf.entries m = (autoconf.read before).insertAll (autoconf.read after).toList) := by
  have apart (interrupts : Interrupts x) (m : String) (before after : List (List Char))
      (lines : Text.lines m.toList = before ++ x :: after) :
      autoconf.entries m = (autoconf.read before).insertAll (autoconf.read after).toList := by
    rw [Convention.entries, lines,
      Convention.read_of_ends (ends_of_interrupts unmarked interrupts)]
  refine ⟨⟨?_, ?_⟩, apart⟩
  · -- a manual with one block tells all other pairs of lines apart
    intro same
    have probed {l : List Char} (line : '\n' ∉ l) :
        Text.lines (String.ofList ((probe l).flatMap (· ++ ['\r', '\n']))).toList = probe l := by
      rw [String.toList_ofList, Text.lines_ended]
      simpa [probe] using line
    have read := same _ _ [" -- Macro: X".toList] ["     z".toList] (probed line) (probed line')
    rw [Convention.entries, Convention.entries, probed line, probed line'] at read
    exact of_read_probe_eq unmarked unmarked' read
  · rintro (⟨interrupts, interrupts'⟩ | ⟨part, part', alike⟩) m m' before after lines lines'
    · rw [apart interrupts m before after lines, Convention.entries, lines',
        Convention.read_of_ends (ends_of_interrupts unmarked' interrupts')]
    · rw [← autoconfBelongs_eq_false, Bool.not_eq_false] at part part'
      rw [Convention.entries, Convention.entries, lines, lines',
        Convention.read_of_trim_eq unmarked unmarked' part part' alike]

/-- A line of text between the blocks: no marker, not blank, and not indented by five columns. -/
structure IsChapterText (line : List Char) : Prop where
  unmarked : autoconfMark.isPrefixOf line = false
  visible : line.all Text.isBlank = false
  outdented : (List.replicate 5 ' ').isPrefixOf line = false

instance (line : List Char) : Decidable (IsChapterText line) :=
  decidable_of_iff
    (autoconfMark.isPrefixOf line = false ∧ line.all Text.isBlank = false ∧
      (List.replicate 5 ' ').isPrefixOf line = false)
    ⟨fun h => ⟨h.1, h.2.1, h.2.2⟩, fun h => ⟨h.unmarked, h.visible, h.outdented⟩⟩

/-- A manual in which a line follows a block. -/
def oneBlock (line : String) : String :=
  " -- Macro: AC_INIT (PACKAGE)\n     Process arguments.\n" ++ line ++ "\n"

theorem entries_oneBlock :
    IsChapterText "   Text indented three columns.".toList ∧
    IsChapterText "4.1.2 Initializing configure".toList ∧
    autoconf.entries (oneBlock "   Text indented three columns.") =
      autoconf.entries (oneBlock "4.1.2 Initializing configure") := by
  refine ⟨by decide, by decide, ?_⟩
  have replaced := entries_replaced_iff (x := "   Text indented three columns.".toList)
    (y := "4.1.2 Initializing configure".toList) (by decide) (by decide) (by decide) (by decide)
  refine replaced.1.2 (.inl ⟨by decide, by decide⟩) _ _
    [" -- Macro: AC_INIT (PACKAGE)".toList, "     Process arguments.".toList] [] ?_ ?_ <;>
    decide +kernel

/-- A heading that starts with a word of four letters runs on in the description of the macro
before it. -/
theorem entries_heading :
    IsChapterText "Next chapter".toList ∧ IsChapterText "Chapter 5".toList ∧
    (autoconf.entries (oneBlock "Next chapter")).get? "AC_INIT" =
      some "```m4\nAC_INIT (PACKAGE)\n```\nProcess arguments. Next chapter" ∧
    (autoconf.entries (oneBlock "Chapter 5")).get? "AC_INIT" =
      some "```m4\nAC_INIT (PACKAGE)\n```\nProcess arguments." := by
  decide +kernel

end Manual

end Autotools
