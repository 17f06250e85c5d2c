import Autotools.Proofs.Docs.Blocks
import Autotools.Proofs.Text.Rows
import Autotools.Proofs.Text.Words
import Mathlib.Data.List.Basic

/-! Manuals in sections.  Two manuals with a line between them that ends every block are read apart:
no line of the first has a part in the descriptions of the second, and where both describe a name
the second one counts. -/

namespace Autotools

namespace Text

/-- A text that ends in a newline, or is empty, is its rows with their newlines. -/
theorem exists_rows_of_ended {s : List Char} (h : s = [] ∨ s.getLast? = some '\n') :
    ∃ above, rows s = above ++ [[]] ∧ s = ended above := by
  obtain ⟨above, row, cut⟩ : ∃ above row, rows s = above ++ [row] :=
    ⟨_, _, (List.dropLast_concat_getLast (rows_ne_nil s)).symm⟩
  have whole : s = ended above ++ row := by simpa using eq_of_rows_eq cut
  have last : row = [] := by
    by_contra some
    have free : '\n' ∉ row := newline_not_mem_of_mem_rows (by rw [cut]; simp)
    rcases h with rfl | final
    · simp at whole
      exact some whole.2
    · rw [whole, List.getLast?_append_of_ne_nil _ some] at final
      exact free (List.mem_of_getLast? final)
  subst last
  exact ⟨above, cut, by simpa using whole⟩

theorem lines_append_cons {s line : List Char} (ends : s = [] ∨ s.getLast? = some '\n')
    (inner : '\n' ∉ line) (rest : List Char) :
    lines (s ++ (line ++ '\n' :: rest)) = lines s ++ dropReturn line :: lines rest := by
  obtain ⟨above, cut, rfl⟩ := exists_rows_of_ended ends
  have free : ∀ r ∈ above, '\n' ∉ r := fun r member =>
    newline_not_mem_of_mem_rows (by rw [cut]; simp [member])
  have some := rows_ne_nil rest
  rw [lines, lines, lines, rows_ended_append free inner, cut,
    List.dropLast_append_of_ne_nil (by simp), List.dropLast_cons_of_ne_nil some,
    List.getLast?_append_of_ne_nil _ (by simp), List.getLast?_cons_of_ne_nil some]
  simp

theorem dropReturn_of_not_mem {line : List Char} (h : '\r' ∉ line) : dropReturn line = line :=
  if_neg fun last => h (List.mem_of_getLast? last)

theorem charAtByte?_eq_some {s : List Char} {n : Nat} {c : Char} :
    charAtByte? s n = some c ↔ ∃ front rest, s = front ++ c :: rest ∧ byteLength front = n := by
  constructor
  · intro h
    obtain ⟨⟨front, back⟩, cut, first⟩ := Option.bind_eq_some_iff.1 h
    obtain ⟨rest, rfl⟩ := List.head?_eq_some_iff.1 first
    exact ⟨front, rest, splitAtByte?_eq_some cut⟩
  · rintro ⟨front, rest, rfl, rfl⟩
    rw [charAtByte?, splitAtByte?_append]
    rfl

/-- A character of one byte is where its byte is. -/
theorem charAtByte?_eq_some_iff_bytes {s : List Char} {n : Nat} {c : Char} {b : UInt8}
    (ascii : c.toNat < 128) (same : c.toNat = b.toNat) :
    charAtByte? s n = some c ↔ (bytes s)[n]? = some b := by
  have narrow : c.utf8Size = 1 := by
    rw [Char.utf8Size_eq_one_iff, UInt32.le_iff_toNat_le]
    show c.toNat ≤ 127
    omega
  have byte : String.utf8EncodeChar c = [b] := by
    have member := (mem_utf8EncodeChar (by omega) c).2 same
    rw [String.utf8EncodeChar_eq_singleton narrow] at member ⊢
    rw [List.mem_singleton.1 member]
  rw [charAtByte?_eq_some]
  constructor
  · rintro ⟨front, rest, rfl, rfl⟩
    rw [bytes_append, bytes_cons, byte, List.getElem?_append_right (by simp)]
    simp
  · intro h
    induction s generalizing n with
    | nil => simp at h
    | cons d s ih =>
      rw [bytes_cons] at h
      by_cases inside : n < d.utf8Size
      · -- a byte below 128 is the whole of its character
        rw [List.getElem?_append_left (by simpa using inside)] at h
        have whole := (mem_utf8EncodeChar (by omega) d).1 (List.mem_of_getElem? h)
        obtain rfl : d = c := Char.toNat_inj.1 (whole.trans same.symm)
        exact ⟨[], s, rfl, by simp; omega⟩
      · rw [List.getElem?_append_right (by simpa using inside), String.length_utf8EncodeChar] at h
        obtain ⟨front, rest, rfl, before⟩ := ih h
        exact ⟨d :: front, rest, rfl, by simp [before]; omega⟩

end Text

namespace Manual

/-- A line interrupts a block if it has a fifth byte and that is no space. -/
theorem interrupts_iff {line : List Char} :
    Interrupts line ↔ ∃ b, (Text.bytes line)[4]? = some b ∧ b ≠ 0x20 := by
  rw [Interrupts, Ne, Text.charAtByte?_eq_some_iff_bytes (b := 0x20) (by decide) (by decide),
    ← Text.length_bytes]
  constructor
  · rintro ⟨long, other⟩
    rw [List.getElem?_eq_getElem long] at other
    exact ⟨_, List.getElem?_eq_getElem long, fun same => other (congrArg some same)⟩
  · rintro ⟨b, found, other⟩
    refine ⟨(List.getElem?_eq_some_iff.1 found).1, ?_⟩
    rw [found]
    exact fun same => other (Option.some.inj same)

theorem makeBelongs_eq_false {line : List Char} :
    makeBelongs line = false ↔ line ≠ [] ∧ ¬"     ".toList <+: line := by
  have five : List.replicate 5 ' ' = "     ".toList := by decide
  rw [makeBelongs, Bool.or_eq_false_iff, List.isEmpty_eq_false_iff, five,
    ← List.isPrefixOf_iff_prefix, Bool.not_eq_true]

namespace Convention

variable {c : Convention}

theorem entries_append_of_ends {l : String} (h : c.Ends l.toList) {a : String}
    (ended : a = "" ∨ a.toList.getLast? = some '\n') (inner : '\n' ∉ l.toList)
    (plain : '\r' ∉ l.toList) (b name : String) :
    (c.entries (a ++ l ++ "\n" ++ b)).get? name =
      ((c.entries b).get? name).or ((c.entries a).get? name) := by
  have text : (a ++ l ++ "\n" ++ b).toList = a.toList ++ (l.toList ++ '\n' :: b.toList) := by simp
  have before : a.toList = [] ∨ a.toList.getLast? = some '\n' :=
    ended.imp_left fun blank => by rw [blank]; rfl
  rw [entries, text, Text.lines_append_cons before inner, Text.dropReturn_of_not_mem plain,
    read_of_ends h, SortedMap.get?_insertAll, SortedMap.ofList_toList]
  rfl

end Convention

/-- Let `a` and `b` be manuals, `a` empty or with a newline at its end, and `l` a line without
newlines and carriage returns.  If `l` is no marker and ends a block, then the manual of `a`, `l`
and `b` describes every name as `b` does, or as `a` does if `b` does not describe it.  In the make
manual a line ends a block if it is not empty and does not start with five spaces, and in the
autoconf manual if it has a fifth byte other than a space. -/
theorem entries_sections {a l : String} (ended : a = "" ∨ a.toList.getLast? = some '\n')
    (inner : '\n' ∉ l.toList) (plain : '\r' ∉ l.toList) (b : String) :
    (makeMarker? l.toList = none → l ≠ "" → ¬"     ".toList <+: l.toList →
      ∀ name, (make.entries (a ++ l ++ "\n" ++ b)).get? name =
        ((make.entries b).get? name).or ((make.entries a).get? name)) ∧
    (autoconfMarker? l.toList = none →
      (∃ byte, (Text.bytes l.toList)[4]? = some byte ∧ byte ≠ 0x20) →
      ∀ name, (autoconf.entries (a ++ l ++ "\n" ++ b)).get? name =
        ((autoconf.entries b).get? name).or ((autoconf.entries a).get? name)) := by
  constructor
  · intro unmarked visible outdented name
    have some : l.toList ≠ [] := fun blank => visible (String.toList_eq_nil_iff.1 blank)
    have ends : make.Ends l.toList := ⟨unmarked, makeBelongs_eq_false.2 ⟨some, outdented⟩⟩
    exact Convention.entries_append_of_ends ends ended inner plain b name
  · intro unmarked fifth name
    have ends : autoconf.Ends l.toList := ends_of_interrupts unmarked (interrupts_iff.2 fifth)
    exact Convention.entries_append_of_ends ends ended inner plain b name

/-- A name described on both sides of a heading, and text behind the heading that has no part in
the descriptions before it. -/
theorem entries_twoSections :
    let a := "'CC'\n     C compiler.\n'AR'\n     Archiver.\n"
    let b := "     Chapter text.\n'CC'\n     Another compiler.\n"
    let l := "Chapter 5"
    (a.toList.getLast? = some '\n' ∧ makeMarker? l.toList = none ∧ ¬"     ".toList <+: l.toList ∧
      autoconfMarker? l.toList = none ∧ (Text.bytes l.toList)[4]? = some 0x74) ∧
    (make.entries (a ++ l ++ "\n" ++ b)).get? "AR" = some "Archiver." ∧
    (make.entries (a ++ l ++ "\n" ++ b)).get? "CC" = some "Another compiler." ∧
    (autoconf.entries (" -- Macro: AC_INIT\n     Start.\n" ++ l ++ "\n" ++ b)).get? "AC_INIT" =
      some "Start." := by
  intro a b l
  have apart := (entries_sections (a := a) (l := l) (.inr (by decide)) (by decide) (by decide) b).1
    (by decide) (by decide) (by decide)
  refine ⟨by decide, ?_, ?_, ?_⟩
  · rw [apart]
    decide +kernel
  · rw [apart]
    decide +kernel
  · rw [(entries_sections (.inr (by decide)) (by decide) (by decide) b).2 (by decide)
      ⟨0x74, by decide, by decide⟩]
    decide +kernel

end Manual

end Autotools
