import Autotools.Proofs.Text.Words
import Autotools.Workspace.Completion

/-! The words that requests are about.  A request for a description takes the whole word at its
position out of the line, and a request for completions the part before its position.  Both cuts
exist, whatever the line and the column, and every position at or in a word gives the same
description. -/

namespace Autotools.Workspace

open Text

variable {w : Workspace} {uri text : String} {d : Document} {line word : List Char} {p q : Point}
  {start stop : Nat}

theorem wordChar_make {c : Char} : wordChar .make c = true ↔ c ∉ ['$', '(', ')', ' ', '\t'] := by
  simp [wordChar, isMakeChar, and_assoc]

theorem wordChar_config {c : Char} :
    wordChar .config c = true ↔ c.isAlphanum = true ∨ c = '_' := by
  simp [wordChar, isMacroChar]

/-- The name at a position is the word there. -/
theorem macroAt?_of_word (row : row? text.toList p.row.toNat = some line)
    (boundary : IsBoundary line p.column.toNat) (above : start ≤ p.column.toNat)
    (below : p.column.toNat ≤ stop) (isWord : IsWordIn isMacroChar line start stop word) :
    macroAt? text p = some (String.ofList word, start, stop) := by
  have found : wordAround? isMacroChar line p.column.toNat = some (start, stop) :=
    wordAround?_eq_some_iff.2 ⟨boundary, above, below, word, isWord⟩
  have cut : slice? line start stop = some word := (isWord.slice? boundary above below).1
  simp [macroAt?, row, found, cut]

/-- What is shown at a position of a file of macros depends on its row and the name there. -/
theorem hover?_of_macroAt? (opened : w.store.get? uri = some d) (config : d.fileType = some .config)
    (row : q.row = p.row) (same : macroAt? d.text q = macroAt? d.text p) :
    w.hover? uri q = w.hover? uri p := by
  simp only [hover?, View.hover?, document?_view, opened, config, View.configHover?, same, row]

/-- For every line, and for the word characters of make files and of files of macros:

* In a make file all characters but blanks, parentheses and the dollar sign are word characters, and
  in a file of macros the letters and digits and the underscore are.
* There is a word at a column just if a character starts or the line ends there, and the character
  before the column or the one behind it is a word character.
* The column is then between the bounds of the word or at one of them.  The bounds are at the ends
  of characters, all characters between them are word characters, and those next to them are not.
  The word can be cut out of the line, and so can its part before the column.
* At every other column between the bounds that is not inside a character, the bounds are the same,
  and so is what is shown there in a file of macros. -/
theorem wordAround?_bounds (line : List Char) :
    (∀ c, (wordChar .make c = true ↔ c ∉ ['$', '(', ')', ' ', '\t']) ∧
      (wordChar .config c = true ↔ c.isAlphanum = true ∨ c = '_')) ∧
    (∀ type column,
      (wordAround? (wordChar type) line column).isSome ↔
        ∃ before after, line = before ++ after ∧ byteLength before = column ∧
          ∃ c, (before.getLast? = some c ∨ after.head? = some c) ∧ wordChar type c = true) ∧
    (∀ type column start stop,
      wordAround? (wordChar type) line column = some (start, stop) →
      start < stop ∧ start ≤ column ∧ column ≤ stop ∧
      (∃ word, IsWordIn (wordChar type) line start stop word ∧
        slice? line start stop = some word ∧
        ∃ part, part <+: word ∧ slice? line start column = some part) ∧
      ∀ other, IsBoundary line other → start ≤ other → other ≤ stop →
        wordAround? (wordChar type) line other = some (start, stop)) ∧
    ∀ (w : Workspace) uri d, w.store.get? uri = some d → d.fileType = some .config →
      ∀ p q : Point, q.row = p.row → row? d.text.toList p.row.toNat = some line →
      ∀ start stop, wordAround? isMacroChar line p.column.toNat = some (start, stop) →
        IsBoundary line q.column.toNat → start ≤ q.column.toNat → q.column.toNat ≤ stop →
        w.hover? uri q = w.hover? uri p := by
  refine ⟨fun c => ⟨wordChar_make, wordChar_config⟩, fun _ _ => isSome_wordAround?, ?_, ?_⟩
  · intro type column start stop found
    obtain ⟨boundary, above, below, word, isWord⟩ := wordAround?_eq_some_iff.1 found
    refine ⟨isWord.lt, above, below, ⟨word, isWord, isWord.slice? boundary above below⟩, ?_⟩
    intro other boundary' above' below'
    exact wordAround?_eq_some_iff.2 ⟨boundary', above', below', word, isWord⟩
  · intro w uri d opened config p q sameRow row start stop found boundary' above' below'
    obtain ⟨boundary, above, below, word, isWord⟩ := wordAround?_eq_some_iff.1 found
    refine hover?_of_macroAt? opened config sameRow ?_
    rw [macroAt?_of_word row boundary above below isWord,
      macroAt?_of_word (sameRow ▸ row) boundary' above' below' isWord]

end Autotools.Workspace
