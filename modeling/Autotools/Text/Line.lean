/-! Lines of a text. A line ends at a newline, and one carriage return before the newline is not
part of it. -/

namespace Autotools.Text

/-- A line without one carriage return at its end. -/
def dropReturn (line : List Char) : List Char :=
  if line.getLast? = some '\r' then line.dropLast else line

/-- The pieces of a text between its newlines, so one more than there are newlines. -/
def rows (s : List Char) : List (List Char) := s.splitOn '\n'

/-- The lines of a text: every piece that a newline ends, then what follows the last newline
unless that is empty. -/
def lines (s : List Char) : List (List Char) :=
  (rows s).dropLast.map dropReturn ++ ((rows s).getLast?.toList.filter (!·.isEmpty))

/-- A text that is not empty ends in a newline once it is closed. -/
def closed (s : List Char) : List Char :=
  if s.isEmpty || s.getLast? = some '\n' then s else s ++ ['\n']

/-- The row with the given number, as an editor counts rows. -/
def row? (s : List Char) (n : Nat) : Option (List Char) :=
  (rows s)[n]?.map dropReturn

theorem rows_ne_nil (s : List Char) : rows s ≠ [] :=
  List.splitOnP_ne_nil _ s

theorem length_rows (s : List Char) : (rows s).length = s.count '\n' + 1 := by
  induction s with
  | nil => rfl
  | cons c s ih =>
    rw [rows, List.splitOn] at ih
    rw [rows, List.splitOn, List.splitOnP_cons_eq_if_modifyHead, List.count_cons]
    by_cases h : c = '\n' <;> simp [h, ih]

/-- The pieces put together with newlines are the text again. -/
theorem intercalate_rows (s : List Char) : ['\n'].intercalate (rows s) = s :=
  List.intercalate_splitOn '\n'

end Autotools.Text
