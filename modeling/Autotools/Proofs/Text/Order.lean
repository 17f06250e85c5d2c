import Autotools.Proofs.Text.Rows

/-! The order of texts.  It is also the order of their bytes: the first byte of a character tells
how many bytes it has, more for greater characters, and the bytes of characters of one size are
digits of their numbers, the most significant first. -/

namespace Autotools.Text

theorem pairwise_mergeSort {α : Type} (key : α → String) (l : List α) :
    (l.mergeSort fun a b => decide (key a ≤ key b)).Pairwise fun a b => key a ≤ key b := by
  have trans (a b c : α) (ab : decide (key a ≤ key b) = true) (bc : decide (key b ≤ key c) = true) :
      decide (key a ≤ key c) = true :=
    decide_eq_true (String.le_trans (of_decide_eq_true ab) (of_decide_eq_true bc))
  have total (a b : α) : (decide (key a ≤ key b) || decide (key b ≤ key a)) = true := by
    simpa using String.le_total (key a) (key b)
  exact (List.pairwise_mergeSort trans total l).imp of_decide_eq_true

theorem toNat_lt_of_char (c : Char) : c.val.toNat < 0x110000 := by
  have value : c.val.toNat = c.toNat := rfl
  have valid := c.valid
  rw [value]
  rcases valid with h | h <;> omega

/-- Of two characters the smaller one has the smaller bytes, whatever follows them. -/
theorem utf8EncodeChar_append_lt {c d : Char} (h : c < d) (s t : List UInt8) :
    String.utf8EncodeChar c ++ s < String.utf8EncodeChar d ++ t := by
  have less : c.val.toNat < d.val.toNat := h
  have bound := toNat_lt_of_char d
  rw [String.utf8EncodeChar, String.utf8EncodeChar]
  generalize c.val.toNat = m at *
  generalize d.val.toNat = n at *
  -- the order of two numbers is that of their digits to the base 64
  have twice (k : Nat) : k / 4096 = k / 64 / 64 := by omega
  have thrice (k : Nat) : k / 262144 = k / 64 / 64 / 64 := by omega
  have last : m / 64 < n / 64 ∨ m / 64 = n / 64 ∧ m % 64 < n % 64 := by omega
  have third : m / 64 / 64 < n / 64 / 64 ∨
      m / 64 / 64 = n / 64 / 64 ∧ m / 64 % 64 ≤ n / 64 % 64 := by omega
  have second : m / 64 / 64 / 64 < n / 64 / 64 / 64 ∨
      m / 64 / 64 / 64 = n / 64 / 64 / 64 ∧ m / 64 / 64 % 64 ≤ n / 64 / 64 % 64 := by omega
  split_ifs
  all_goals
    simp only [List.cons_append, List.cons_lt_cons_iff, UInt8.lt_iff_toNat_lt, UInt8.ext_iff,
      UInt8.toNat_ofNat', twice, thrice]
    omega

theorem bytes_ne_nil (c : Char) (s : List Char) : bytes (c :: s) ≠ [] := by
  intro none
  have size := congrArg List.length none
  have := c.utf8Size_pos
  simp at size
  omega

theorem bytes_lt {s t : List Char} (h : s < t) : bytes s < bytes t := by
  induction s generalizing t with
  | nil =>
    cases t with
    | nil => exact absurd h (List.lt_irrefl _)
    | cons d t =>
      obtain ⟨b, rest, split⟩ := List.exists_cons_of_ne_nil (bytes_ne_nil d t)
      rw [split]
      exact List.nil_lt_cons _ _
  | cons c s ih =>
    cases t with
    | nil => exact absurd h (List.not_lt_nil _)
    | cons d t =>
      rw [bytes_cons, bytes_cons]
      rcases List.cons_lt_cons_iff.1 h with first | ⟨rfl, rest⟩
      · exact utf8EncodeChar_append_lt first _ _
      · exact List.append_left_lt (ih rest)

theorem bytes_le_iff {s t : String} : bytes s.toList ≤ bytes t.toList ↔ s ≤ t := by
  constructor
  · intro le
    apply String.not_lt.1
    intro less
    exact List.not_lt.2 le (bytes_lt (String.lt_iff.1 less))
  · intro le
    apply List.not_lt.1
    intro less
    have notLess : ¬s < t := fun h => List.lt_asymm less (bytes_lt (String.lt_iff.1 h))
    obtain rfl := String.le_antisymm le (String.not_lt.1 notLess)
    exact List.lt_irrefl _ less

end Autotools.Text
