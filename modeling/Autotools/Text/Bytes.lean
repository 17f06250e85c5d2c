/-! Texts measured and cut in bytes of their UTF-8 form. A cut inside a character does not exist. -/

namespace Autotools.Text

/-- The number of bytes of a text. -/
def byteLength : List Char → Nat
  | [] => 0
  | c :: s => c.utf8Size + byteLength s

/-- The two parts of a text around byte `n`, if a character starts there or the text ends there. -/
def splitAtByte? : List Char → Nat → Option (List Char × List Char)
  | s, 0 => some ([], s)
  | [], _ + 1 => none
  | c :: s, n + 1 =>
    if c.utf8Size ≤ n + 1 then
      (splitAtByte? s (n + 1 - c.utf8Size)).map fun parts => (c :: parts.1, parts.2)
    else
      none

/-- The text from byte `start` up to byte `stop`. -/
def slice? (s : List Char) (start stop : Nat) : Option (List Char) :=
  if start ≤ stop then do
    let parts ← splitAtByte? s start
    let middle ← splitAtByte? parts.2 (stop - start)
    return middle.1
  else
    none

/-- The character that starts at byte `n`. -/
def charAtByte? (s : List Char) (n : Nat) : Option Char := do
  let parts ← splitAtByte? s n
  parts.2.head?

@[simp] theorem byteLength_nil : byteLength [] = 0 := rfl

@[simp] theorem byteLength_cons (c : Char) (s : List Char) :
    byteLength (c :: s) = c.utf8Size + byteLength s := rfl

@[simp] theorem byteLength_append (s t : List Char) :
    byteLength (s ++ t) = byteLength s + byteLength t := by
  induction s with
  | nil => simp
  | cons c s ih => simp [ih, Nat.add_assoc]

/-- A cut loses nothing, and its first part has the length asked for. -/
theorem splitAtByte?_eq_some {s a b : List Char} {n : Nat} (h : splitAtByte? s n = some (a, b)) :
    s = a ++ b ∧ byteLength a = n := by
  induction s generalizing n a with
  | nil =>
    cases n with
    | zero => simp_all [splitAtByte?]
    | succ n => simp [splitAtByte?] at h
  | cons c s ih =>
    cases n with
    | zero => simp_all [splitAtByte?]
    | succ n =>
      rw [splitAtByte?] at h
      split at h
      · rename_i fits
        obtain ⟨⟨a', b'⟩, cut, parts⟩ := Option.map_eq_some_iff.1 h
        simp only [Prod.mk.injEq] at parts
        obtain ⟨rfl, rfl⟩ := parts
        obtain ⟨rfl, len⟩ := ih cut
        simp [len]
        omega
      · simp at h

end Autotools.Text
