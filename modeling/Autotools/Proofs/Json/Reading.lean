import Autotools.Json.Parser
import Autotools.Json.Printer

/-! Texts that are read as a value.  `Reads s v` says that `s` is read as `v` whatever follows it, so
the texts of members can be put together to the text of an object.  Spaces may stand between any
two tokens. -/

namespace Autotools.Json

/-! ### Texts in quotes -/

theorem hexDigit?_digitChar : ∀ n < 16, hexDigit? (Nat.digitChar n) = some n := by
  decide

theorem hex4?_control {n : Nat} (h : n < 0x20) :
    hex4? '0' '0' (Nat.digitChar (n / 16)) (Nat.digitChar (n % 16)) = some n := by
  have high := hexDigit?_digitChar (n / 16) (by omega)
  have low := hexDigit?_digitChar (n % 16) (by omega)
  have zero : hexDigit? '0' = some 0 := by decide
  simp only [hex4?, high, low, zero, Option.bind_eq_bind, Option.bind_some, Option.pure_def,
    Option.some.injEq]
  omega

theorem pieces?_letter {letter c : Char} (h : letterEscape? letter = some c) (rest : List Char) :
    pieces? ('\\' :: letter :: rest) =
      (pieces? rest).map fun read => (.char c :: read.1, read.2) := by
  have notUnit : letter ≠ 'u' := by
    rintro rfl
    cases h
  rw [pieces?.eq_4 letter rest fun _ _ _ _ _ unit _ => notUnit unit, h]
  cases pieces? rest <;> rfl

theorem pieces?_control {n : Nat} (h : n < 0x20) (rest : List Char) :
    pieces? ('\\' :: 'u' :: '0' :: '0' :: Nat.digitChar (n / 16) :: Nat.digitChar (n % 16) :: rest) =
      (pieces? rest).map fun read => (.unit n :: read.1, read.2) := by
  rw [pieces?, hex4?_control h]
  cases pieces? rest <;> rfl

theorem pieces?_visible {c : Char} (quote : c ≠ '"') (backslash : c ≠ '\\')
    (visible : ¬c.toNat < 0x20) (rest : List Char) :
    pieces? (c :: rest) = (pieces? rest).map fun read => (.char c :: read.1, read.2) := by
  rw [pieces?.eq_5 c rest quote (fun _ _ _ _ _ h _ => backslash h) (fun _ _ h _ => backslash h),
    if_neg visible]
  cases pieces? rest <;> rfl

/-- A unit below the pairs stands for its own character, also in front of another unit. -/
theorem joinPieces?_unit {n : Nat} (h : n < 0xD800) (pieces : List Piece) :
    joinPieces? (.unit n :: pieces) = (joinPieces? pieces).map (Char.ofNat n :: ·) := by
  have notHigh : isHigh n = false := by simp [isHigh]; omega
  have notLow : isLow n = false := by simp [isLow]; omega
  cases pieces with
  | nil => simp [joinPieces?, notHigh, notLow]
  | cons piece pieces => cases piece <;> simp [joinPieces?, notHigh, notLow]

/-- An escaped character is read as one piece, and this piece stands for the character. -/
theorem exists_piece (c : Char) : ∃ piece,
    (∀ rest, pieces? (escapeChar c ++ rest) =
      (pieces? rest).map fun read => (piece :: read.1, read.2)) ∧
    ∀ pieces, joinPieces? (piece :: pieces) = (joinPieces? pieces).map (c :: ·) := by
  unfold escapeChar
  split
  case h_8 =>
    rename_i quote backslash _ _ _ _ _
    split
    · rename_i control
      refine ⟨.unit c.toNat, pieces?_control control, ?_⟩
      intro pieces
      rw [joinPieces?_unit (by omega), Char.ofNat_toNat]
    · rename_i visible
      exact ⟨.char c, pieces?_visible quote backslash visible, fun _ => rfl⟩
  all_goals exact ⟨.char _, pieces?_letter rfl, fun _ => rfl⟩

theorem exists_pieces (s rest : List Char) : ∃ pieces,
    pieces? (s.flatMap escapeChar ++ '"' :: rest) = some (pieces, rest) ∧
    joinPieces? pieces = some s := by
  induction s with
  | nil => exact ⟨[], pieces?.eq_2 rest, rfl⟩
  | cons c s ih =>
    obtain ⟨pieces, read, joined⟩ := ih
    obtain ⟨piece, first, stands⟩ := exists_piece c
    refine ⟨piece :: pieces, ?_, ?_⟩
    · rw [List.flatMap_cons, List.append_assoc, first, read]
      rfl
    · rw [stands, joined]
      rfl

/-- A written text is read back after its opening quote. -/
theorem text?_escaped (s : String) (rest : List Char) :
    text? (s.toList.flatMap escapeChar ++ '"' :: rest) = some (some s, rest) := by
  obtain ⟨pieces, read, joined⟩ := exists_pieces s.toList rest
  unfold text?
  rw [read]
  show some ((joinPieces? pieces).map String.ofList, rest) = _
  rw [joined, Option.map_some, String.ofList_toList]

theorem quote_append (s : String) (rest : List Char) :
    quote s ++ rest = '"' :: (s.toList.flatMap escapeChar ++ '"' :: rest) := by
  simp [quote]

/-! ### Gaps -/

/-- Nothing but spaces. -/
def Gap (s : List Char) : Prop := ∀ c ∈ s, isSpace c = true

theorem gap_nil : Gap [] := by
  intro c h
  cases h

theorem skipSpace_gap {gap : List Char} (h : Gap gap) (s : List Char) :
    skipSpace (gap ++ s) = skipSpace s :=
  List.dropWhile_append_of_pos h

theorem skipSpace_cons {c : Char} (h : isSpace c = false) (s : List Char) :
    skipSpace (c :: s) = c :: s :=
  List.dropWhile_cons_of_neg (by simp [h])

theorem value?_gap {gap : List Char} (h : Gap gap) (fuel : Nat) (s : List Char) :
    value? fuel (gap ++ s) = value? fuel s := by
  cases fuel with
  | zero => rfl
  | succ fuel => rw [value?, value?, skipSpace_gap h]

/-! ### Values -/

/-- The text `s` is read as the value `v`, with any text after it and as soon as there is a unit
of fuel for each of its characters. -/
def Reads (s : List Char) (v : Json (Option String)) : Prop :=
  ∀ fuel rest, s.length ≤ fuel → value? fuel (s ++ rest) = some (v, rest)

/-- The text `s` is read as the members `ms` and the closing brace of an object. -/
def ReadsMembers (s : List Char) (ms : List (Option String × Json (Option String))) : Prop :=
  ∀ fuel rest, s.length ≤ fuel → members? fuel (s ++ rest) = some (ms, rest)

theorem reads_quote (s : String) : Reads (quote s) (.string (some s)) := by
  intro fuel rest room
  cases fuel with
  | zero => simp [quote] at room
  | succ fuel =>
    rw [value?, quote_append, skipSpace_cons (by decide)]
    show (text? (s.toList.flatMap escapeChar ++ '"' :: rest)).map _ = _
    rw [text?_escaped]
    rfl

theorem reads_emptyObject : Reads ['\x7b', '\x7d'] (.object []) := by
  intro fuel rest room
  cases fuel with
  | zero => simp at room
  | succ fuel =>
    have closed : skipSpace ('\x7d' :: rest) = '\x7d' :: rest := skipSpace_cons (by decide) rest
    rw [value?, List.cons_append, skipSpace_cons (by decide)]
    simp only [List.cons_append, List.nil_append, closed]

section Members

variable {gap between behind s : List Char} {v : Json (Option String)} {fuel : Nat}

/-- The members from one that was read on, as the next token decides. -/
def membersFrom? (fuel : Nat) (member : Option String × Json (Option String)) :
    List Char → Option (List (Option String × Json (Option String)) × List Char)
  | ',' :: rest => (members? fuel rest).map fun r => (member :: r.1, r.2)
  | '\x7d' :: rest => some ([member], rest)
  | _ => none

theorem members?_cons (key : String) (h : Reads s v) (ahead : Gap gap) (middle : Gap between)
    (after : Gap behind) (room : s.length ≤ fuel) {token : Char} (solid : isSpace token = false)
    (rest : List Char) :
    members? (fuel + 1) (gap ++ quote key ++ ':' :: (between ++ s ++ behind ++ token :: rest)) =
      membersFrom? fuel (some key, v) (token :: rest) := by
  have value : value? fuel (between ++ s ++ behind ++ token :: rest) =
      some (v, behind ++ token :: rest) := by
    rw [List.append_assoc, List.append_assoc, value?_gap middle, h fuel _ room]
  rw [members?, List.append_assoc, skipSpace_gap ahead, quote_append, skipSpace_cons (by decide)]
  simp only [text?_escaped, skipSpace_cons (show isSpace ':' = false by decide), value,
    skipSpace_gap after, skipSpace_cons solid]
  rfl

theorem readsMembers_last (key : String) (h : Reads s v) (ahead : Gap gap) (middle : Gap between)
    (after : Gap behind) :
    ReadsMembers (gap ++ quote key ++ ':' :: (between ++ s ++ behind ++ ['\x7d']))
      [(some key, v)] := by
  intro fuel rest room
  cases fuel with
  | zero => simp at room
  | succ fuel =>
    have fits : s.length ≤ fuel := by simp at room; omega
    have step := members?_cons key h ahead middle after fits
      (show isSpace '\x7d' = false by decide) rest
    simpa [membersFrom?] using step

theorem readsMembers_cons (key : String) (h : Reads s v) (ahead : Gap gap) (middle : Gap between)
    (after : Gap behind) {others : List Char} {ms : List (Option String × Json (Option String))}
    (hs : ReadsMembers others ms) :
    ReadsMembers (gap ++ quote key ++ ':' :: (between ++ s ++ behind ++ ',' :: others))
      ((some key, v) :: ms) := by
  intro fuel rest room
  cases fuel with
  | zero => simp at room
  | succ fuel =>
    have fits : s.length ≤ fuel ∧ others.length ≤ fuel := by simp at room; omega
    have step := members?_cons key h ahead middle after fits.1
      (show isSpace ',' = false by decide) (others ++ rest)
    simpa [membersFrom?, hs fuel rest fits.2] using step

end Members

/-- Members start with the quote of a key. -/
theorem skipSpace_of_members? {fuel : Nat} {s : List Char}
    {read : List (Option String × Json (Option String)) × List Char}
    (h : members? fuel s = some read) : ∃ rest, skipSpace s = '"' :: rest := by
  cases fuel with
  | zero => cases h
  | succ fuel =>
    rw [members?] at h
    split at h
    · rename_i rest found
      exact ⟨rest, found⟩
    · cases h

theorem reads_object {s : List Char} {ms : List (Option String × Json (Option String))}
    (h : ReadsMembers s ms) : Reads ('\x7b' :: s) (.object ms) := by
  intro fuel rest room
  cases fuel with
  | zero => simp at room
  | succ fuel =>
    have members := h fuel rest (by simpa using room)
    obtain ⟨text, quoted⟩ := skipSpace_of_members? members
    rw [value?, List.cons_append, skipSpace_cons (by decide)]
    simp only [quoted, members]
    rfl

/-- A text that is read as a value and ends there is parsed to this value. -/
theorem parse?_of_reads {s : List Char} {v : Json (Option String)} (h : Reads s v) :
    parse? (String.ofList s) = some v := by
  have read := h (s.length + 1) [] (by omega)
  rw [List.append_nil] at read
  unfold parse?
  rw [String.toList_ofList, read]
  rfl

/-! ### Compact texts -/

section Compact

variable {α : Type} (key : α → String) {value : α → Value} {read : α → Json (Option String)}

theorem readsMembers_compact {first : α} {others : List α}
    (h : ∀ a ∈ first :: others, Reads (value a).compact (read a)) :
    ReadsMembers (quote (key first) ++ ':' :: (value first).compact ++
        compactMembers (others.map fun a => (key a, value a)) ++ ['\x7d'])
      ((first :: others).map fun a => (some (key a), read a)) := by
  induction others generalizing first with
  | nil =>
    have last := readsMembers_last (key first) (h first (by simp)) gap_nil gap_nil gap_nil
    simpa [compactMembers] using last
  | cons next others ih =>
    have behind := ih fun a ha => h a (List.mem_cons_of_mem _ ha)
    have whole := readsMembers_cons (key first) (h first (by simp)) gap_nil gap_nil gap_nil behind
    simpa [compactMembers] using whole

/-- The compact text of an object is read back if the texts of its members are. -/
theorem reads_compact_object (entries : List α)
    (h : ∀ a ∈ entries, Reads (value a).compact (read a)) :
    Reads (compact (.object (entries.map fun a => (key a, value a))))
      (.object (entries.map fun a => (some (key a), read a))) := by
  cases entries with
  | nil => exact reads_emptyObject
  | cons first others => exact reads_object (readsMembers_compact key h)

end Compact

end Autotools.Json
