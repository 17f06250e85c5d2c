import Autotools.Proofs.Json.Reading

/-! Values of texts and objects are read back from their text over lines.  The spaces of a line's
start and the one after a colon are gaps between tokens, so the indentation plays no part in what is
read. -/

namespace Autotools.Json

/-- A value made of texts and objects only. -/
inductive Plain : Value → Prop
  | string (s : String) : Plain (.string s)
  | object {members : List (String × Value)} (h : ∀ m ∈ members, Plain m.2) :
      Plain (.object members)

/-- The text `s` is read as the value `v`, all its texts being well-formed. -/
def ReadsAs (s : List Char) (v : Value) : Prop := ∃ read, Reads s read ∧ strict read = some v

/-- The text `s` is read as the members `ms` and the closing brace of an object. -/
def ReadsMembersAs (s : List Char) (ms : List (String × Value)) : Prop :=
  ∃ read, ReadsMembers s read ∧ strictMembers read = some ms

theorem gap_newLine (indent depth : Nat) : Gap (newLine indent depth) := by
  intro c h
  rcases List.mem_cons.1 h with rfl | h
  · rfl
  · rw [List.eq_of_mem_replicate h]
    rfl

theorem gap_space : Gap [' '] := by
  intro c h
  rw [List.mem_singleton.1 h]
  rfl

theorem gap_newline : Gap ['\n'] := gap_newLine 0 0

theorem readsAs_quote (s : String) : ReadsAs (quote s) (.string s) :=
  ⟨.string (some s), reads_quote s, rfl⟩

theorem readsAs_object {s : List Char} {ms : List (String × Value)} (h : ReadsMembersAs s ms) :
    ReadsAs ('\x7b' :: s) (.object ms) := by
  obtain ⟨read, reads, members⟩ := h
  refine ⟨.object read, reads_object reads, ?_⟩
  rw [strict, members]
  rfl

theorem strictMembers_cons {key : String} {read : Json (Option String)} {v : Value}
    {rest : List (Option String × Json (Option String))} {ms : List (String × Value)}
    (value : strict read = some v) (members : strictMembers rest = some ms) :
    strictMembers ((some key, read) :: rest) = some ((key, v) :: ms) := by
  rw [strictMembers, value, members]
  rfl

theorem readsMembersAs_pretty (indent depth : Nat) {behind : List Char} (after : Gap behind)
    {first : String × Value} {others : List (String × Value)}
    (h : ∀ m ∈ first :: others, ReadsAs (m.2.pretty indent depth) m.2) :
    ReadsMembersAs (newLine indent depth ++ quote first.1 ++ ':' :: ' ' ::
        first.2.pretty indent depth ++ prettyMembers indent depth others ++ behind ++ ['\x7d'])
      (first :: others) := by
  have ahead := gap_newLine indent depth
  -- only the first member has no comma before it, so the induction is on the members behind it
  induction others generalizing first with
  | nil =>
    obtain ⟨read, reads, value⟩ := h first (by simp)
    refine ⟨[(some first.1, read)], ?_, strictMembers_cons value rfl⟩
    have last := readsMembers_last first.1 reads ahead gap_space after
    simpa [prettyMembers] using last
  | cons next others ih =>
    obtain ⟨read, reads, value⟩ := h first (by simp)
    obtain ⟨rest, behind, members⟩ := ih fun m hm => h m (List.mem_cons_of_mem _ hm)
    refine ⟨(some first.1, read) :: rest, ?_, strictMembers_cons value members⟩
    have whole := readsMembers_cons first.1 reads ahead gap_space gap_nil behind
    simpa [prettyMembers] using whole

theorem Plain.readsAs {v : Value} (h : Plain v) (indent depth : Nat) :
    ReadsAs (v.pretty indent depth) v := by
  induction h generalizing depth with
  | string s =>
    rw [pretty]
    exact readsAs_quote s
  | @object members _ ih =>
    cases members with
    | nil => exact ⟨.object [], reads_emptyObject, rfl⟩
    | cons first others =>
      rw [pretty]
      apply readsAs_object
      apply readsMembersAs_pretty indent (depth + 1) (gap_newLine indent depth)
      intro m hm
      exact ih m hm (depth + 1)

theorem parseStrict?_of_readsAs {s behind : List Char} {v : Value} (h : ReadsAs s v)
    (after : Gap behind) : parseStrict? (String.ofList (s ++ behind)) = some v := by
  obtain ⟨read, reads, value⟩ := h
  have whole := reads ((s ++ behind).length + 1) behind (by rw [List.length_append]; omega)
  have ended : skipSpace (behind ++ []) = [] := skipSpace_gap after []
  rw [List.append_nil] at ended
  unfold parseStrict? parse?
  rw [String.toList_ofList, whole]
  simp [ended, value]

/-- Whatever the indentation and whatever space follows, the text over lines is read as the value
that it was written for. -/
theorem Plain.parseStrict?_renderPretty {v : Value} (h : Plain v) (indent : Nat)
    {behind : List Char} (after : Gap behind) :
    parseStrict? (v.renderPretty indent ++ String.ofList behind) = some v := by
  have text : v.renderPretty indent ++ String.ofList behind =
      String.ofList (v.pretty indent 0 ++ behind) := by
    rw [renderPretty, String.ofList_append]
  rw [text]
  exact parseStrict?_of_readsAs (h.readsAs indent 0) after

end Autotools.Json
