import Autotools.Proofs.Docs.Blocks
import Mathlib.Data.List.TakeWhile

/-! The names of a manual.  A name has a description just if a marker yields it.  Markers that
follow each other open one block, and all their names have the description of that block unless a
later marker yields the name again.  A marker that yields no name has no part in the description,
neither with a name nor with its signature. -/

namespace Autotools

namespace SortedMap

variable {β : Type}

theorem isSome_get?_insertAll {m : SortedMap β} {pairs : List (String × β)} {key : String} :
    ((m.insertAll pairs).get? key).isSome ↔ (m.get? key).isSome ∨ key ∈ pairs.map (·.1) := by
  induction pairs generalizing m with
  | nil => simp [insertAll]
  | cons pair pairs ih =>
    have step : m.insertAll (pair :: pairs) = (m.insert pair.1 pair.2).insertAll pairs := rfl
    rw [step, ih, get?_insert, List.map_cons, List.mem_cons]
    by_cases same : key = pair.1 <;> simp [same]

theorem get?_insertAll_map {m : SortedMap β} {keys : List String} (value : String → β)
    {key : String} (member : key ∈ keys) :
    (m.insertAll (keys.map fun k => (k, value k))).get? key = some (value key) := by
  induction keys using List.reverseRecOn with
  | nil => cases member
  | append_singleton keys last ih =>
    rw [List.map_append, insertAll_append]
    simp only [insertAll, List.map_cons, List.map_nil, List.foldl_cons, List.foldl_nil, get?_insert]
    split
    · next same => rw [same]
    · next other =>
      refine ih ?_
      simpa [other] using member

end SortedMap

/-- The first of the pieces between separators. -/
theorem Text.head?_splitOn (separator : Char) (s : List Char) :
    (s.splitOn separator).head? = some (s.takeWhile (· ≠ separator)) := by
  induction s with
  | nil => rfl
  | cons c s ih =>
    rw [List.splitOn_cons_eq_if_modifyHead]
    by_cases same : c = separator
    · simp [same]
    · obtain ⟨rest, pieces⟩ := List.head?_eq_some_iff.1 ih
      simp [same, pieces]

namespace Manual

/-- A name that has a description, or is a name of the block being read. -/
def Progress.Knows (p : Progress) (name : String) : Prop :=
  (p.entries.get? name).isSome ∨ name ∈ p.block.names

namespace Convention

variable {c : Convention} {p : Progress} {line : List Char} {lines : List (List Char)}
  {name : String}

/-- The name that a line documents, with its signature: there is one if the line is a marker that
yields a name. -/
def documents? (c : Convention) (line : List Char) : Option (String × String) :=
  (c.marker? line).bind fun marker =>
    marker.name.map fun name => (String.ofList name, String.ofList marker.signature)

/-- The names that lines document, in their order. -/
def names (c : Convention) (lines : List (List Char)) : List String :=
  (lines.filterMap c.documents?).map (·.1)

/-- The signatures of the names that lines document. -/
def signatures (c : Convention) (lines : List (List Char)) : List String :=
  (lines.filterMap c.documents?).map (·.2)

theorem names_cons (c : Convention) (line : List Char) (lines : List (List Char)) :
    c.names (line :: lines) = (c.documents? line).toList.map (·.1) ++ c.names lines := by
  rw [names, List.filterMap_cons]
  cases c.documents? line <;> rfl

theorem signatures_cons (c : Convention) (line : List Char) (lines : List (List Char)) :
    c.signatures (line :: lines) = (c.documents? line).toList.map (·.2) ++ c.signatures lines := by
  rw [signatures, List.filterMap_cons]
  cases c.documents? line <;> rfl

theorem documents?_of_unmarked (h : c.marker? line = none) : c.documents? line = none := by
  rw [documents?, h]
  rfl

/-- What a marker adds to a block. -/
theorem addMarker_eq {marker : Marker} (h : c.marker? line = some marker) (b : Block) :
    b.addMarker marker =
      ⟨b.names ++ (c.documents? line).toList.map (·.1),
        b.signatures ++ (c.documents? line).toList.map (·.2), b.body⟩ := by
  rw [documents?, h, Option.bind_some, Block.addMarker]
  cases named : marker.name <;> simp

/-! ### No name is lost or made up -/

theorem knows_flush (c : Convention) (p : Progress) : (c.flush p).Knows name ↔ p.Knows name := by
  have names : (p.block.entries c.fence).map (·.1) = p.block.names := by
    simp [Block.entries, Function.comp_def]
  simp [Progress.Knows, flush, SortedMap.isSome_get?_insertAll, names, Block.empty]

theorem knows_step (c : Convention) (p : Progress) (line : List Char) :
    (c.step p line).Knows name ↔ p.Knows name ∨ name ∈ (c.documents? line).toList.map (·.1) := by
  rw [step]
  cases marked : c.marker? line with
  | some marker =>
    have added (q : Progress) : ({ q with block := q.block.addMarker marker, afterMarker := true }
        : Progress).Knows name ↔ q.Knows name ∨ name ∈ (c.documents? line).toList.map (·.1) := by
      rw [addMarker_eq marked, Progress.Knows, Progress.Knows, List.mem_append, or_assoc]
    dsimp only
    rw [added]
    split
    · rfl
    · rw [knows_flush]
  | none =>
    rw [documents?_of_unmarked marked, Option.toList_none, List.map_nil]
    simp only [List.not_mem_nil, or_false]
    split
    · split <;> rfl
    · exact knows_flush c p

theorem knows_foldl (c : Convention) (p : Progress) (lines : List (List Char)) :
    (lines.foldl c.step p).Knows name ↔ p.Knows name ∨ name ∈ c.names lines := by
  induction lines generalizing p with
  | nil => simp [names]
  | cons line lines ih =>
    rw [List.foldl_cons, ih, knows_step, names_cons, List.mem_append, or_assoc]

/-- A name has a description just if some line documents it. -/
theorem isSome_get?_read (c : Convention) (lines : List (List Char)) (name : String) :
    ((c.read lines).get? name).isSome ↔ name ∈ c.names lines := by
  have known : (c.flush (lines.foldl c.step ⟨.empty, .empty, false⟩)).Knows name ↔ _ :=
    (knows_flush c _).trans (knows_foldl c _ lines)
  simpa [Progress.Knows, flush, read, Block.empty] using known

/-! ### Runs of markers -/

/-- Lines that follow each other in a manual and are all markers, with no marker right before them
and none right after. -/
structure IsRun (c : Convention) (lines before run after : List (List Char)) : Prop where
  split : lines = before ++ (run ++ after)
  marked : ∀ line ∈ run, (c.marker? line).isSome
  opens : ∀ line ∈ before.getLast?, c.marker? line = none
  closes : ∀ line ∈ after.head?, c.marker? line = none

/-- A line of the body of a block. -/
def isBody (c : Convention) (line : List Char) : Bool := (c.marker? line).isNone && c.belongs line

/-- The block that a run of markers opens, with the lines of its body from those after the run. -/
def block (c : Convention) (run after : List (List Char)) : Block :=
  ⟨c.names run, c.signatures run, after.takeWhile c.isBody⟩

theorem afterMarker_step (c : Convention) (p : Progress) (line : List Char) :
    (c.step p line).afterMarker = (c.marker? line).isSome := by
  rw [step]
  cases c.marker? line with
  | some marker => rfl
  | none =>
    dsimp only
    split <;> rfl

/-- A marker that follows another one goes to its block. -/
theorem foldl_step_of_marked {run : List (List Char)}
    (marked : ∀ line ∈ run, (c.marker? line).isSome) (follows : p.afterMarker = true) :
    run.foldl c.step p =
      ⟨p.entries, ⟨p.block.names ++ c.names run, p.block.signatures ++ c.signatures run,
        p.block.body⟩, true⟩ := by
  induction run generalizing p with
  | nil => simp [names, signatures, ← follows]
  | cons line run ih =>
    obtain ⟨first, others⟩ := List.forall_mem_cons.1 marked
    obtain ⟨marker, found⟩ := Option.isSome_iff_exists.1 first
    have added : c.step p line =
        { p with block := p.block.addMarker marker, afterMarker := true } := by
      rw [step, found]
      simp only [follows, if_true]
    rw [List.foldl_cons, added, ih others rfl, addMarker_eq found, names_cons, signatures_cons]
    simp only [List.append_assoc]

/-- The first marker of a run ends the block before it. -/
theorem foldl_step_run {run : List (List Char)} (marked : ∀ line ∈ run, (c.marker? line).isSome)
    (some : run ≠ []) (first : p.afterMarker = false) :
    run.foldl c.step p =
      ⟨(c.flush p).entries, ⟨c.names run, c.signatures run, []⟩, true⟩ := by
  obtain ⟨line, rest, rfl⟩ := List.exists_cons_of_ne_nil some
  obtain ⟨marker, found⟩ := Option.isSome_iff_exists.1 (marked line (by simp))
  have opens : c.step p line = c.step { c.flush p with afterMarker := true } line := by
    rw [step, step, found]
    simp only [first, Bool.false_eq_true, if_false, if_true]
  rw [List.foldl_cons, opens, ← List.foldl_cons, foldl_step_of_marked marked rfl]
  simp [flush, Block.empty]

theorem foldl_step_body (p : Progress) {body : List (List Char)}
    (h : ∀ line ∈ body, c.isBody line = true) (isOpen : p.block.isOpen = true) :
    body.foldl c.step p =
      ⟨p.entries, ⟨p.block.names, p.block.signatures, p.block.body ++ body⟩,
        p.afterMarker && body.isEmpty⟩ := by
  induction body generalizing p with
  | nil => simp
  | cons line body ih =>
    obtain ⟨first, others⟩ := List.forall_mem_cons.1 h
    rw [isBody, Bool.and_eq_true, Option.isNone_iff_eq_none] at first
    have added : c.step p line =
        { p with block := p.block.addLine line, afterMarker := false } := by
      rw [step, first.1]
      simp only [first.2, if_true, isOpen]
    have rest := ih { p with block := p.block.addLine line, afterMarker := false } others isOpen
    rw [List.foldl_cons, added, rest]
    simp [Block.addLine]

/-- Where a block ends before some lines, what comes of them is put on top of what was read. -/
theorem flush_foldl_of_break {rest : List (List Char)}
    (h : ∀ line ∈ rest.head?, c.Ends line ∨ (c.marker? line).isSome ∧ p.afterMarker = false) :
    (c.flush (rest.foldl c.step p)).entries =
      (c.flush p).entries.insertAll (c.read rest).toList := by
  cases rest with
  | nil => rfl
  | cons line rest =>
    have fresh : c.step p line =
        c.step ((⟨.empty, .empty, false⟩ : Progress).onTop (c.flush p).entries) line := by
      rcases h line rfl with ends | ⟨marked, first⟩
      · rw [step_of_ends ends, step_of_ends ends]
        rfl
      · obtain ⟨marker, found⟩ := Option.isSome_iff_exists.1 marked
        rw [step, step, found]
        simp only [first, Bool.false_eq_true, if_false]
        rfl
    rw [List.foldl_cons, fresh, ← List.foldl_cons, foldl_step_onTop, flush_onTop]
    rfl

theorem afterMarker_foldl_of_last {before : List (List Char)}
    (h : ∀ line ∈ before.getLast?, c.marker? line = none) :
    (before.foldl c.step ⟨.empty, .empty, false⟩).afterMarker = false := by
  rcases List.eq_nil_or_concat before with rfl | ⟨front, line, rfl⟩
  · rfl
  · rw [List.concat_eq_append, List.foldl_append, List.foldl_cons, List.foldl_nil, afterMarker_step,
      h line (by simp)]
    rfl

/-- Behind the body of a block comes a line that ends it, or a marker of another run. -/
theorem break_after_body {after : List (List Char)}
    (closes : ∀ line ∈ after.head?, c.marker? line = none) (line : List Char)
    (next : line ∈ (after.dropWhile c.isBody).head?) :
    c.Ends line ∨ (c.marker? line).isSome ∧ (after.takeWhile c.isBody).isEmpty = false := by
  have outside : c.isBody line = false := by
    have := List.head?_dropWhile_not c.isBody after
    rwa [Option.mem_def.1 next] at this
  cases marked : c.marker? line with
  | none => exact .inl ⟨marked, by simpa [isBody, marked] using outside⟩
  | some marker =>
    refine .inr ⟨rfl, ?_⟩
    cases body : after.takeWhile c.isBody with
    | cons first rest => rfl
    | nil =>
      have whole := List.takeWhile_append_dropWhile (p := c.isBody) (l := after)
      rw [body, List.nil_append] at whole
      rw [whole] at next
      simp [closes line next] at marked

/-- The block that a run opens is closed behind its body, and what comes after is put on top. -/
theorem read_of_run {before run after : List (List Char)} (h : c.IsRun lines before run after)
    (some : c.names run ≠ []) :
    c.read lines =
      ((c.read before).insertAll ((c.block run after).entries c.fence)).insertAll
        (c.read (after.dropWhile c.isBody)).toList := by
  have nonempty : run ≠ [] := by
    rintro rfl
    exact some rfl
  have isOpen : (Block.mk (c.names run) (c.signatures run) []).isOpen = true := by
    simpa [Block.isOpen] using some
  have body : ∀ line ∈ after.takeWhile c.isBody, c.isBody line = true :=
    fun line => List.mem_takeWhile_imp
  have split : lines =
      before ++ (run ++ (after.takeWhile c.isBody ++ after.dropWhile c.isBody)) := by
    rw [List.takeWhile_append_dropWhile]
    exact h.split
  rw [read, split, List.foldl_append, List.foldl_append, List.foldl_append,
    foldl_step_run h.marked nonempty (afterMarker_foldl_of_last h.opens),
    foldl_step_body _ body isOpen]
  exact flush_foldl_of_break (break_after_body h.closes)

/-- A name of a run that no later line documents has the description of the block that the run
opens. -/
theorem get?_read_of_run {before run after : List (List Char)}
    (h : c.IsRun lines before run after) (member : name ∈ c.names run)
    (last : name ∉ c.names after) :
    (c.read lines).get? name = some ((c.block run after).description c.fence name) := by
  have unread : (c.read (after.dropWhile c.isBody)).get? name = none := by
    rw [← Option.not_isSome_iff_eq_none, isSome_get?_read]
    intro later
    have sub := (List.dropWhile_sublist c.isBody (l := after)).filterMap c.documents?
    exact last ((sub.map (·.1)).subset later)
  rw [read_of_run h (List.ne_nil_of_mem member), SortedMap.get?_insertAll, SortedMap.ofList_toList,
    unread, Option.none_or]
  exact SortedMap.get?_insertAll_map _ member

theorem mem_names :
    name ∈ c.names lines ↔
      ∃ line ∈ lines, ∃ marker, c.marker? line = some marker ∧ marker.name = some name.toList := by
  rw [names, List.mem_map]
  constructor
  · rintro ⟨⟨_, signature⟩, documented, rfl⟩
    obtain ⟨line, member, found⟩ := List.mem_filterMap.1 documented
    obtain ⟨marker, marked, yields⟩ := Option.bind_eq_some_iff.1 found
    obtain ⟨yielded, named, same⟩ := Option.map_eq_some_iff.1 yields
    obtain ⟨rfl, rfl⟩ := Prod.mk.inj same
    exact ⟨line, member, marker, marked, by rw [named, String.toList_ofList]⟩
  · rintro ⟨line, member, marker, marked, named⟩
    refine ⟨(name, String.ofList marker.signature), ?_, rfl⟩
    exact List.mem_filterMap.2 ⟨line, member, by simp [documents?, marked, named]⟩

end Convention

/-! ### What a block says -/

/-- What is said of names under their signatures and a text.  The signatures are a block of code,
left out where there is one and it is the name. -/
def described (fence : String) (names signatures : List String) (text : String) : String :=
  let code := "```" ++ fence ++ "\n" ++ "\n".intercalate signatures ++ "\n```"
  if signatures.length = 1 ∧ signatures = names then text
  else if text = "" then code
  else code ++ "\n" ++ text

/-- All names of a block have one description. -/
theorem description_eq {b : Block} (paired : b.names.length = b.signatures.length)
    (fence : String) {name : String} (member : name ∈ b.names) :
    b.description fence name =
      described fence b.names b.signatures (String.ofList (paragraphs b.body)) := by
  have only : b.signatures = [name] ↔ b.signatures.length = 1 ∧ b.signatures = b.names := by
    constructor
    · intro single
      have one : b.names.length = 1 := by rw [paired, single]; rfl
      obtain ⟨other, names⟩ := List.length_eq_one_iff.1 one
      rw [names, List.mem_singleton] at member
      exact ⟨by rw [single]; rfl, by rw [single, names, member]⟩
    · rintro ⟨one, same⟩
      obtain ⟨signature, single⟩ := List.length_eq_one_iff.1 one
      rw [← same, single, List.mem_singleton] at member
      rw [single, member]
  simp only [Block.description, described, only, String.isEmpty_iff]
  rfl

/-! ### Names in the two manuals -/

theorem autoconfMarker?_append (rest : List Char) :
    autoconfMarker? (autoconfMark ++ rest) =
      some ⟨Text.trimEnd rest, if (rest.takeWhile (· ≠ ' ')).isEmpty then none
        else some (rest.takeWhile (· ≠ ' '))⟩ := by
  rw [autoconfMarker?, if_pos (List.isPrefixOf_iff_prefix.2 (List.prefix_append ..)),
    List.drop_left]

theorem mem_names_autoconf {lines : List (List Char)} {name : String} :
    name ∈ autoconf.names lines ↔
      name ≠ "" ∧ ∃ rest, " -- Macro: ".toList ++ rest ∈ lines ∧
        (rest.splitOn ' ').head? = some name.toList := by
  have yields (rest : List Char) :
      (∃ marker, autoconfMarker? (autoconfMark ++ rest) = some marker ∧
        marker.name = some name.toList) ↔
      name ≠ "" ∧ (rest.splitOn ' ').head? = some name.toList := by
    rw [Text.head?_splitOn, autoconfMarker?_append]
    simp only [Option.some.injEq, exists_eq_left', Option.ite_none_left_eq_some]
    constructor
    · rintro ⟨some, first⟩
      rw [first] at some
      exact ⟨by simpa using some, first⟩
    · rintro ⟨some, first⟩
      rw [first]
      exact ⟨by simpa using some, rfl⟩
  rw [Convention.mem_names]
  constructor
  · rintro ⟨line, member, marker, marked, named⟩
    have mark : autoconfMark.isPrefixOf line = true := by
      by_contra unmarked
      have : autoconfMarker? line = some marker := marked
      rw [autoconfMarker?, if_neg unmarked] at this
      cases this
    obtain ⟨rest, rfl⟩ := List.isPrefixOf_iff_prefix.1 mark
    obtain ⟨some, first⟩ := (yields rest).1 ⟨marker, marked, named⟩
    exact ⟨some, rest, member, first⟩
  · rintro ⟨some, rest, member, first⟩
    exact ⟨_, member, (yields rest).2 ⟨some, first⟩⟩

theorem mem_names_make {lines : List (List Char)} {name : String} :
    name ∈ make.names lines ↔
      ∃ line ∈ lines, ∃ marker, makeMarker? line = some marker ∧
        makeName? marker.signature = some name.toList := by
  rw [Convention.mem_names]
  have named {line : List Char} {marker : Marker} (h : makeMarker? line = some marker) :
      marker.name = makeName? marker.signature := by
    rw [makeMarker?] at h
    split at h
    · simp only at h
      split at h
      · cases h
      · cases h
        rfl
    · cases h
  constructor
  · rintro ⟨line, member, marker, marked, name⟩
    exact ⟨line, member, marker, marked, named marked ▸ name⟩
  · rintro ⟨line, member, marker, marked, name⟩
    exact ⟨line, member, marker, marked, named marked ▸ name⟩

/-- In every manual of either kind the names with a description are those of its markers: in the
autoconf manual what comes first between spaces behind the mark of a line, if that is not empty, and
in the make manual the names of the signatures of the marker lines.  Let some lines of a manual be a
run of markers.  All their names that no later marker yields have one and the same description, made
of the signatures of the markers in the run that yield a name, in their order, and the paragraphs of
the lines behind the run up to the next marker or to a line that does not belong to the block. -/
theorem entries_of_markers (manual : String) :
    (∀ name, ((autoconf.entries manual).get? name).isSome ↔
      name ≠ "" ∧ ∃ rest, " -- Macro: ".toList ++ rest ∈ Text.lines manual.toList ∧
        (rest.splitOn ' ').head? = some name.toList) ∧
    (∀ name, ((make.entries manual).get? name).isSome ↔
      ∃ line ∈ Text.lines manual.toList, ∃ marker, makeMarker? line = some marker ∧
        makeName? marker.signature = some name.toList) ∧
    ∀ (c : Convention) before run after,
      c.IsRun (Text.lines manual.toList) before run after →
      ∀ name ∈ c.names run, name ∉ c.names after →
        (c.entries manual).get? name = some (described c.fence (c.names run) (c.signatures run)
          (String.ofList (paragraphs (after.takeWhile c.isBody)))) := by
  refine ⟨?_, ?_, ?_⟩
  · intro name
    exact (Convention.isSome_get?_read ..).trans mem_names_autoconf
  · intro name
    exact (Convention.isSome_get?_read ..).trans mem_names_make
  · intro c before run after isRun name member last
    have paired : (c.names run).length = (c.signatures run).length := by
      rw [Convention.names, Convention.signatures, List.length_map, List.length_map]
    have named : name ∈ (c.block run after).names := member
    rw [Convention.entries, Convention.get?_read_of_run isRun member last,
      description_eq paired c.fence named]
    rfl

/-- Two names of one block. -/
theorem entries_twoNames :
    let manual := "Directives\n'include'\n'-include'\n     Read other\n     makefiles.\n'CC'\n"
    let run := ["'include'".toList, "'-include'".toList]
    let after := ["     Read other".toList, "     makefiles.".toList, "'CC'".toList]
    make.IsRun (Text.lines manual.toList) ["Directives".toList] run after ∧
    ∀ name ∈ make.names run, name ∉ make.names after ∧ (make.entries manual).get? name =
      some "```make\ninclude\n-include\n```\nRead other makefiles." := by
  intro manual run after
  have isRun : make.IsRun (Text.lines manual.toList) ["Directives".toList] run after :=
    ⟨by decide +kernel, by decide, by decide, by decide⟩
  refine ⟨isRun, ?_⟩
  intro name member
  have last : name ∉ make.names after := by
    revert name
    decide
  refine ⟨last, ?_⟩
  rw [(entries_of_markers manual).2.2 make _ _ _ isRun name member last]
  decide +kernel

/-- A marker that yields no name is part of a run, but its signature is left out of the
description. -/
theorem entries_namelessMarker :
    let manual := "'$()'\n'foo'\n     Body.\n"
    let run := ["'$()'".toList, "'foo'".toList]
    let after := ["     Body.".toList]
    let signatures := (run.filterMap make.marker?).map fun marker => String.ofList marker.signature
    make.IsRun (Text.lines manual.toList) [] run after ∧
    "foo" ∈ make.names run ∧ (∀ name ∈ make.names run, name ∉ make.names after) ∧
    signatures = ["$()", "foo"] ∧
    (make.entries manual).get? "foo" = some "Body." ∧
    described make.fence (make.names run) signatures
      (String.ofList (paragraphs (after.takeWhile make.isBody))) =
        "```make\n$()\nfoo\n```\nBody." := by
  refine ⟨⟨?_, ?_, ?_, ?_⟩, ?_, ?_, ?_, ?_, ?_⟩
  all_goals decide +kernel

end Manual

end Autotools
