import Autotools.Proofs.Workspace.Outside
import Autotools.Proofs.Workspace.Words

/-! The names on offer at a cursor in a make file.  First come the names of the table, then the
names that the open make files define, and no name comes twice.  A name that is defined several
times is offered as its first definition: that in the document of the request, or else that in the
document with the least URI, and in pre-order within a document. -/

namespace Autotools

open Syntax

section SortedMap

variable {β : Type} {m : SortedMap β} {key : String}

theorem SortedMap.mem_keys : key ∈ m.keys ↔ (m.get? key).isSome := by
  rw [keys, List.mem_map, Option.isSome_iff_exists]
  constructor
  · rintro ⟨⟨_, value⟩, bound, rfl⟩
    exact ⟨value, mem_toList.1 bound⟩
  · rintro ⟨value, bound⟩
    exact ⟨(key, value), mem_toList.2 bound, rfl⟩

theorem SortedMap.keys_pairwise (m : SortedMap β) : m.keys.Pairwise (· < ·) :=
  List.pairwise_map.2 m.sorted

theorem SortedMap.mem_values {value : β} :
    value ∈ m.values ↔ ∃ key, m.get? key = some value := by
  simp [values, mem_toList]

end SortedMap

/-! ### The order of a request -/

namespace Store

/-- A request about `first` meets the one place before the other: it is in `first` and the other is
not, or neither is and its URI is less, or both are in one document and it is before the other in
pre-order. -/
def Precedes (s : Store) (first : String) (a b : Occurrence) : Prop :=
  a.uri = first ∧ b.uri ≠ first ∨
    a.uri ≠ first ∧ b.uri ≠ first ∧ a.uri < b.uri ∨
    ∃ tree, a.uri = b.uri ∧ s.tree? a.uri = some tree ∧ [a.node, b.node].Sublist tree.nodes

theorem makeTrees_pairwise (s : Store) (first : String) :
    (s.makeTrees first).Pairwise fun a b =>
      a.1 = first ∧ b.1 ≠ first ∨ a.1 ≠ first ∧ b.1 ≠ first ∧ a.1 < b.1 := by
  rw [makeTrees_eq]
  refine List.pairwise_append.2 ⟨?_, ?_, ?_⟩
  · rw [scope_filter_eq]
    cases s.tree? first <;> simp
  · refine List.pairwise_filter.2 (s.scope_pairwise.imp ?_)
    intro a b below ha hb
    exact .inr ⟨by simpa using ha, by simpa using hb, below⟩
  · intro a own b other
    have here := (List.mem_filter.1 own).2
    have elsewhere := (List.mem_filter.1 other).2
    exact .inl ⟨by simpa using here, by simpa using elsewhere⟩

theorem occurrences_pairwise (s : Store) (first : String) :
    (s.occurrences first).Pairwise (s.Precedes first) := by
  refine List.pairwise_flatMap.2 ⟨?_, (s.makeTrees_pairwise first).imp ?_⟩
  · rintro ⟨uri, tree⟩ document
    refine List.pairwise_map.2 (List.pairwise_iff_forall_sublist.2 ?_)
    intro a b before
    exact .inr (.inr ⟨tree, rfl, mem_makeTrees.1 document, before⟩)
  · rintro ⟨uri, tree⟩ ⟨uri', tree'⟩ before a ha b hb
    obtain ⟨_, _, rfl⟩ := List.mem_map.1 ha
    obtain ⟨_, _, rfl⟩ := List.mem_map.1 hb
    rcases before with own | others
    · exact .inl own
    · exact .inr (.inl others)

end Store

/-! ### The first definition of a name -/

/-- Whether a node defines a name, be it a variable, a function or a target. -/
def Syntax.Node.definesName (name : String) (n : Node) : Bool :=
  (Role.ofNode n).isDefinition ∧ n.text = name

namespace Store

variable {s : Store} {first name : String} {o : Occurrence}

/-- A node of an open make file defines a name. -/
def Defines (s : Store) (name : String) (o : Occurrence) : Prop :=
  s.Holds o ∧ o.node.definesName name = true

/-- Of the nodes that define a name, a request about `first` meets this one first. -/
structure IsFirstDefinition (s : Store) (first name : String) (o : Occurrence) : Prop where
  defines : s.Defines name o
  precedes : ∀ o', s.Defines name o' → o' = o ∨ s.Precedes first o o'

def firstDefinition? (s : Store) (first name : String) : Option Occurrence :=
  (s.occurrences first).find? (·.node.definesName name)

theorem isSome_firstDefinition? (s : Store) (first name : String) :
    (s.firstDefinition? first name).isSome ↔ ∃ o, s.Defines name o := by
  simp only [firstDefinition?, List.find?_isSome, mem_occurrences, Defines]

theorem isFirstDefinition_of_firstDefinition? (h : s.firstDefinition? first name = some o) :
    s.IsFirstDefinition first name o := by
  obtain ⟨named, before, after, places, missed⟩ := List.find?_eq_some_iff_append.1 h
  have ordered := s.occurrences_pairwise first
  refine ⟨⟨mem_occurrences.1 (List.mem_of_find?_eq_some h), named⟩, ?_⟩
  intro o' ⟨held, named'⟩
  have met : o' ∈ s.occurrences first := mem_occurrences.2 held
  rw [places] at met ordered
  rcases List.mem_append.1 met with earlier | here
  · have := missed o' earlier
    simp [named'] at this
  · rcases List.mem_cons.1 here with same | later
    · exact .inl same
    · exact .inr ((List.pairwise_cons.1 (List.pairwise_append.1 ordered).2.1).1 o' later)

end Store

/-! ### Collecting names -/

namespace Completion

variable {name : String} {o : Occurrence}

theorem isOffered_iff : isOffered name = true ↔ name ≠ "" ∧ name.toList.head? ≠ some '.' := by
  simp [isOffered]

/-- The completion to a name takes its kind and documentation from a node that defines it. -/
structure IsOf (c : Completion) (o : Occurrence) : Prop where
  label : c.label = o.node.text
  kind : definedKind? (Role.ofNode o.node) = some (c.kind, c.detail)
  documentation : c.documentation = Workspace.showDefinition o

/-- The labels are the names that pass a test, in ascending order. -/
structure Lists (offers : List Completion) (test : String → Prop) : Prop where
  ascending : (offers.map (·.label)).Pairwise (· < ·)
  complete : ∀ name, name ∈ offers.map (·.label) ↔ test name

theorem Lists.of_keys {β : Type} {m : SortedMap β} {p : String → Bool} {offers : List Completion}
    {test : String → Prop} (labels : offers.map (·.label) = m.keys.filter p)
    (complete : ∀ name, name ∈ m.keys ∧ p name = true ↔ test name) : Lists offers test := by
  constructor
  · rw [labels]
    exact m.keys_pairwise.filter p
  · intro name
    rw [labels, List.mem_filter, complete]

theorem Lists.nodup {offers : List Completion} {test : String → Prop} (h : Lists offers test) :
    (offers.map (·.label)).Nodup := by
  refine h.ascending.imp ?_
  intro a b below
  exact String.ne_of_lt below

theorem isOf_of_ofDefinition? {c : Completion}
    (definition : (Role.ofNode o.node).isDefinition = true) (made : ofDefinition? o = some c) :
    c.IsOf o := by
  rw [ofDefinition?, Symbol.ofNode_of_isDefinition definition] at made
  obtain ⟨-, made⟩ := Option.ite_none_right_eq_some.1 made
  obtain ⟨⟨kind, detail⟩, known, rfl⟩ := Option.map_eq_some_iff.1 made
  exact ⟨rfl, known, rfl⟩

theorem isSome_ofDefinition? (defines : o.node.definesName name = true) :
    (ofDefinition? o).isSome = isOffered name := by
  obtain ⟨definition, rfl⟩ := of_decide_eq_true defines
  exact ofDefinition?_of_isDefinition definition

/-- No definition of a name that may not be offered makes a completion, the first one included. -/
theorem bind_ofDefinition?_eq_none {places : List Occurrence} (unoffered : isOffered name = false) :
    (places.find? (·.node.definesName name)).bind ofDefinition? = none := by
  refine Option.bind_eq_none_iff.2 ?_
  intro o found
  have defines : o.node.definesName name = true := by simpa using List.find?_some found
  rw [← Option.not_isSome_iff_eq_none, isSome_ofDefinition? defines, unoffered]
  exact Bool.false_ne_true

/-- One more node adds its name if it defines one that may be offered and is new. -/
theorem get?_addDefinition (found : SortedMap Completion) (o : Occurrence) (name : String) :
    (addDefinition found o).get? name =
      (found.get? name).or (if o.node.definesName name then ofDefinition? o else none) := by
  rw [addDefinition, isNone_definedKind?]
  cases definition : (Role.ofNode o.node).isDefinition with
  | false => simp [Node.definesName, definition]
  | true =>
    have defines : o.node.definesName name = true ↔ o.text = name := by
      simp [Node.definesName, definition, Occurrence.text]
    simp only [defines, Bool.not_true, Bool.false_or]
    cases known : found.get? o.text with
    | some c =>
      rcases eq_or_ne o.text name with rfl | other
      · simp [known]
      · simp [other]
    | none =>
      cases made : ofDefinition? o with
      | none => simp
      | some c =>
        have label : c.label = o.text := (isOf_of_ofDefinition? definition made).label
        rcases eq_or_ne o.text name with rfl | other
        · simp [label, known]
        · simp [label, other, other.symm]

/-- The run over a list of nodes keeps the first definition of each name. -/
theorem get?_foldl_addDefinition (found : SortedMap Completion) (places : List Occurrence)
    (name : String) :
    (places.foldl addDefinition found).get? name =
      (found.get? name).or ((places.find? (·.node.definesName name)).bind ofDefinition?) := by
  induction places generalizing found with
  | nil => simp
  | cons o places ih =>
    rw [List.foldl_cons, ih, get?_addDefinition, Option.or_assoc, List.find?_cons]
    congr 1
    cases defines : o.node.definesName name with
    | false => simp
    | true =>
      cases made : ofDefinition? o with
      | some c => simp [made]
      | none =>
        have unoffered : isOffered name = false := by rw [← isSome_ofDefinition? defines, made]; rfl
        simp [made, bind_ofDefinition?_eq_none unoffered]

end Completion

namespace Workspace

variable {parser : Parser} {w : Workspace} {uri name : String} {d : Document} {position : Point}
  {word : List Char} {c : Completion}

theorem get?_definedNames (w : Workspace) (uri name : String) :
    (w.view.definedNames uri).get? name =
      (w.store.firstDefinition? uri name).bind Completion.ofDefinition? := by
  rw [definedNames_eq, Completion.get?_foldl_addDefinition, SortedMap.get?_empty, Option.none_or]
  rfl

theorem isFirstDefinition_of_get?_definedNames (h : (w.view.definedNames uri).get? name = some c) :
    ∃ o, w.store.IsFirstDefinition uri name o ∧ c.IsOf o := by
  rw [get?_definedNames] at h
  obtain ⟨o, found, made⟩ := Option.bind_eq_some_iff.1 h
  have first := Store.isFirstDefinition_of_firstDefinition? found
  exact ⟨o, first, Completion.isOf_of_ofDefinition? (of_decide_eq_true first.defines.2).1 made⟩

theorem label_of_get?_definedNames (h : (w.view.definedNames uri).get? name = some c) :
    c.label = name := by
  obtain ⟨o, first, same⟩ := isFirstDefinition_of_get?_definedNames h
  rw [same.label]
  exact (of_decide_eq_true first.defines.2).2

theorem mem_keys_definedNames :
    name ∈ (w.view.definedNames uri).keys ↔
      Completion.isOffered name = true ∧ ∃ o, w.store.Defines name o := by
  rw [SortedMap.mem_keys, get?_definedNames, ← w.store.isSome_firstDefinition? uri]
  cases found : w.store.firstDefinition? uri name with
  | none => simp
  | some o =>
    have defines := (Store.isFirstDefinition_of_firstDefinition? found).defines.2
    simp [Completion.isSome_ofDefinition? defines]

theorem map_label_definedNames (w : Workspace) (uri : String) :
    (w.view.definedNames uri).values.map (·.label) = (w.view.definedNames uri).keys := by
  rw [SortedMap.values, List.map_map]
  refine List.map_congr_left ?_
  rintro ⟨name, c⟩ member
  exact label_of_get?_definedNames (SortedMap.mem_toList.1 member)

/-! ### Offers -/

theorem isWordBefore_typed (type : FileType) (text : String) (position : Point) :
    Text.IsWordBefore (wordChar type) text.toList position (typed type text position) := by
  by_cases cut : ∃ before after, Text.IsCut text.toList position before after
  · obtain ⟨before, after, row, column⟩ := cut
    have typed : typed type text position = (before.reverse.takeWhile (wordChar type)).reverse := by
      rw [typed, row, ← column]
      exact Text.slice?_wordAround? ..
    rw [typed]
    exact .inl ⟨before, after, ⟨row, column⟩, Text.endsInWord_takeWhile ..⟩
  · have nowhere := fun before after there => cut ⟨before, after, there⟩
    refine .inr ⟨nowhere, ?_⟩
    rw [typed]
    cases row : Text.row? text.toList position.row.toNat with
    | none => rfl
    | some line =>
      have split : Text.splitAtByte? line position.column.toNat = none := by
        refine Option.eq_none_iff_forall_ne_some.2 ?_
        rintro ⟨before, after⟩ split
        obtain ⟨rfl, column⟩ := Text.splitAtByte?_eq_some_iff.1 split
        exact nowhere before after ⟨row, column⟩
      simp [Text.wordAround?, split]

theorem isWordBefore_typed_make (text : String) (position : Point) :
    Text.IsWordBefore (fun c => c ∉ ['$', '(', ')', ' ', '\t']) text.toList position
      (typed .make text position) := by
  have same : wordChar .make = fun c => decide (c ∉ ['$', '(', ')', ' ', '\t']) := by
    funext c
    rw [Bool.eq_iff_iff, wordChar_make, decide_eq_true_iff]
  rw [← same]
  exact isWordBefore_typed .make text position

theorem lists_builtinCompletions (w : Workspace) (type : FileType) (word : List Char) :
    Completion.Lists (w.view.builtinCompletions type word) fun name =>
      word <+: name.toList ∧ (w.docs.describe? name type).isSome = true := by
  refine .of_keys (m := w.docs.entries type) (p := fun name => word.isPrefixOf name.toList) ?_ ?_
  · rw [View.builtinCompletions, SortedMap.keys, List.filter_map, List.map_map]
    rfl
  · intro name
    rw [SortedMap.mem_keys, List.isPrefixOf_iff_prefix, and_comm]
    rfl

theorem lists_definedCompletions (w : Workspace) (uri : String) (word : List Char) :
    Completion.Lists (w.view.definedCompletions uri word) fun name =>
      word <+: name.toList ∧ w.docs.describe? name .make = none ∧
        name ≠ "" ∧ name.toList.head? ≠ some '.' ∧ ∃ o, w.store.Defines name o := by
  refine .of_keys (m := w.view.definedNames uri)
    (p := fun name => word.isPrefixOf name.toList && (w.docs.describe? name .make).isNone) ?_ ?_
  · rw [View.definedCompletions, ← map_label_definedNames, List.filter_map]
    rfl
  · intro name
    rw [mem_keys_definedNames, Completion.isOffered_iff, Bool.and_eq_true,
      List.isPrefixOf_iff_prefix, Option.isNone_iff_eq_none]
    tauto

theorem completions_eq (opened : w.store.get? uri = some d) (make : d.fileType = some .make)
    (position : Point) :
    w.completions uri position =
      w.view.builtinCompletions .make (typed .make d.text position) ++
        w.view.definedCompletions uri (typed .make d.text position) := by
  simp [completions, View.completions, opened, make]

theorem isFirstDefinition_of_mem_definedCompletions (h : c ∈ w.view.definedCompletions uri word) :
    ∃ o, w.store.IsFirstDefinition uri c.label o ∧ c.IsOf o := by
  obtain ⟨name, bound⟩ := SortedMap.mem_values.1 (List.mem_filter.1 h).1
  rw [label_of_get?_definedNames bound]
  exact isFirstDefinition_of_get?_definedNames bound

/-- In every reachable workspace, the completions at a position of a make file are those to the
names of the table and then those to the names that the open make files define, with the word before
the position as a start.  A word has neither blanks nor parentheses nor a dollar sign.  Both parts
are in ascending order and leave out no such name, except that a defined name is not offered if it
is empty, starts with a dot or is in the table.  No name is offered twice.  A defined name is
offered as its first definition. -/
theorem completions_make (reached : w.Reachable parser) (opened : w.store.get? uri = some d)
    (make : d.fileType = some .make) (position : Point) :
    (∀ uri tree, w.store.tree? uri = some tree ↔
      ∃ d, w.store.get? uri = some d ∧ d.fileType = some .make ∧
        tree = SyntaxTree.parse parser d.text) ∧
    ∃ word builtin defined,
      Text.IsWordBefore (fun c => c ∉ ['$', '(', ')', ' ', '\t']) d.text.toList position word ∧
      w.completions uri position = builtin ++ defined ∧
      ((w.completions uri position).map (·.label)).Nodup ∧
      (∀ c ∈ w.completions uri position, word <+: c.label.toList) ∧
      Completion.Lists builtin (fun name =>
        word <+: name.toList ∧ (w.docs.describe? name .make).isSome = true) ∧
      Completion.Lists defined (fun name =>
        word <+: name.toList ∧ w.docs.describe? name .make = none ∧
          name ≠ "" ∧ name.toList.head? ≠ some '.' ∧ ∃ o, w.store.Defines name o) ∧
      ∀ c ∈ defined, ∃ o, w.store.IsFirstDefinition uri c.label o ∧ c.IsOf o := by
  refine ⟨fun _ _ => reached.tree?_eq_some, typed .make d.text position, _, _,
    isWordBefore_typed_make d.text position, completions_eq opened make position, ?_⟩
  have builtin := w.lists_builtinCompletions .make (typed .make d.text position)
  have defined := w.lists_definedCompletions uri (typed .make d.text position)
  refine ⟨?_, ?_, builtin, defined, fun _ => isFirstDefinition_of_mem_definedCompletions⟩
  · rw [completions_eq opened make, List.map_append]
    refine List.nodup_append.2 ⟨builtin.nodup, defined.nodup, ?_⟩
    rintro name inTable _ inFiles rfl
    have documented := ((builtin.complete name).1 inTable).2
    have undocumented := ((defined.complete name).1 inFiles).2.1
    rw [undocumented] at documented
    cases documented
  · intro c member
    rw [completions_eq opened make] at member
    rcases List.mem_append.1 member with inTable | inFiles
    · exact ((builtin.complete _).1 (List.mem_map_of_mem inTable)).1
    · exact ((defined.complete _).1 (List.mem_map_of_mem inFiles)).1

/-- Two make files that define `C`, one that defines `A`, and a table that has `AR` and `CC`. -/
def sharedName : Workspace :=
  let docs := compilerOnly.insert .make "AR" "Archiver."
  (((ofTable docs).opened oneAssignment "a.mk" none "C ::= 1\n" 1).opened
    oneAssignment "b.mk" none "C ::= 2\n" 1).opened oneAssignment "c.mk" none "A ::= 3\n" 1

/-- Behind the `C` of the second file the names with another start are left out.  In front of it all
names are offered. -/
theorem completions_sharedName :
    sharedName.completions "b.mk" ⟨0, 1⟩ =
      [⟨"CC", .variableName, "builtin variable", "C compiler."⟩,
        ⟨"C", .variableName, "variable", "<b.mk>\n```make\nC ::= 2\n```"⟩] ∧
    (sharedName.completions "b.mk" ⟨0, 0⟩).map (·.label) = ["AR", "CC", "A", "C"] ∧
    ((sharedName.completions "b.mk" ⟨0, 1⟩).map (·.label)).Nodup ∧
    ∃ c ∈ sharedName.completions "b.mk" ⟨0, 1⟩, ∃ o,
      sharedName.store.IsFirstDefinition "b.mk" "C" o ∧ c.IsOf o := by
  have reached : sharedName.Reachable oneAssignment :=
    .opened (.opened (.opened (.ofTable _) "a.mk" none "C ::= 1\n" 1)
      "b.mk" none "C ::= 2\n" 1) "c.mk" none "A ::= 3\n" 1
  have opened : sharedName.store.get? "b.mk" =
      some (.ofText oneAssignment "b.mk" none "C ::= 2\n" 1) := rfl
  obtain ⟨-, word, builtin, defined, -, parts, nodup, -, listed, -, first⟩ :=
    completions_make reached opened (by decide) ⟨0, 1⟩
  refine ⟨by decide +kernel, by decide +kernel, nodup, ?_⟩
  have labels : (sharedName.completions "b.mk" ⟨0, 1⟩).map (·.label) = ["CC", "C"] := by
    decide +kernel
  rw [parts, List.map_append] at labels
  have offered : "C" ∈ builtin.map (·.label) ++ defined.map (·.label) := by simp [labels]
  rcases List.mem_append.1 offered with inTable | inFiles
  · have documented := ((listed.complete "C").1 inTable).2
    exact absurd documented (by decide)
  · obtain ⟨c, member, label⟩ := List.mem_map.1 inFiles
    obtain ⟨o, isFirst, same⟩ := first c member
    rw [label] at isFirst
    exact ⟨c, by rw [parts]; exact List.mem_append_right _ member, o, isFirst, same⟩

end Workspace

end Autotools
