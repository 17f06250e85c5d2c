import Autotools.Proofs.Text.Rows
import Autotools.Proofs.Workspace.References
import Autotools.Workspace.Completion

/-! Requests about no place of a document.  For a URI that is not open and for a document of no
known type nothing is shown, found or offered.  In a row past the last one of a document nothing is
shown or found either, but completions are offered as for an empty word: every name of the table,
and in a make file every name that the open make files define. -/

namespace Autotools

open Syntax

theorem Text.count_closed_le (s : List Char) :
    (Text.closed s).count '\n' ≤ s.count '\n' + 1 := by
  rw [closed]
  split
  · omega
  · simp

/-- Closing a text adds at most one row to it. -/
theorem Syntax.SyntaxTree.nodeAtPoint?_parse_eq_none {parser : Parser} {text : String} {p : Point}
    (past : text.toList.count '\n' + 1 < p.row.toNat) :
    (SyntaxTree.parse parser text).nodeAtPoint? p = none := by
  have rows : (Text.rows (closedSource text).toList).length ≤ p.row.toNat := by
    have := Text.count_closed_le text.toList
    rw [Text.length_rows, closedSource, String.toList_ofList]
    omega
  rw [nodeAtPoint?, Position.offsetAt?, parse, Position.offsetIn_eq_none rows, Option.bind_none]

/-! ### Names on offer -/

theorem SortedMap.insert_ne_empty {β : Type} (m : SortedMap β) (key : String) (value : β) :
    m.insert key value ≠ .empty := by
  intro none
  have bound : (m.insert key value).get? key = some value := by rw [get?_insert, if_pos rfl]
  rw [none, get?_empty] at bound
  cases bound

theorem SortedMap.values_eq_nil {β : Type} {m : SortedMap β} :
    m.values = [] ↔ m = .empty := by
  rw [values, List.map_eq_nil_iff]
  exact ⟨fun none => eq_of_toList_eq none, fun none => by rw [none]; rfl⟩

theorem Symbol.ofNode_of_isDefinition {n : Node} (h : (Role.ofNode n).isDefinition = true) :
    Symbol.ofNode n = ⟨n.text, Role.ofNode n⟩ := by
  rw [Symbol.ofNode]
  split
  · simp_all [Role.isDefinition]
  · rfl

/-- All nodes of the open make files, in the order in which a request about `first` meets them. -/
def Store.occurrences (s : Store) (first : String) : List Occurrence :=
  (s.makeTrees first).flatMap fun document => document.2.nodes.map fun node => ⟨document.1, node⟩

theorem Store.mem_occurrences {s : Store} {first : String} {o : Occurrence} :
    o ∈ s.occurrences first ↔ s.Holds o := by
  refine Iff.trans ?_ (contains_makeTrees first)
  constructor
  · intro h
    obtain ⟨⟨uri, tree⟩, document, found⟩ := List.mem_flatMap.1 h
    obtain ⟨node, inTree, rfl⟩ := List.mem_map.1 found
    exact ⟨tree, document, inTree⟩
  · rintro ⟨tree, document, inTree⟩
    exact List.mem_flatMap.2 ⟨_, document, List.mem_map.2 ⟨o.node, inTree, rfl⟩⟩

namespace Completion

/-- A node defines a name that completions may offer. -/
def IsOffer (n : Node) : Prop := (Role.ofNode n).isDefinition = true ∧ isOffered n.text = true

theorem isNone_definedKind? (role : Role) :
    (definedKind? role).isNone = !role.isDefinition := by
  cases role <;> rfl

theorem ofDefinition?_of_isDefinition {o : Occurrence}
    (definition : (Role.ofNode o.node).isDefinition = true) :
    (ofDefinition? o).isSome = isOffered o.node.text := by
  have kind : (definedKind? (Role.ofNode o.node)).isSome = true := by
    have := isNone_definedKind? (Role.ofNode o.node)
    cases known : definedKind? (Role.ofNode o.node) <;> simp_all
  rw [ofDefinition?, Symbol.ofNode_of_isDefinition definition]
  cases isOffered o.node.text <;> simp [kind]

theorem addDefinition_eq_empty {found : SortedMap Completion} {o : Occurrence} :
    addDefinition found o = .empty ↔ found = .empty ∧ ¬IsOffer o.node := by
  rw [addDefinition, isNone_definedKind?, IsOffer]
  cases definition : (Role.ofNode o.node).isDefinition with
  | false => simp
  | true =>
    have offered := ofDefinition?_of_isDefinition definition
    cases known : (found.get? o.text).isSome with
    | true =>
      have some : found ≠ .empty := by
        rintro rfl
        cases known
      simp [some]
    | false =>
      cases made : ofDefinition? o with
      | none =>
        rw [made] at offered
        simp [← offered]
      | some completion =>
        rw [made] at offered
        simp [← offered, SortedMap.insert_ne_empty]

/-- Nothing is collected if and only if no node defines a name that may be offered. -/
theorem foldl_addDefinition_eq_empty {found : SortedMap Completion} {places : List Occurrence} :
    places.foldl addDefinition found = .empty ↔
      found = .empty ∧ ∀ o ∈ places, ¬IsOffer o.node := by
  induction places generalizing found with
  | nil => simp
  | cons o places ih =>
    rw [List.foldl_cons, ih, addDefinition_eq_empty, List.forall_mem_cons, and_assoc]

end Completion

namespace Workspace

variable {parser : Parser} {w : Workspace} {uri : String} {d : Document} {position : Point}
  {type : FileType}

theorem definedNames_eq (w : Workspace) (uri : String) :
    w.view.definedNames uri = (w.store.occurrences uri).foldl Completion.addDefinition .empty := rfl

theorem definedNames_eq_empty (w : Workspace) (uri : String) :
    w.view.definedNames uri = .empty ↔ ∀ o, w.store.Holds o → ¬Completion.IsOffer o.node := by
  rw [definedNames_eq, Completion.foldl_addDefinition_eq_empty]
  simp only [Store.mem_occurrences, true_and]

theorem typed_eq_nil {text : String} (past : text.toList.count '\n' + 1 < position.row.toNat) :
    typed type text position = [] := by
  rw [typed, Text.row?_eq_none_iff.2 (Nat.lt_of_succ_lt past)]
  rfl

/-- Only make files have nodes to ask about, and only in their rows. -/
theorem Reachable.makeNode?_eq_none (h : w.Reachable parser)
    (outside : ∀ d, w.store.get? uri = some d → d.fileType = some .make →
      d.text.toList.count '\n' + 1 < position.row.toNat) :
    w.view.makeNode? uri position = none := by
  cases opened : w.store.get? uri with
  | none => rw [View.makeNode?, document?_view, opened]; rfl
  | some d =>
    by_cases make : d.fileType = some .make
    · rw [h.makeNode?_eq opened make,
        SyntaxTree.nodeAtPoint?_parse_eq_none (outside d opened make), Option.map_none]
    · have tree : d.tree = none := by
        rw [h.eq_ofText opened] at make ⊢
        exact if_neg make
      rw [View.makeNode?, document?_view, opened]
      simp [tree]

/-- A request is about no place: its URI is not open, or the document is of no known type, or the
row is past the last one of the document. -/
def Outside (w : Workspace) (uri : String) (position : Point) : Prop :=
  w.store.get? uri = none ∨ ∃ d, w.store.get? uri = some d ∧
    (d.fileType = none ∨ d.text.toList.count '\n' + 1 < position.row.toNat)

/-- Nothing is shown and nothing is found at a position. -/
structure Silent (w : Workspace) (fs : FileSystem) (uri : String) (position : Point) : Prop where
  hover : w.hover? uri position = none
  definition : w.definition fs uri position = []
  references : ∀ withDefinitions, w.references uri position withDefinitions = []

/-- There is no name that could complete an empty word in a document. -/
def NothingToOffer (w : Workspace) (d : Document) : Prop :=
  ∀ type, d.fileType = some type → w.docs.entries type = .empty ∧
    (type = .make → ∀ o, w.store.Holds o → ¬Completion.IsOffer o.node)

theorem Outside.past (outside : w.Outside uri position) (opened : w.store.get? uri = some d)
    (typed : d.fileType = some type) : d.text.toList.count '\n' + 1 < position.row.toNat := by
  rcases outside with closed | ⟨d', opened', untyped | past⟩
  · rw [opened] at closed
    cases closed
  · rw [Option.some.inj (opened.symm.trans opened'), untyped] at typed
    cases typed
  · rwa [Option.some.inj (opened.symm.trans opened')]

theorem Outside.silent (reached : w.Reachable parser) (outside : w.Outside uri position)
    (fs : FileSystem) : w.Silent fs uri position := by
  have none : w.view.makeNode? uri position = none :=
    reached.makeNode?_eq_none fun _ opened make => outside.past opened make
  constructor
  · rw [hover?, View.hover?, document?_view]
    cases opened : w.store.get? uri with
    | none => rfl
    | some d =>
      cases typed : d.fileType with
      | none => simp only [typed]
      | some type =>
        cases type with
        | make => simp only [typed, none, Option.bind_none]
        | config =>
          have row := Text.row?_eq_none_iff.2 (Nat.lt_of_succ_lt (outside.past opened typed))
          simp [typed, View.configHover?, macroAt?, row]
  · rw [definition, View.definition, none]
  · intro withDefinitions
    rw [references, View.references, none]

theorem builtinCompletions_eq_nil :
    w.view.builtinCompletions type [] = [] ↔ w.docs.entries type = .empty := by
  rw [← SortedMap.values_eq_nil]
  simp [View.builtinCompletions, SortedMap.values]

theorem definedCompletions_eq_nil (undocumented : w.docs.entries .make = .empty) :
    w.view.definedCompletions uri [] = [] ↔
      ∀ o, w.store.Holds o → ¬Completion.IsOffer o.node := by
  rw [← w.definedNames_eq_empty uri, ← SortedMap.values_eq_nil]
  simp [View.definedCompletions, Table.describe?, undocumented]

/-- Past the last row, the word to complete is empty, and every name completes it. -/
theorem completions_past (opened : w.store.get? uri = some d) (known : d.fileType = some type)
    (past : d.text.toList.count '\n' + 1 < position.row.toNat) :
    w.completions uri position = [] ↔ w.NothingToOffer d := by
  have all : w.NothingToOffer d ↔ w.docs.entries type = .empty ∧
      (type = .make → ∀ o, w.store.Holds o → ¬Completion.IsOffer o.node) := by
    simp [NothingToOffer, known]
  rw [all, completions, View.completions, document?_view, opened]
  simp only [known, typed_eq_nil past, List.append_eq_nil_iff, builtinCompletions_eq_nil]
  refine and_congr_right fun undocumented => ?_
  cases type with
  | config => simp
  | make => simpa using definedCompletions_eq_nil undocumented

/-- In every reachable workspace, for a request about no place nothing is shown and nothing is
found, and completions are offered if and only if the document is open, has a known type, and there
is some name to offer in it. -/
theorem requests_outside (reached : w.Reachable parser) (fs : FileSystem)
    (outside : w.Outside uri position) :
    w.Silent fs uri position ∧
      (w.completions uri position = [] ↔
        ∀ d, w.store.get? uri = some d → w.NothingToOffer d) := by
  refine ⟨outside.silent reached fs, ?_⟩
  cases opened : w.store.get? uri with
  | none => simp [completions, View.completions, opened]
  | some d =>
    simp only [Option.some.injEq, forall_eq']
    cases typed : d.fileType with
    | none => simp [completions, View.completions, opened, typed, NothingToOffer]
    | some type => exact completions_past opened typed (outside.past opened typed)

/-- The table with the one name `CC`. -/
def compilerOnly : Table := Table.empty.insert .make "CC" "C compiler."

/-- A parser for the text `A ::= 1`. -/
def oneAssignment : Parser := fun _ =>
  .node ⟨"makefile", true, false, false, 0, 8, none⟩
    [.node ⟨"variable_assignment", true, false, false, 0, 8, none⟩
      [.node ⟨"word", true, false, false, 0, 1, some "name"⟩ [],
       .node ⟨"::=", false, false, false, 2, 5, some "operator"⟩ [],
       .node ⟨"text", true, false, false, 6, 7, some "value"⟩ []]]

/-- No macro is in the table, so nothing completes the empty word past the end of `configure.ac`. -/
theorem requests_outside_configure :
    let w := (ofTable compilerOnly).opened oneAssignment "configure.ac" none "AC_INIT\n" 1
    w.Outside "configure.ac" ⟨9, 0⟩ ∧ w.Silent default "configure.ac" ⟨9, 0⟩ ∧
      w.completions "configure.ac" ⟨9, 0⟩ = [] := by
  intro w
  have reached : w.Reachable oneAssignment :=
    .opened (.ofTable compilerOnly) "configure.ac" none "AC_INIT\n" 1
  have opened : w.store.get? "configure.ac" =
      some (.ofText oneAssignment "configure.ac" none "AC_INIT\n" 1) := rfl
  have outside : w.Outside "configure.ac" ⟨9, 0⟩ := .inr ⟨_, opened, .inr (by decide)⟩
  obtain ⟨silent, offers⟩ := requests_outside reached default outside
  refine ⟨outside, silent, offers.2 ?_⟩
  intro d same type typed
  obtain rfl := Option.some.inj (opened.symm.trans same)
  obtain rfl : FileType.config = type := Option.some.inj typed
  exact ⟨rfl, fun make => by cases make⟩

/-- Past the end of a make file all names are offered, so that such a request is not without an
answer. -/
theorem completions_pastEnd :
    let w := (ofTable compilerOnly).opened oneAssignment "file:///project/Makefile" none
      "A ::= 1\n" 1
    w.Reachable oneAssignment ∧ w.Outside "file:///project/Makefile" ⟨9, 0⟩ ∧
      (w.completions "file:///project/Makefile" ⟨9, 0⟩).map (·.label) = ["CC", "A"] := by
  intro w
  refine ⟨.opened (.ofTable compilerOnly) _ none "A ::= 1\n" 1, .inr ⟨_, rfl, .inr (by decide)⟩, ?_⟩
  decide +kernel

end Workspace

end Autotools
