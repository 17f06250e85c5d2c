import Autotools.Symbol.Search

/-! Definitions and uses are found from each other.  A definition has one name, and a use mentions
one or more: a variable or a prerequisite mentions its text, and a call every segment of its
argument text.  The search from a use goes by the first name that it mentions, the search from a
definition finds the uses that mention its name anywhere.  So the two are converse where a use
mentions one name only. -/

namespace Autotools

open Syntax

/-- The names that a use with a text mentions. -/
def Family.mentions : Family → String → List String
  | .functions, text => Symbol.segments text
  | .variables, text | .targets, text => [text]

theorem Symbol.segments_ne_nil (text : String) : segments text ≠ [] := by
  intro none
  exact List.splitOn_ne_nil _ _ (List.map_eq_nil_iff.1 none)

theorem Symbol.role_ofNode (n : Node) : (Symbol.ofNode n).role = Role.ofNode n := by
  rw [Symbol.ofNode]
  split <;> simp_all

/-- An occurrence is a node of a document of the scope. -/
def Scope.Contains (scope : Scope) (o : Occurrence) : Prop :=
  ∃ tree, (o.uri, tree) ∈ scope ∧ o.node ∈ tree.nodes

namespace Query

variable {family : Family} {n : Node} {name : String}

/-! ### What is asked -/

theorem ofSymbol?_definition (h : Role.ofNode n = family.definition) (search : Search) :
    ofSymbol? (Symbol.ofNode n) search = some ⟨n.text, family, search⟩ := by
  rw [Symbol.ofNode, h]
  cases family <;> rfl

/-- A use asks for the first name that it mentions. -/
theorem ofSymbol?_reference (h : Role.ofNode n = family.reference) (search : Search) :
    ∃ name, ofSymbol? (Symbol.ofNode n) search = some ⟨name, family, search⟩ ∧
      (family.mentions n.text).head? = some name := by
  rw [Symbol.ofNode, h]
  cases family with
  | functions =>
    obtain ⟨first, rest, split⟩ := List.exists_cons_of_ne_nil (Symbol.segments_ne_nil n.text)
    refine ⟨first, ?_, ?_⟩
    · show some (Query.mk ((Symbol.segments n.text).headD "") .functions search) = _
      rw [split]
      rfl
    · show (Symbol.segments n.text).head? = _
      rw [split]
      rfl
  | _ => exact ⟨n.text, rfl, rfl⟩

/-! ### What is found -/

theorem mem_findAll {q : Query} {scope : Scope} {o : Occurrence} :
    o ∈ q.findAll scope ↔ scope.Contains o ∧ q.wants o.node = true := by
  unfold findAll Scope.Contains
  constructor
  · intro h
    obtain ⟨⟨uri, tree⟩, document, found⟩ := List.mem_flatMap.1 h
    obtain ⟨node, wanted, rfl⟩ := List.mem_map.1 found
    obtain ⟨inTree, wants⟩ := List.mem_filter.1 wanted
    exact ⟨⟨tree, document, inTree⟩, wants⟩
  · rintro ⟨⟨tree, document, inTree⟩, wants⟩
    refine List.mem_flatMap.2 ⟨(o.uri, tree), document, ?_⟩
    exact List.mem_map.2 ⟨o.node, List.mem_filter.2 ⟨inTree, wants⟩, rfl⟩

theorem wants_definition (h : Role.ofNode n = family.definition) :
    (Query.mk name family .definitions).wants n = true ↔ n.text = name := by
  cases family <;> simp [wants, role, h, Family.definition]

theorem wants_reference (h : Role.ofNode n = family.reference) :
    (Query.mk name family .references).wants n = true ↔ name ∈ family.mentions n.text := by
  cases family with
  | functions => simp [wants, role, h, Family.reference, Family.mentions]
  | _ =>
    rw [Family.mentions, List.mem_singleton, @eq_comm _ name]
    simp [wants, role, h, Family.reference]

end Query

namespace Scope

variable {scope : Scope} {family : Family} {r d : Occurrence} {name : String}

/-- The search for a name finds a definition if that is its name. -/
theorem mem_definitions_iff (hd : scope.Contains d)
    (definition : Role.ofNode d.node = family.definition) :
    d ∈ (Query.mk name family .definitions).findAll scope ↔ d.node.text = name := by
  rw [Query.mem_findAll, Query.wants_definition definition]
  exact and_iff_right hd

/-- The search for a name finds a use if it mentions the name. -/
theorem mem_references_iff (hr : scope.Contains r) (use : Role.ofNode r.node = family.reference) :
    r ∈ (Query.mk name family .references).findAll scope ↔
      name ∈ family.mentions r.node.text := by
  rw [Query.mem_findAll, Query.wants_reference use]
  exact and_iff_right hr

/-- Let `r` be a use and `d` a definition of one family in a scope.  For variables and targets, `d`
is among the definitions of `r` if and only if `r` is among the uses of `d`.  For functions the
first implies the second, and the second the first if the name of `d` is the first segment of the
text of `r`. -/
theorem definitions_converse_references (hr : scope.Contains r) (hd : scope.Contains d)
    (use : Role.ofNode r.node = family.reference)
    (definition : Role.ofNode d.node = family.definition) :
    ∃ definitions references,
      Query.ofSymbol? (Symbol.ofNode r.node) .definitions = some definitions ∧
      Query.ofSymbol? (Symbol.ofNode d.node) .references = some references ∧
      (family = .variables ∨ family = .targets →
        (d ∈ definitions.findAll scope ↔ r ∈ references.findAll scope)) ∧
      (family = .functions →
        (d ∈ definitions.findAll scope → r ∈ references.findAll scope) ∧
        ((Symbol.segments r.node.text).head? = some (Symbol.ofNode d.node).name →
          r ∈ references.findAll scope → d ∈ definitions.findAll scope)) := by
  obtain ⟨name, asked, first⟩ := Query.ofSymbol?_reference use .definitions
  refine ⟨⟨name, family, .definitions⟩, ⟨d.node.text, family, .references⟩, asked,
    Query.ofSymbol?_definition definition .references, ?_, ?_⟩
  · intro single
    rw [mem_definitions_iff hd definition, mem_references_iff hr use]
    have only : family.mentions r.node.text = [name] := by
      rcases single with rfl | rfl <;> exact congrArg (· :: []) (Option.some.inj first)
    rw [only, List.mem_singleton]
  · rintro rfl
    have named : (Symbol.ofNode d.node).name = d.node.text := by rw [Symbol.ofNode, definition]; rfl
    rw [mem_definitions_iff hd definition, mem_references_iff hr use, named]
    refine ⟨?_, ?_⟩
    · rintro rfl
      exact List.mem_of_head? first
    · intro leading _
      exact Option.some.inj (leading.symm.trans first)

/-- The tree of a call, from its argument text on. -/
def callAt (start stop : Nat) : Tree :=
  .node ⟨"function_call", true, false, false, start - 7, stop + 1, none⟩
    [.node ⟨"arguments", true, false, false, start, stop, none⟩
      [.node ⟨"text", true, false, false, start, stop, none⟩ []]]

/-- A make file that defines `greet`, calls it, and hands it to another function. -/
def greeting : SyntaxTree :=
  SyntaxTree.parse
    (fun _ => .node ⟨"makefile", true, false, false, 0, 55, none⟩
      [.node ⟨"define_directive", true, false, false, 0, 19, none⟩
        [.node ⟨"word", true, false, false, 7, 12, some "name"⟩ []],
       callAt 26 33, callAt 42 53])
    "define greet\nendef\n$(call greet,a)\n$(call other,greet)\n"

theorem exists_greeting {role : Role} {text : String} (i : Nat)
    (h : (greeting.nodes[i]?).map (fun n => (Role.ofNode n, n.text)) = some (role, text)) :
    ∃ o, Contains [("Makefile", greeting)] o ∧ Role.ofNode o.node = role ∧ o.node.text = text := by
  obtain ⟨node, there, same⟩ := Option.map_eq_some_iff.1 h
  obtain ⟨role, text⟩ := Prod.mk.inj same
  exact ⟨⟨"Makefile", node⟩, ⟨greeting, by simp, List.mem_of_getElem? there⟩, role, text⟩

/-- The call of `greet` and its definition find each other.  The definition also finds the call
that mentions `greet` behind another name, but is not found from there. -/
theorem converse_greeting :
    let scope : Scope := [("Makefile", greeting)]
    ∃ d direct nested definitions others references,
      Query.ofSymbol? (Symbol.ofNode direct.node) .definitions = some definitions ∧
      Query.ofSymbol? (Symbol.ofNode nested.node) .definitions = some others ∧
      Query.ofSymbol? (Symbol.ofNode d.node) .references = some references ∧
      d ∈ definitions.findAll scope ∧ direct ∈ references.findAll scope ∧
      nested ∈ references.findAll scope ∧ d ∉ others.findAll scope := by
  intro scope
  obtain ⟨d, hd, definition, greet⟩ :
      ∃ o, scope.Contains o ∧ Role.ofNode o.node = Family.functions.definition ∧
        o.node.text = "greet" := exists_greeting 2 (by decide +kernel)
  obtain ⟨direct, hDirect, call, callText⟩ :
      ∃ o, scope.Contains o ∧ Role.ofNode o.node = Family.functions.reference ∧
        o.node.text = "greet,a" := exists_greeting 5 (by decide +kernel)
  obtain ⟨nested, hNested, use, useText⟩ :
      ∃ o, scope.Contains o ∧ Role.ofNode o.node = Family.functions.reference ∧
        o.node.text = "other,greet" := exists_greeting 8 (by decide +kernel)
  obtain ⟨definitions, references, asksDefinitions, asksReferences, -, functions⟩ :=
    definitions_converse_references hDirect hd call definition
  obtain ⟨others, asksOthers, first⟩ := Query.ofSymbol?_reference use .definitions
  obtain rfl := Option.some.inj
    ((Query.ofSymbol?_definition definition .references).symm.trans asksReferences)
  have found (o : Occurrence) (ho : scope.Contains o)
      (use : Role.ofNode o.node = Family.functions.reference)
      (mentioned : "greet" ∈ Symbol.segments o.node.text) :
      o ∈ (Query.mk d.node.text .functions .references).findAll scope := by
    rw [mem_references_iff ho use, greet]
    exact mentioned
  have directFound := found direct hDirect call (by rw [callText]; decide)
  refine ⟨d, direct, nested, definitions, _, _, asksDefinitions, asksOthers, asksReferences, ?_,
    directFound, found nested hNested use (by rw [useText]; decide), ?_⟩
  · refine (functions rfl).2 ?_ directFound
    rw [callText, Symbol.ofNode, definition]
    exact congrArg some greet.symm
  · rw [mem_definitions_iff hd definition, greet]
    rintro rfl
    rw [useText] at first
    exact absurd first (by decide)

end Scope

end Autotools
