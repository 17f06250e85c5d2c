import Autotools.Proofs.Document.MakeTrees
import Autotools.Proofs.Symbol.Converse
import Autotools.Proofs.Workspace.Reachable
import Autotools.Workspace.Navigation

/-! The uses of a name.  A request for them searches every open make file once, the document of the
request first, so requests about the same name of a family from different places have the same
answer up to the order of the documents.  Definitions and uses have different roles, so that no
node is in an answer twice. -/

namespace Autotools

open Syntax

/-- Whether a node defines a name of a family. -/
def Syntax.Node.defines (family : Family) (name : String) (n : Node) : Bool :=
  Role.ofNode n = family.definition ∧ n.text = name

/-- Whether a node is a use that mentions a name of a family. -/
def Syntax.Node.uses (family : Family) (name : String) (n : Node) : Bool :=
  Role.ofNode n = family.reference ∧ name ∈ family.mentions n.text

theorem Family.definition_ne_reference (family : Family) :
    family.definition ≠ family.reference := by
  cases family <;> decide

namespace Query

variable {name : String} {family : Family}

theorem wants_eq_defines :
    (Query.mk name family .definitions).wants = Node.defines family name := by
  funext n
  by_cases role : Role.ofNode n = family.definition
  · rw [Bool.eq_iff_iff, wants_definition role]
    simp [Node.defines, role]
  · cases family <;> simp_all [wants, Query.role, Node.defines, Family.definition]

theorem wants_eq_uses : (Query.mk name family .references).wants = Node.uses family name := by
  funext n
  by_cases role : Role.ofNode n = family.reference
  · rw [Bool.eq_iff_iff, wants_reference role]
    simp [Node.uses, role]
  · cases family <;> simp_all [wants, Query.role, Node.uses, Family.reference]

theorem ofSymbol?_of_family {symbol : Symbol} (h : symbol.role.family? = some family)
    (search : Search) : ofSymbol? symbol search = some ⟨symbol.name, family, search⟩ := by
  rw [ofSymbol?, h]
  rfl

/-- A query finds the nodes that it wants. -/
theorem findAll_eq_places_wants (q : Query) (scope : Scope) :
    q.findAll scope = scope.places q.wants := rfl

end Query

namespace Store

variable {s : Store} {o : Occurrence}

/-- An occurrence is a node of an open make file. -/
def Holds (s : Store) (o : Occurrence) : Prop :=
  ∃ tree, s.tree? o.uri = some tree ∧ o.node ∈ tree.nodes

theorem mem_scope {uri : String} {tree : SyntaxTree} :
    (uri, tree) ∈ s.scope ↔ s.tree? uri = some tree := by
  have here : (uri, tree) ∈ s.scope ↔ (uri, tree) ∈ s.scope.filter (·.1 = uri) := by simp
  rw [here, scope_filter_eq]
  simp

theorem mem_makeTrees {first uri : String} {tree : SyntaxTree} :
    (uri, tree) ∈ s.makeTrees first ↔ s.tree? uri = some tree := by
  rw [makeTrees_eq, ← mem_scope]
  by_cases here : uri = first <;> simp [here]

/-- Whatever document a request is about, its scope has the nodes of all open make files. -/
theorem contains_makeTrees (first : String) : (s.makeTrees first).Contains o ↔ s.Holds o := by
  simp only [Scope.Contains, Holds, mem_makeTrees]

/-- The definitions of a name in the scope of a request about `first`. -/
def definitionsFrom (s : Store) (first : String) (family : Family) (name : String) :
    List Occurrence :=
  (s.makeTrees first).places (Node.defines family name)

/-- The uses of a name in the scope of a request about `first`. -/
def usesFrom (s : Store) (first : String) (family : Family) (name : String) : List Occurrence :=
  (s.makeTrees first).places (Node.uses family name)

variable {first : String} {family : Family} {name : String}

theorem mem_definitionsFrom :
    o ∈ s.definitionsFrom first family name ↔
      s.Holds o ∧ Role.ofNode o.node = family.definition ∧ o.node.text = name := by
  rw [definitionsFrom, ← Query.wants_eq_defines, ← Query.findAll_eq_places_wants,
    Query.mem_findAll, contains_makeTrees, Query.wants_eq_defines]
  simp [Node.defines]

theorem mem_usesFrom :
    o ∈ s.usesFrom first family name ↔
      s.Holds o ∧ Role.ofNode o.node = family.reference ∧
        name ∈ family.mentions o.node.text := by
  rw [usesFrom, ← Query.wants_eq_uses, ← Query.findAll_eq_places_wants,
    Query.mem_findAll, contains_makeTrees, Query.wants_eq_uses]
  simp [Node.uses]

/-- The search from one document finds what the search from another one finds. -/
theorem perm_places_makeTrees_of (s : Store) (first second : String) (p : Node → Bool) :
    ((s.makeTrees first).places p).Perm ((s.makeTrees second).places p) :=
  (s.perm_places_makeTrees first p).trans (s.perm_places_makeTrees second p).symm

theorem nodup_places_makeTrees (s : Store) (first : String) (p : Node → Bool) :
    ((s.makeTrees first).places p).Nodup :=
  (s.perm_places_makeTrees first p).nodup_iff.2 (Scope.nodup_places s.scope_pairwise p)

/-- No node is both a definition and a use. -/
theorem nodup_definitionsFrom_append_usesFrom :
    (s.definitionsFrom first family name ++ s.usesFrom first family name).Nodup := by
  refine List.nodup_append.2
    ⟨s.nodup_places_makeTrees first _, s.nodup_places_makeTrees first _, ?_⟩
  rintro o definition _ use rfl
  have defined := (mem_definitionsFrom.1 definition).2.1
  have used := (mem_usesFrom.1 use).2.1
  exact family.definition_ne_reference (defined.symm.trans used)

end Store

namespace Workspace

variable {parser : Parser} {w : Workspace} {uri name : String} {position : Point}
  {family : Family}

/-- At a position of an open make file there is a node for a name of a family, which it defines or
uses. -/
def NamedAt (w : Workspace) (parser : Parser) (uri : String) (position : Point) (family : Family)
    (name : String) : Prop :=
  ∃ d node, w.store.get? uri = some d ∧ d.fileType = some .make ∧
    (SyntaxTree.parse parser d.text).nodeAtPoint? position = some node ∧
    (Symbol.ofNode node).role.family? = some family ∧ (Symbol.ofNode node).name = name

/-- The answer is told by the name and by the document of the request. -/
theorem references_eq (reached : w.Reachable parser)
    (named : w.NamedAt parser uri position family name) (withDefinitions : Bool) :
    w.references uri position withDefinitions =
      ((if withDefinitions then w.store.definitionsFrom uri family name else []) ++
        w.store.usesFrom uri family name).map (·.location) := by
  obtain ⟨d, node, opened, make, there, inFamily, rfl⟩ := named
  rw [references, View.references, reached.makeNode?_eq opened make, there]
  simp only [Option.map_some, Query.ofSymbol?_of_family inFamily, Query.findAll_eq_places_wants,
    Query.wants_eq_defines, Query.wants_eq_uses]
  rfl

/-- In every reachable workspace, let two positions in open make files have nodes for the same name
of a family, be they definitions or uses.  The answers to a request for the uses from the two have
the same locations, in the same order if the document is the same.  With definitions, an answer is
the list of all definitions of the name before the answer without them, which is the list of all
uses, and no node is in the two lists twice. -/
theorem references_of_namedAt (reached : w.Reachable parser) {uri' : String} {position' : Point}
    (here : w.NamedAt parser uri position family name)
    (there : w.NamedAt parser uri' position' family name) :
    (∀ withDefinitions,
      (w.references uri position withDefinitions).Perm
        (w.references uri' position' withDefinitions) ∧
      (uri = uri' → w.references uri position withDefinitions =
        w.references uri' position' withDefinitions)) ∧
    let definitions := w.store.definitionsFrom uri family name
    let uses := w.store.usesFrom uri family name
    w.references uri position true =
      definitions.map (·.location) ++ w.references uri position false ∧
    w.references uri position false = uses.map (·.location) ∧
    (definitions ++ uses).Nodup ∧
    (∀ o, o ∈ definitions ↔
      w.store.Holds o ∧ Role.ofNode o.node = family.definition ∧ o.node.text = name) ∧
    ∀ o, o ∈ uses ↔
      w.store.Holds o ∧ Role.ofNode o.node = family.reference ∧
        name ∈ family.mentions o.node.text := by
  refine ⟨?_, ?_, ?_, Store.nodup_definitionsFrom_append_usesFrom,
    fun _ => Store.mem_definitionsFrom, fun _ => Store.mem_usesFrom⟩
  · intro withDefinitions
    rw [references_eq reached here, references_eq reached there]
    refine ⟨List.Perm.map _ (List.Perm.append ?_ (Store.perm_places_makeTrees_of ..)), ?_⟩
    · cases withDefinitions with
      | false => exact .refl _
      | true => exact Store.perm_places_makeTrees_of ..
    · rintro rfl
      rfl
  · rw [references_eq reached here, references_eq reached here, if_pos rfl, List.map_append]
    rfl
  · rw [references_eq reached here]
    rfl

/-- A parser for the text `x = $(x)`. -/
def selfReference : Parser := fun _ =>
  .node ⟨"makefile", true, false, false, 0, 9, none⟩
    [.node ⟨"variable_assignment", true, false, false, 0, 9, none⟩
      [.node ⟨"word", true, false, false, 0, 1, some "name"⟩ [],
       .node ⟨"=", false, false, false, 2, 3, some "operator"⟩ [],
       .node ⟨"text", true, false, false, 4, 8, some "value"⟩
        [.node ⟨"variable_reference", true, false, false, 4, 8, none⟩
          [.node ⟨"$", false, false, false, 4, 5, none⟩ [],
           .node ⟨"(", false, false, false, 5, 6, none⟩ [],
           .node ⟨"word", true, false, false, 6, 7, none⟩ [],
           .node ⟨")", false, false, false, 7, 8, none⟩ []]]]]

/-- Two make files that define and use the same variable. -/
def sharedVariable : Workspace :=
  ((ofTable default).opened selfReference "a.mk" none "x = $(x)\n" 1).opened
    selfReference "b.mk" none "x = $(x)\n" 1

theorem namedAt_sharedVariable {uri : String} {position : Point}
    (opened : sharedVariable.store.get? uri =
      some (.ofText selfReference uri none "x = $(x)\n" 1))
    (make : FileType.detect? uri = some .make)
    (symbol : ((SyntaxTree.parse selfReference "x = $(x)\n").nodeAtPoint? position).map
      (fun n => ((Symbol.ofNode n).role.family?, (Symbol.ofNode n).name)) =
        some (some .variables, "x")) :
    sharedVariable.NamedAt selfReference uri position .variables "x" := by
  obtain ⟨node, there, same⟩ := Option.map_eq_some_iff.1 symbol
  obtain ⟨family, name⟩ := Prod.mk.inj same
  exact ⟨_, node, opened, make, there, family, name⟩

theorem references_sharedVariable :
    (sharedVariable.references "a.mk" ⟨0, 0⟩ true).Perm
      (sharedVariable.references "b.mk" ⟨0, 6⟩ true) ∧
    sharedVariable.references "a.mk" ⟨0, 0⟩ true =
      sharedVariable.references "a.mk" ⟨0, 6⟩ true ∧
    sharedVariable.references "a.mk" ⟨0, 0⟩ true =
      [⟨.document "a.mk", ⟨0, 0⟩, ⟨0, 1⟩⟩, ⟨.document "b.mk", ⟨0, 0⟩, ⟨0, 1⟩⟩,
        ⟨.document "a.mk", ⟨0, 6⟩, ⟨0, 7⟩⟩, ⟨.document "b.mk", ⟨0, 6⟩, ⟨0, 7⟩⟩] ∧
    (sharedVariable.references "b.mk" ⟨0, 6⟩ true).map (·.place) =
      [.document "b.mk", .document "a.mk", .document "b.mk", .document "a.mk"] := by
  have reached : sharedVariable.Reachable selfReference :=
    .opened (.opened (.ofTable default) "a.mk" none "x = $(x)\n" 1) "b.mk" none "x = $(x)\n" 1
  have definition : sharedVariable.NamedAt selfReference "a.mk" ⟨0, 0⟩ .variables "x" :=
    namedAt_sharedVariable rfl (by decide) (by decide +kernel)
  have use : sharedVariable.NamedAt selfReference "a.mk" ⟨0, 6⟩ .variables "x" :=
    namedAt_sharedVariable rfl (by decide) (by decide +kernel)
  have elsewhere : sharedVariable.NamedAt selfReference "b.mk" ⟨0, 6⟩ .variables "x" :=
    namedAt_sharedVariable rfl (by decide) (by decide +kernel)
  refine ⟨((references_of_namedAt reached definition elsewhere).1 true).1,
    ((references_of_namedAt reached definition use).1 true).2 rfl, ?_, ?_⟩
  · decide +kernel
  · decide +kernel

end Workspace

end Autotools
