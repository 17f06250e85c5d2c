import Autotools.Proofs.Symbol.Effective
import Autotools.Proofs.Symbol.Statement
import Autotools.Proofs.Workspace.References
import Autotools.Workspace.Hover

/-! What is shown for a use of a name.  A hover and a request for the definitions at the same
position look for the same places in the same order, one from the document that it finds and one
from the URI that it is given.  So a hover shows the definitions that the request answers with, and
turns to the table of built-in names only when there are none. -/

namespace Autotools

open Syntax

namespace Query

/-- Moving the definition in effect to the front loses nothing. -/
theorem perm_effectiveFirst (found : List Occurrence) : (effectiveFirst found).Perm found := by
  cases found with
  | nil => exact .refl _
  | cons first rest =>
    rw [effectiveFirst]
    generalize (fun o : Occurrence => o.uri != first.uri) = elsewhere
    have split := List.takeWhile_append_dropWhile (p := elsewhere) (l := (first :: rest).reverse)
    cases behind : (first :: rest).reverse.dropWhile elsewhere with
    | nil => exact .refl _
    | cons last earlier =>
      rw [behind] at split
      have forward : first :: rest =
          earlier.reverse ++ last :: ((first :: rest).reverse.takeWhile elsewhere).reverse := by
        simpa using (congrArg List.reverse split).symm
      conv => rhs; rw [forward]
      exact List.perm_middle.symm

theorem perm_definitions (q : Query) (scope : Scope) :
    (q.definitions scope).Perm (scope.places (Node.defines q.family q.name)) := by
  rw [← wants_eq_defines, ← findAll_eq_places_wants, definitions]
  cases q.family with
  | targets => exact perm_effectiveFirst _
  | _ => exact .refl _

end Query

theorem Family.family?_reference (family : Family) : family.reference.family? = some family := by
  cases family <;> rfl

theorem Family.isDefinition_reference (family : Family) :
    family.reference.isDefinition = false := by
  cases family <;> rfl

theorem Family.reference_ne_pathLiteral (family : Family) : family.reference ≠ .pathLiteral := by
  cases family <;> decide

/-- Of the nodes above a use, only a reference and the directives that name a variable admit a
description. -/
theorem Workspace.hasBuiltins_of_use {n : Node} {family : Family}
    (use : Role.ofNode n = family.reference) :
    n.parentKind?.any hasBuiltins = true ↔
      n.parentKind? ∈ [some Kind.variableReference, some .ifdefDirective, some .ifndefDirective,
        some .undefineDirective] := by
  have each : ∀ kind ∈ family.reference.parentKinds,
      ((some kind).any hasBuiltins = true ↔
        some kind ∈ [some Kind.variableReference, some .ifdefDirective, some .ifndefDirective,
          some .undefineDirective]) := by
    cases family <;> decide
  obtain ⟨kind, listed, above⟩ := Role.parentKind?_of_ofNode use family.reference_ne_other
  rw [above]
  exact each kind listed

namespace Workspace

variable {parser : Parser} {w : Workspace} {uri name : String} {d : Document} {position : Point}
  {node : Node} {family : Family}

theorem Reachable.uri_eq (h : w.Reachable parser) (opened : w.store.get? uri = some d) :
    d.uri = uri := by
  rw [h.eq_ofText opened]
  rfl

/-- A use is looked up by the first name that it mentions. -/
theorem definitionsOfUse_eq (use : Role.ofNode node = family.reference) (uri : String) :
    w.view.definitionsOfUse uri node =
      (Query.mk (Symbol.ofNode node).name family .definitions).definitions
        (w.store.makeTrees uri) := by
  have role : (Symbol.ofNode node).role = family.reference := (Symbol.role_ofNode _).trans use
  rw [View.definitionsOfUse, role, family.isDefinition_reference,
    Query.ofSymbol?_of_family (role ▸ family.family?_reference)]
  rfl

theorem definition_of_use (reached : w.Reachable parser) (fs : FileSystem)
    (opened : w.store.get? uri = some d) (make : d.fileType = some .make)
    (there : (SyntaxTree.parse parser d.text).nodeAtPoint? position = some node)
    (use : Role.ofNode node = family.reference) :
    w.definition fs uri position = (w.view.definitionsOfUse uri node).map (·.location) := by
  have role : (Symbol.ofNode node).role = family.reference := (Symbol.role_ofNode _).trans use
  rw [definitionsOfUse_eq use, definition, View.definition, reached.makeNode?_eq opened make, there]
  simp only [Option.map_some, role, if_neg family.reference_ne_pathLiteral,
    Query.ofSymbol?_of_family (role ▸ family.family?_reference), trees_view]

theorem hover?_of_make (reached : w.Reachable parser) (opened : w.store.get? uri = some d)
    (make : d.fileType = some .make)
    (there : (SyntaxTree.parse parser d.text).nodeAtPoint? position = some node) :
    w.hover? uri position = w.view.makeHover? uri node := by
  rw [hover?, View.hover?, document?_view, opened]
  simp only [make]
  rw [reached.makeNode?_eq opened make, there, Option.map_some, Option.bind_some,
    reached.uri_eq opened]

/-- In every reachable workspace, at a use in an open make file, let `found` be what a request for
the definitions answers with, as nodes: all definitions of the name in the open make files, each
once.  If there are any, a hover shows for each of them in the same order its URI and the statement
it belongs to, without blanks at its end: the assignment, the block or the rule that defines the
name, with a directive in front of it.  If there are none, it shows the description of the text of
the node, if the node above admits one and the table has it, and otherwise nothing; a reference and
the directives that name a variable admit one, and nothing else above a use does.  In both cases it
is about the range of the node. -/
theorem hover?_of_use (reached : w.Reachable parser) (fs : FileSystem)
    (opened : w.store.get? uri = some d) (make : d.fileType = some .make)
    (there : (SyntaxTree.parse parser d.text).nodeAtPoint? position = some node)
    (use : Role.ofNode node = family.reference) :
    ∃ found : List Occurrence,
      w.definition fs uri position =
        found.map (fun o => ⟨.document o.uri, o.node.range⟩) ∧ found.Nodup ∧
      (∀ o, o ∈ found ↔ w.store.Holds o ∧ Role.ofNode o.node = family.definition ∧
        o.node.text = (Symbol.ofNode node).name) ∧
      (∀ o ∈ found, ∃ body, Statement.Defines family o.node body ∧
        Statement.Whole body (Statement.ofNode o.node)) ∧
      (w.definition fs uri position ≠ [] →
        w.hover? uri position = some {
          contents := "\n".intercalate (found.map fun o =>
            "<" ++ o.uri ++ ">\n```make\n" ++
              String.ofList (Text.trimEnd (Statement.ofNode o.node).text.toList) ++ "\n```")
          range := node.range }) ∧
      (w.definition fs uri position = [] →
        w.hover? uri position =
          if node.parentKind?.any hasBuiltins then
            (w.docs.describe? node.text .make).map fun contents => ⟨contents, node.range⟩
          else none) ∧
      (node.parentKind?.any hasBuiltins = true ↔
        node.parentKind? ∈ [some Kind.variableReference, some .ifdefDirective,
          some .ifndefDirective, some .undefineDirective]) := by
  have answer := definition_of_use reached fs opened make there use
  have shown := hover?_of_make reached opened make there
  have all : (w.view.definitionsOfUse uri node).Perm
      (w.store.definitionsFrom uri family (Symbol.ofNode node).name) := by
    rw [definitionsOfUse_eq use]
    exact Query.perm_definitions ..
  have sites (o : Occurrence) : o ∈ w.view.definitionsOfUse uri node ↔
      w.store.Holds o ∧ Role.ofNode o.node = family.definition ∧
        o.node.text = (Symbol.ofNode node).name := by
    rw [all.mem_iff, Store.mem_definitionsFrom]
  refine ⟨w.view.definitionsOfUse uri node, answer,
    all.nodup_iff.2 (w.store.nodup_places_makeTrees uri _), sites, ?_, ?_, ?_,
    hasBuiltins_of_use use⟩
  · intro o member
    have defines := ((sites o).1 member).2.1
    exact ⟨_, Statement.defines_base defines, Statement.whole_ofNode o.node⟩
  · intro some
    rw [answer] at some
    rw [shown, View.makeHover?]
    split
    · rename_i none
      exact absurd (by rw [none]; rfl) some
    · rfl
  · intro none
    rw [answer, List.map_eq_nil_iff] at none
    rw [shown, View.makeHover?, none]
    simp only [View.builtin?]
    split <;> rfl

/-- A parser for the texts `export x = 1` and `y: CC $(CC)`, and for the text of `selfReference`. -/
def threeTexts : Parser := fun text =>
  if text = "export x = 1\n" then
    .node ⟨"makefile", true, false, false, 0, 13, none⟩
      [.node ⟨"export_directive", true, false, false, 0, 13, none⟩
        [.node ⟨"export", false, false, false, 0, 6, none⟩ [],
         .node ⟨"variable_assignment", true, false, false, 7, 13, none⟩
          [.node ⟨"word", true, false, false, 7, 8, some "name"⟩ [],
           .node ⟨"=", false, false, false, 9, 10, some "operator"⟩ [],
           .node ⟨"text", true, false, false, 11, 12, some "value"⟩ []]]]
  else if text = "y: CC $(CC)\n" then
    .node ⟨"makefile", true, false, false, 0, 12, none⟩
      [.node ⟨"rule", true, false, false, 0, 12, none⟩
        [.node ⟨"targets", true, false, false, 0, 1, none⟩
          [.node ⟨"word", true, false, false, 0, 1, none⟩ []],
         .node ⟨":", false, false, false, 1, 2, none⟩ [],
         .node ⟨"prerequisites", true, false, false, 3, 11, some "normal"⟩
          [.node ⟨"word", true, false, false, 3, 5, none⟩ [],
           .node ⟨"variable_reference", true, false, false, 6, 11, none⟩
            [.node ⟨"$", false, false, false, 6, 7, none⟩ [],
             .node ⟨"(", false, false, false, 7, 8, none⟩ [],
             .node ⟨"word", true, false, false, 8, 10, none⟩ [],
             .node ⟨")", false, false, false, 10, 11, none⟩ []]]]]
  else selfReference text

/-- Two make files that define a variable, one that uses the name `CC`, and a table that has it. -/
def exportedVariable : Workspace :=
  let docs := Table.empty.insert .make "CC" "C compiler."
  (((ofTable docs).opened threeTexts "a.mk" none "export x = 1\n" 1).opened
    threeTexts "b.mk" none "x = $(x)\n" 1).opened threeTexts "c.mk" none "y: CC $(CC)\n" 1

/-- From the second file, the use of the variable shows the assignment there before the one in the
first file, which is shown with its directive.  A name that is not defined shows its description
in a reference, but not as a prerequisite. -/
theorem hover?_sharedVariable :
    exportedVariable.definition default "b.mk" ⟨0, 6⟩ =
      [⟨.document "b.mk", ⟨0, 0⟩, ⟨0, 1⟩⟩, ⟨.document "a.mk", ⟨0, 7⟩, ⟨0, 8⟩⟩] ∧
    exportedVariable.hover? "b.mk" ⟨0, 6⟩ = some
      ⟨"<b.mk>\n```make\nx = $(x)\n```\n<a.mk>\n```make\nexport x = 1\n```", ⟨0, 6⟩, ⟨0, 7⟩⟩ ∧
    exportedVariable.definition default "c.mk" ⟨0, 8⟩ = [] ∧
    exportedVariable.hover? "c.mk" ⟨0, 8⟩ = some ⟨"C compiler.", ⟨0, 8⟩, ⟨0, 10⟩⟩ ∧
    exportedVariable.definition default "c.mk" ⟨0, 3⟩ = [] ∧
    exportedVariable.hover? "c.mk" ⟨0, 3⟩ = none := by
  have reached : exportedVariable.Reachable threeTexts :=
    .opened (.opened (.opened (.ofTable _) "a.mk" none "export x = 1\n" 1)
      "b.mk" none "x = $(x)\n" 1) "c.mk" none "y: CC $(CC)\n" 1
  have opened : exportedVariable.store.get? "c.mk" =
      some (.ofText threeTexts "c.mk" none "y: CC $(CC)\n" 1) := rfl
  have undefined : exportedVariable.definition default "c.mk" ⟨0, 8⟩ = [] := by decide +kernel
  have word : ((SyntaxTree.parse threeTexts "y: CC $(CC)\n").nodeAtPoint? ⟨0, 8⟩).map
      (fun n => (Role.ofNode n, n.parentKind?, n.text, n.range)) =
        some (Family.variables.reference, some .variableReference, "CC", ⟨⟨0, 8⟩, ⟨0, 10⟩⟩) := by
    decide +kernel
  obtain ⟨node, there, same⟩ := Option.map_eq_some_iff.1 word
  simp only [Prod.mk.injEq] at same
  obtain ⟨use, above, text, range⟩ := same
  obtain ⟨found, -, -, -, -, -, shown, admits⟩ :=
    hover?_of_use reached default opened (by decide) there use
  refine ⟨by decide +kernel, by decide +kernel, undefined, ?_, by decide +kernel,
    by decide +kernel⟩
  rw [shown undefined, if_pos (admits.2 (by simp [above])), text, range]
  decide +kernel

end Workspace

end Autotools
