import Autotools.Proofs.Document.MakeTrees
import Autotools.Proofs.Symbol.Effective
import Autotools.Proofs.Workspace.Reachable
import Autotools.Workspace.Navigation

/-! Where a target is defined.  A request for the definitions of a target answers with every rule
for it in the open make files, each once: first the rule in effect in the document that was asked
about, then the others in the order of the search.  The rule in effect is the one that the check
for repeated targets does not report. -/

namespace Autotools

open Syntax

/-- The targets of the rules for a name in the open make files, file by file in the order of their
URIs. -/
def Store.targetsOf (s : Store) (name : String) : List Occurrence :=
  s.scope.places (Node.isTargetOf name)

/-- The search for the definitions of a target finds the rules for it. -/
theorem Query.findAll_eq_places (name : String) (scope : Scope) :
    (⟨name, .targets, .definitions⟩ : Query).findAll scope =
      scope.places (Node.isTargetOf name) := by
  have wants : (⟨name, .targets, .definitions⟩ : Query).wants = Node.isTargetOf name := by
    funext n
    simp only [Query.wants, Query.role, Family.definition, Node.isTargetOf, Bool.decide_and]
    rfl
  rw [← wants]
  rfl

namespace Store

variable {s : Store} {uri name : String} {t : SyntaxTree} {earlier : List Node} {effective : Node}

/-- The rules for a name in `uri`, apart from the rules in other files. -/
theorem targetsOf_filter_eq (tree : s.tree? uri = some t) (name : String) :
    (s.targetsOf name).filter (·.uri = uri) =
      (t.targetsOf name).map fun node => ⟨uri, node⟩ :=
  s.places_filter_eq tree _

/-- What a search for a target from `uri` finds, when the rules for it there are known. -/
def foundFrom (s : Store) (uri name : String) (earlier : List Node) (effective : Node) :
    List Occurrence :=
  ⟨uri, effective⟩ :: (earlier.map (fun node => ⟨uri, node⟩) ++
    (s.targetsOf name).filter (·.uri ≠ uri))

theorem findAll_target (tree : s.tree? uri = some t)
    (own : t.targetsOf name = earlier ++ [effective]) :
    (⟨name, .targets, .definitions⟩ : Query).findAll (s.makeTrees uri) =
      earlier.map (fun node => ⟨uri, node⟩) ++
        ⟨uri, effective⟩ :: (s.targetsOf name).filter (·.uri ≠ uri) := by
  calc
    _ = (s.makeTrees uri).places (Node.isTargetOf name) := Query.findAll_eq_places ..
    _ = (s.targetsOf name).filter (·.uri = uri) ++ (s.targetsOf name).filter (·.uri ≠ uri) :=
      s.places_makeTrees uri _
    _ = _ := by rw [targetsOf_filter_eq tree, own]; simp

theorem definitions_target (tree : s.tree? uri = some t)
    (own : t.targetsOf name = earlier ++ [effective]) :
    (⟨name, .targets, .definitions⟩ : Query).definitions (s.makeTrees uri) =
      s.foundFrom uri name earlier effective := by
  have here : ∀ o ∈ earlier.map (fun node => Occurrence.mk uri node),
      o.uri = (Occurrence.mk uri effective).uri := by
    intro o ho
    obtain ⟨_, _, rfl⟩ := List.mem_map.1 ho
    rfl
  have away : ∀ o ∈ (s.targetsOf name).filter (·.uri ≠ uri),
      o.uri ≠ (Occurrence.mk uri effective).uri := by
    intro o ho
    simpa using (List.mem_filter.1 ho).2
  exact (congrArg Query.effectiveFirst (findAll_target tree own)).trans
    (Query.effectiveFirst_append here away)

/-- Nothing is lost, and nothing is added. -/
theorem perm_foundFrom (tree : s.tree? uri = some t)
    (own : t.targetsOf name = earlier ++ [effective]) :
    (s.foundFrom uri name earlier effective).Perm (s.targetsOf name) := by
  have all := s.perm_places_makeTrees uri (Node.isTargetOf name)
  rw [← Query.findAll_eq_places, findAll_target tree own] at all
  exact List.perm_middle.symm.trans all

theorem nodup_targetsOf (s : Store) (name : String) : (s.targetsOf name).Nodup :=
  Scope.nodup_places s.scope_pairwise _

end Store

namespace Workspace

/-- The symbol of a target, defined or used, is looked up among the rules. -/
theorem definition_eq {w : Workspace} {uri : String} {d : Document} {t : SyntaxTree}
    {position : Point} {node : Node} {name : String} (fs : FileSystem)
    (opened : w.store.get? uri = some d) (tree : d.tree = some t)
    (there : t.nodeAtPoint? position = some node)
    (symbol : Symbol.ofNode node = ⟨name, .targetDefinition⟩ ∨
      Symbol.ofNode node = ⟨name, .targetReference⟩) :
    w.definition fs uri position =
      ((⟨name, .targets, .definitions⟩ : Query).definitions (w.store.makeTrees uri)).map
        (·.location) := by
  have found : w.view.makeNode? uri position = some (d, node) := by
    simp [View.makeNode?, opened, tree, there]
  rw [definition, View.definition, found]
  rcases symbol with symbol | symbol <;> simp [symbol, Query.ofSymbol?, Role.family?]

/-- In every reachable workspace, for a make file `d` with a rule for `name`, the definitions of
`name` asked for at a target or prerequisite of `d` are all rules for `name` in the open make
files, each once: first the last one in `d`, which is in effect, then the earlier ones in `d` and
those in the other files in their order.  Unless `name` starts with a dot, the one in effect is
not reported as shadowed, and each earlier one is, with the one in effect as its definition and
with no other. -/
theorem definition_target {parser : Parser} {w : Workspace} (reached : w.Reachable parser)
    (fs : FileSystem) {uri name : String} {d : Document} {position : Point} {node : Node}
    (opened : w.store.get? uri = some d) (make : d.fileType = some .make)
    (there : (SyntaxTree.parse parser d.text).nodeAtPoint? position = some node)
    (symbol : Symbol.ofNode node = ⟨name, .targetDefinition⟩ ∨
      Symbol.ofNode node = ⟨name, .targetReference⟩)
    (defined : (SyntaxTree.parse parser d.text).targetsOf name ≠ []) :
    ∃ earlier effective,
      (SyntaxTree.parse parser d.text).targetsOf name = earlier ++ [effective] ∧
      let found : List Occurrence := ⟨uri, effective⟩ ::
        (earlier.map (fun n => ⟨uri, n⟩) ++ (w.store.targetsOf name).filter (·.uri ≠ uri))
      w.definition fs uri position = found.map (fun o => ⟨.document o.uri, o.node.range⟩) ∧
      found.Perm (w.store.targetsOf name) ∧ found.Nodup ∧
      (name.toList.head? ≠ some '.' →
        (∀ s ∈ Shadowed.ofTree (SyntaxTree.parse parser d.text), s.node ≠ effective) ∧
        ∀ n ∈ earlier, ∀ definition,
          ⟨n, definition⟩ ∈ Shadowed.ofTree (SyntaxTree.parse parser d.text) ↔
            definition = effective) := by
  have tree := reached.tree_eq opened make
  -- from here on it only matters which tree the document has, not how it came about
  generalize SyntaxTree.parse parser d.text = t at tree there defined ⊢
  obtain ⟨earlier, effective, own⟩ :
      ∃ earlier effective, t.targetsOf name = earlier ++ [effective] :=
    ⟨_, _, (List.dropLast_append_getLast defined).symm⟩
  have ownTree : w.store.tree? uri = some t := by rw [Store.tree?, opened]; exact tree
  have last : (t.targetsOf name).getLast? = some effective := by rw [own]; simp
  have perm := Store.perm_foundFrom ownTree own
  refine ⟨earlier, effective, own, ?_, perm, perm.nodup_iff.2 (Store.nodup_targetsOf _ _), ?_⟩
  · rw [definition_eq fs opened tree there symbol, Store.definitions_target ownTree own]
    rfl
  · intro undotted
    refine ⟨Shadowed.node_ne_effective last, ?_⟩
    intro n hn definition
    have distinct : (t.targetsOf name).Nodup := t.nodup_nodes.filter _
    rw [own, List.nodup_append] at distinct
    refine Shadowed.mem_ofTree_iff_eq_effective (by simpa [Shadowed.mayRepeat] using undotted)
      last (by rw [own]; simp [hn]) ?_ definition
    exact distinct.2.2 n hn effective (by simp)

/-- The tree of the rule `x:` on a line of its own. -/
def ruleAt (start : Nat) : Tree :=
  .node ⟨"rule", true, false, false, start, start + 3, none⟩
    [.node ⟨"targets", true, false, false, start, start + 1, none⟩
      [.node ⟨"word", true, false, false, start, start + 1, none⟩ []],
     .node ⟨":", false, false, false, start + 1, start + 2, none⟩ []]

/-- A parser for the text `x:\nx:\nx:\n`. -/
def threeRules : Parser := fun _ =>
  .node ⟨"makefile", true, false, false, 0, 9, none⟩ [ruleAt 0, ruleAt 3, ruleAt 6]

/-- Two make files with the same three rules. -/
def twoFiles : Workspace :=
  let first := (ofTable default).opened threeRules "file:///p/Makefile" none "x:\nx:\nx:\n" 1
  first.opened threeRules "file:///p/rules.mk" none "x:\nx:\nx:\n" 1

/-- From the first file, the last of its three rules comes first, then its other two and those of
the second file. -/
theorem definition_threeRules :
    let t := SyntaxTree.parse threeRules "x:\nx:\nx:\n"
    let here := "file:///p/Makefile"
    let there := "file:///p/rules.mk"
    twoFiles.definition default here ⟨0, 0⟩ =
      [⟨.document here, ⟨2, 0⟩, ⟨2, 1⟩⟩, ⟨.document here, ⟨0, 0⟩, ⟨0, 1⟩⟩,
        ⟨.document here, ⟨1, 0⟩, ⟨1, 1⟩⟩, ⟨.document there, ⟨0, 0⟩, ⟨0, 1⟩⟩,
        ⟨.document there, ⟨1, 0⟩, ⟨1, 1⟩⟩, ⟨.document there, ⟨2, 0⟩, ⟨2, 1⟩⟩] ∧
    ∃ earlier effective, t.targetsOf "x" = earlier ++ [effective] ∧
      earlier.map (·.range) = [⟨⟨0, 0⟩, ⟨0, 1⟩⟩, ⟨⟨1, 0⟩, ⟨1, 1⟩⟩] ∧
      effective.range = ⟨⟨2, 0⟩, ⟨2, 1⟩⟩ ∧
      (∀ s ∈ Shadowed.ofTree t, s.node ≠ effective) ∧
      ∀ n ∈ earlier, ⟨n, effective⟩ ∈ Shadowed.ofTree t := by
  intro t here there
  have reached : twoFiles.Reachable threeRules :=
    .opened (.opened (.ofTable default) here none "x:\nx:\nx:\n" 1) there none "x:\nx:\nx:\n" 1
  have opened : twoFiles.store.get? here =
      some (.ofText threeRules here none "x:\nx:\nx:\n" 1) := rfl
  have make : (Document.ofText threeRules here none "x:\nx:\nx:\n" 1).fileType = some .make := by
    decide
  have word : (t.nodeAtPoint? ⟨0, 0⟩).map Symbol.ofNode = some ⟨"x", .targetDefinition⟩ := by
    decide +kernel
  obtain ⟨node, found, symbol⟩ := Option.map_eq_some_iff.1 word
  have ranges : (t.targetsOf "x").map (·.range) =
      [⟨⟨0, 0⟩, ⟨0, 1⟩⟩, ⟨⟨1, 0⟩, ⟨1, 1⟩⟩] ++ [⟨⟨2, 0⟩, ⟨2, 1⟩⟩] := by decide +kernel
  have defined : t.targetsOf "x" ≠ [] := by
    intro none
    rw [none] at ranges
    cases ranges
  obtain ⟨earlier, effective, (own : t.targetsOf "x" = _), -, -, -, shadow⟩ :=
    definition_target reached default opened make found (.inl symbol) defined
  rw [own, List.map_append] at ranges
  obtain ⟨front, last⟩ := List.append_inj' ranges rfl
  obtain ⟨kept, repeated⟩ := shadow (by decide)
  refine ⟨by decide +kernel, earlier, effective, own, front, by simpa using last, kept, ?_⟩
  intro n earlierRule
  exact (repeated n earlierRule effective).2 rfl

end Workspace

end Autotools
