import Autotools.Proofs.Report.IncludedFiles
import Autotools.Proofs.Syntax.Cursor
import Autotools.Proofs.Workspace.Reachable
import Autotools.Workspace.Navigation

/-! Paths of included files.  A request for the definition of a path and the check of included files
both ask whether the path, taken from the directory of the document, names a file.  They ask in two
places, after different ways to the path: the request starts from a cursor, the check from the walk
of the tree, and it passes over paths that may be absent. -/

namespace Autotools

open Syntax

/-- The paths of included files are words of some length. -/
def Syntax.SyntaxTree.PlainPaths (t : SyntaxTree) : Prop :=
  ∀ n ∈ t.nodes, Role.ofNode n = .pathLiteral → n.children = [] ∧ n.start < n.stop

namespace Diagnosis

variable {fs : FileSystem} {t : SyntaxTree} {directory : Path} {n : Node} {f : Finding}

theorem absent_mem_diagnose (h : n ∈ absentPaths fs directory t) :
    .absent n ∈ diagnose fs t (some directory) := by
  have made : Finding.absent n ∈ (absentPaths fs directory t).map .absent := List.mem_map_of_mem h
  rw [← filter_absent_diagnose] at made
  exact (List.mem_filter.1 made).1

theorem exists_absentPath (h : f ∈ diagnose fs t (some directory)) (said : f.absentPath?.isSome) :
    ∃ m ∈ absentPaths fs directory t, f = .absent m := by
  have kept : f ∈ (diagnose fs t (some directory)).filter (·.absentPath?.isSome) :=
    List.mem_filter.2 ⟨h, said⟩
  rw [filter_absent_diagnose] at kept
  obtain ⟨m, absent, rfl⟩ := List.mem_map.1 kept
  exact ⟨m, absent, rfl⟩

/-- A finding for a path says whether the path names a file, whichever node it was made for. -/
theorem absent_mem_diagnose_iff (member : n ∈ t.nodes) (path : Role.ofNode n = .pathLiteral)
    (keyword : n.keyword? = some "include") :
    .absent n ∈ diagnose fs t (some directory) ↔ fs.isFile (directory.join n.text) = false := by
  constructor
  · intro found
    obtain ⟨m, absent, same⟩ := exists_absentPath found (by simp)
    have text := congrArg Finding.absentPath? same
    rw [Finding.absentPath?_absent, Finding.absentPath?_absent, Option.some.injEq] at text
    rw [text]
    exact (mem_absentPaths.1 absent).2.2.2
  · intro none
    exact absent_mem_diagnose (mem_absentPaths.2 ⟨member, path, keyword, none⟩)

/-- At the bounds of a path that is not found absent there is no finding for another one. -/
theorem not_at_bounds (nested : t.Nested) (plain : t.PlainPaths) (member : n ∈ t.nodes)
    (path : Role.ofNode n = .pathLiteral) (unlisted : n ∉ absentPaths fs directory t)
    (h : f ∈ diagnose fs t (some directory)) (said : f.absentPath?.isSome) :
    ¬(f.start = n.start ∧ f.stop = n.stop) := by
  rintro ⟨start, stop⟩
  obtain ⟨m, absent, rfl⟩ := exists_absentPath h said
  obtain ⟨inTree, role, -⟩ := mem_absentPaths.1 absent
  obtain ⟨leaf, wide⟩ := plain m inTree role
  obtain ⟨leaf', -⟩ := plain n member path
  have same : m = n :=
    nested.eq_of_bounds t.rootNode_mem_nodes inTree member leaf leaf' start stop wide
  exact unlisted (same ▸ absent)

end Diagnosis

namespace Workspace

variable {parser : Parser} {w : Workspace} {uri : String} {d : Document} {directory : Path}
  {position : Point} {n : Node}

/-- A path is defined by the file that it names from the directory of its document. -/
theorem definition_of_path (reached : w.Reachable parser) (fs : FileSystem)
    (opened : w.store.get? uri = some d) (make : d.fileType = some .make)
    (located : d.directory? = some directory)
    (there : (SyntaxTree.parse parser d.text).nodeAtPoint? position = some n)
    (path : Role.ofNode n = .pathLiteral) :
    w.definition fs uri position =
      if fs.isFile (directory.join n.text) then [⟨.file (directory.join n.text), .origin⟩]
      else [] := by
  have symbol : Symbol.ofNode n = ⟨n.text, .pathLiteral⟩ := by rw [Symbol.ofNode, path]
  rw [definition, View.definition, reached.makeNode?_eq opened make, there]
  simp only [Option.map_some, symbol, if_true, includedFile?, located]
  cases file : fs.isFile (directory.join n.text) <;> simp [file]

theorem findings_of_directory (reached : w.Reachable parser) (fs : FileSystem)
    (opened : w.store.get? uri = some d) (make : d.fileType = some .make)
    (located : d.directory? = some directory) :
    d.findings fs = diagnose fs (SyntaxTree.parse parser d.text) (some directory) := by
  rw [Document.findings_eq (reached.eq_ofText opened), if_pos make, located]

/-- In every reachable workspace and file system, at a path in a make file that has a directory: a
request for the definition answers with the file that the path names from the directory, and with
nothing just if it names none.  The findings of the document that say that a path names no file are
made for the nodes in `absentPaths`, one for each.  After a plain `include` the path is one of them
just if the request answers with nothing.  After another keyword it is none of them, and where the
bounds of the tree are nested and paths are words of some length, no such finding is at its
bounds. -/
theorem definition_of_included (reached : w.Reachable parser) (fs : FileSystem)
    (opened : w.store.get? uri = some d) (make : d.fileType = some .make)
    (located : d.directory? = some directory)
    (there : (SyntaxTree.parse parser d.text).nodeAtPoint? position = some n)
    (path : Role.ofNode n = .pathLiteral) :
    let t := SyntaxTree.parse parser d.text
    let file := directory.join n.text
    let answer := w.definition fs uri position
    (answer = [⟨.file file, .origin⟩] ↔ fs.isFile file = true) ∧
    (answer = [] ↔ fs.isFile file = false) ∧
    (d.findings fs).filter (·.absentPath?.isSome) =
      (Diagnosis.absentPaths fs directory t).map .absent ∧
    (n.keyword? = some "include" →
      (n ∈ Diagnosis.absentPaths fs directory t ↔ answer = []) ∧
      (.absent n ∈ d.findings fs ↔ answer = [])) ∧
    (n.keyword? ≠ some "include" →
      n ∉ Diagnosis.absentPaths fs directory t ∧
      (t.Nested → t.PlainPaths → ∀ f ∈ d.findings fs, f.absentPath?.isSome →
        ¬(f.start = n.start ∧ f.stop = n.stop))) := by
  intro t file answer
  have answered : answer = if fs.isFile file then [⟨.file file, .origin⟩] else [] :=
    definition_of_path reached fs opened make located there path
  have nothing : answer = [] ↔ fs.isFile file = false := by
    rw [answered]
    cases fs.isFile file <;> simp
  have member : n ∈ t.nodes := SyntaxTree.mem_nodes_of_nodeAtPoint? there
  have findings : d.findings fs = diagnose fs t (some directory) :=
    findings_of_directory reached fs opened make located
  rw [findings]
  refine ⟨?_, nothing, Diagnosis.filter_absent_diagnose fs t directory, ?_, ?_⟩
  · rw [answered]
    cases fs.isFile file <;> simp
  · intro keyword
    rw [nothing, Diagnosis.mem_absentPaths]
    exact ⟨by simp [member, path, keyword, file],
      Diagnosis.absent_mem_diagnose_iff member path keyword⟩
  · intro keyword
    have unlisted : n ∉ Diagnosis.absentPaths fs directory t :=
      fun listed => keyword (Diagnosis.mem_absentPaths.1 listed).2.2.1
    exact ⟨unlisted, fun nested plain f found said =>
      Diagnosis.not_at_bounds nested plain member path unlisted found said⟩

/-- A make file with three paths, two of them after a plain `include`. -/
def including : Workspace :=
  (ofTable default).opened Diagnosis.threeIncludes "file:///p/Makefile"
    (some (.ofString "/p/Makefile")) "include a.mk c.mk\n-include b.mk\n" 1

theorem definition_including :
    let t := SyntaxTree.parse Diagnosis.threeIncludes "include a.mk c.mk\n-include b.mk\n"
    let uri := "file:///p/Makefile"
    let fs := Diagnosis.stocked
    including.definition fs uri ⟨0, 9⟩ = [⟨.file (.ofString "/p/a.mk"), .origin⟩] ∧
    (∃ n, t.nodeAtPoint? ⟨0, 14⟩ = some n ∧ including.definition fs uri ⟨0, 14⟩ = [] ∧
      .absent n ∈ including.findings fs uri) ∧
    ∃ n, t.nodeAtPoint? ⟨1, 10⟩ = some n ∧ including.definition fs uri ⟨1, 10⟩ = [] ∧
      ∀ f ∈ including.findings fs uri, f.absentPath?.isSome →
        ¬(f.start = n.start ∧ f.stop = n.stop) := by
  intro t uri fs
  have reached : including.Reachable Diagnosis.threeIncludes := .opened (.ofTable default) ..
  have opened : including.store.get? uri = some (.ofText Diagnosis.threeIncludes uri
      (some (.ofString "/p/Makefile")) "include a.mk c.mk\n-include b.mk\n" 1) := rfl
  have located : (Path.ofString "/p/Makefile").parent? = some (.ofString "/p") := by decide
  have rule (position : Point) (n : Node) (there : t.nodeAtPoint? position = some n)
      (path : Role.ofNode n = .pathLiteral) :=
    definition_of_included reached fs opened (by decide) located there path
  have sees (position : Point) (text keyword : String)
      (seen : (t.nodeAtPoint? position).map (fun n => (Role.ofNode n, n.text, n.keyword?)) =
        some (.pathLiteral, text, some keyword)) :
      ∃ n, t.nodeAtPoint? position = some n ∧ Role.ofNode n = .pathLiteral ∧ n.text = text ∧
        n.keyword? = some keyword := by
    obtain ⟨n, there, same⟩ := Option.map_eq_some_iff.1 seen
    simp only [Prod.mk.injEq] at same
    exact ⟨n, there, same⟩
  rw [findings_of_get? opened]
  refine ⟨?_, ?_, ?_⟩
  · obtain ⟨n, there, path, text, -⟩ := sees ⟨0, 9⟩ "a.mk" "include" (by decide +kernel)
    have file := (rule ⟨0, 9⟩ n there path).1
    rw [text] at file
    exact file.2 (by decide +kernel)
  · obtain ⟨n, there, path, text, keyword⟩ := sees ⟨0, 14⟩ "c.mk" "include" (by decide +kernel)
    obtain ⟨-, nothing, -, reported, -⟩ := rule ⟨0, 14⟩ n there path
    rw [text] at nothing
    have none := nothing.2 (by decide +kernel)
    exact ⟨n, there, none, (reported keyword).2.2 none⟩
  · obtain ⟨n, there, path, text, keyword⟩ := sees ⟨1, 10⟩ "b.mk" "-include" (by decide +kernel)
    obtain ⟨-, nothing, -, -, unreported⟩ := rule ⟨1, 10⟩ n there path
    rw [text] at nothing
    have nested : t.Nested :=
      ⟨by decide +kernel, by decide +kernel, by decide +kernel, by decide⟩
    have plain : t.PlainPaths := by
      have words : ∀ n ∈ t.nodes, Role.ofNode n = .pathLiteral →
          n.children.length = 0 ∧ n.start < n.stop := by decide +kernel
      intro m member path
      obtain ⟨leaf, wide⟩ := words m member path
      exact ⟨List.eq_nil_of_length_eq_zero leaf, wide⟩
    exact ⟨n, there, nothing.2 (by decide +kernel), (unreported (by simp [keyword])).2 nested plain⟩

end Workspace

end Autotools
