import Autotools.Proofs.Document.History
import Autotools.Workspace.Basic

/-! The workspaces that a client can bring about.  Their stores are the runs of the store, so
every document in them has the type, the tree and the findings that its URI, path and text call
for. -/

namespace Autotools

open Syntax

/-- The findings of a document that was made from a text. -/
theorem Document.findings_ofText (parser : Parser) (fs : FileSystem) (uri : String)
    (path : Option Path) (text : String) (version : Int) :
    (ofText parser uri path text version).findings fs =
      if FileType.detect? (nameOf uri path) = some .make then
        diagnose fs (SyntaxTree.parse parser text) (path.bind (·.parent?))
      else [] := by
  simp only [findings, ofText]
  split_ifs <;> rfl

theorem Document.findings_eq {parser : Parser} {uri : String} {d : Document}
    (made : d = .ofText parser uri d.path d.text d.version) (fs : FileSystem) :
    d.findings fs =
      if d.fileType = some .make then
        diagnose fs (SyntaxTree.parse parser d.text) d.directory?
      else [] := by
  rw [made]
  exact Document.findings_ofText parser fs uri d.path d.text d.version

namespace Workspace

variable {parser : Parser} {w : Workspace}

theorem findings_of_get? {uri : String} {d : Document} (opened : w.store.get? uri = some d)
    (fs : FileSystem) : w.findings fs uri = d.findings fs := by
  rw [findings, opened]
  rfl

/-- The findings of a document that was just opened, whatever was open before. -/
theorem findings_opened (w : Workspace) (fs : FileSystem) (uri : String) (path : Option Path)
    (text : String) (version : Int) :
    (w.opened parser uri path text version).findings fs uri =
      (Document.ofText parser uri path text version).findings fs := by
  refine findings_of_get? ?_ fs
  rw [opened, Store.get?_opened, if_pos rfl]

/-- A workspace that is reached from one without documents by opening, changing and closing
documents and by taking up other tables. -/
inductive Reachable (parser : Parser) : Workspace → Prop
  | ofTable (docs : Table) : Reachable parser (.ofTable docs)
  | opened {w : Workspace} (h : Reachable parser w) (uri : String) (path : Option Path)
      (text : String) (version : Int) : Reachable parser (w.opened parser uri path text version)
  | changed {w : Workspace} (h : Reachable parser w) (uri text : String) (version : Int) :
      Reachable parser (w.changed parser uri text version)
  | closed {w : Workspace} (h : Reachable parser w) (uri : String) : Reachable parser (w.closed uri)
  | withDocs {w : Workspace} (h : Reachable parser w) (docs : Table) :
      Reachable parser (w.withDocs docs)

theorem Reachable.exists_run (h : w.Reachable parser) : ∃ ops, w.store = Store.run parser ops := by
  induction h with
  | ofTable docs => exact ⟨[], rfl⟩
  | opened _ uri path text version ih =>
    obtain ⟨ops, store⟩ := ih
    exact ⟨ops ++ [.opens uri path text version], by rw [Store.run_snoc, ← store]; rfl⟩
  | changed _ uri text version ih =>
    obtain ⟨ops, store⟩ := ih
    exact ⟨ops ++ [.changes uri text version], by rw [Store.run_snoc, ← store]; rfl⟩
  | closed _ uri ih =>
    obtain ⟨ops, store⟩ := ih
    exact ⟨ops ++ [.closes uri], by rw [Store.run_snoc, ← store]; rfl⟩
  | withDocs _ docs ih => exact ih

/-- A document of a reachable workspace is made from its URI, path, text and version. -/
theorem Reachable.eq_ofText (h : w.Reachable parser) {uri : String} {d : Document}
    (opened : w.store.get? uri = some d) :
    d = .ofText parser uri d.path d.text d.version := by
  obtain ⟨ops, store⟩ := h.exists_run
  rw [store] at opened
  exact Store.eq_ofText_of_get?_run parser opened

/-- A make file of a reachable workspace has the tree of its text. -/
theorem Reachable.tree_eq (h : w.Reachable parser) {uri : String} {d : Document}
    (opened : w.store.get? uri = some d) (make : d.fileType = some .make) :
    d.tree = some (SyntaxTree.parse parser d.text) := by
  have made := h.eq_ofText opened
  rw [made] at make ⊢
  exact if_pos make

/-- The trees of a reachable workspace are those of the open make files. -/
theorem Reachable.tree?_eq_some (h : w.Reachable parser) {uri : String}
    {tree : SyntaxTree} :
    w.store.tree? uri = some tree ↔
      ∃ d, w.store.get? uri = some d ∧ d.fileType = some .make ∧
        tree = SyntaxTree.parse parser d.text := by
  constructor
  · intro parsed
    obtain ⟨d, opened, parsed⟩ := Option.bind_eq_some_iff.1 parsed
    have made := h.eq_ofText opened
    have make : d.fileType = some .make := by
      rw [made] at parsed ⊢
      exact (Option.ite_none_right_eq_some.1 parsed).1
    rw [h.tree_eq opened make] at parsed
    exact ⟨d, opened, make, (Option.some.inj parsed).symm⟩
  · rintro ⟨d, opened, make, rfl⟩
    rw [Store.tree?, opened]
    exact h.tree_eq opened make

/-- A request about a make file of a reachable workspace is about a node of the tree of its text. -/
theorem Reachable.makeNode?_eq (h : w.Reachable parser) {uri : String} {d : Document}
    (opened : w.store.get? uri = some d) (make : d.fileType = some .make) (position : Point) :
    w.view.makeNode? uri position =
      ((SyntaxTree.parse parser d.text).nodeAtPoint? position).map fun node => (d, node) := by
  have tree := h.tree_eq opened make
  rw [View.makeNode?, document?_view, opened]
  simp only [Option.bind_eq_bind, Option.bind_some, tree]
  cases (SyntaxTree.parse parser d.text).nodeAtPoint? position <;> rfl

end Workspace

end Autotools
