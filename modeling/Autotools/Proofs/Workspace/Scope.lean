import Autotools.Proofs.Workspace.Completion
import Autotools.Proofs.Workspace.Order

/-! The scope of a request after any sequence of operations.  A document stands under its own URI,
so a selection by URI neither loses nor repeats one: the document of the request and the others are
all of them, and a sort brings the others into the one order of their bytes. -/

namespace Autotools.Store

open History Syntax

/-- A scope has a tree under a URI just if an open document has this URI and this tree. -/
theorem mem_makeTrees_run {parser : Parser} {ops : List Operation} {first uri : String}
    {tree : SyntaxTree} :
    (uri, tree) ∈ (run parser ops).makeTrees first ↔
      ∃ d, (run parser ops).get? uri = some d ∧ d.uri = uri ∧ d.tree = some tree := by
  rw [mem_makeTrees, tree?, Option.bind_eq_some_iff]
  constructor
  · rintro ⟨d, opened, parsed⟩
    exact ⟨d, opened, labelled_run parser ops uri d opened, parsed⟩
  · rintro ⟨d, opened, -, parsed⟩
    exact ⟨d, opened, parsed⟩

/-- The trees of a scope are those of the texts last written. -/
theorem parse_of_mem_makeTrees_run {parser : Parser} {ops : List Operation} {first uri : String}
    {tree : SyntaxTree} (listed : (uri, tree) ∈ (run parser ops).makeTrees first) :
    ∃ text version, LastWritten uri ops text version ∧ tree = SyntaxTree.parse parser text := by
  obtain ⟨d, opened, -, parsed⟩ := mem_makeTrees_run.1 listed
  refine ⟨d.text, d.version, lastWritten_run parser opened, ?_⟩
  rw [eq_ofText_of_get?_run parser opened] at parsed
  exact Document.tree_ofText_eq_some parsed

theorem nodup_uri_makeTrees (s : Store) (first : String) :
    ((s.makeTrees first).map (·.1)).Nodup := by
  refine List.pairwise_map.2 ((s.makeTrees_pairwise first).imp ?_)
  rintro a b (⟨own, other⟩ | ⟨-, -, below⟩) same
  · exact other (same ▸ own)
  · exact String.lt_irrefl _ (same ▸ below)

/-- The documents other than `first` are in the order of the bytes of their URIs. -/
theorem pairwise_bytes_others (s : Store) (first : String) :
    (s.scope.filter (·.1 ≠ first)).Pairwise fun a b =>
      Text.bytes a.1.toList < Text.bytes b.1.toList := by
  refine (s.scope_pairwise.filter _).imp ?_
  intro a b below
  exact Text.bytes_lt (String.lt_iff.1 below)

/-- After any sequence of operations, the scope of a request about `first` lists every open document
that has a tree and nothing else, each once, with its own URI and the tree of the text last written.
The document `first` is at the front if it has a tree, and the others follow in strictly ascending
order of the bytes of their URIs.  In whatever order the open documents are listed, the one that is
`first` and the others sorted by their own URIs are this scope. -/
theorem makeTrees_run (parser : Parser) (ops : List Operation) (first : String) :
    let s := run parser ops
    (∀ uri tree, (uri, tree) ∈ s.makeTrees first ↔
      ∃ d, s.get? uri = some d ∧ d.uri = uri ∧ d.tree = some tree) ∧
    (∀ uri tree, (uri, tree) ∈ s.makeTrees first →
      ∃ text version, LastWritten uri ops text version ∧ tree = SyntaxTree.parse parser text) ∧
    ((s.makeTrees first).map (·.1)).Nodup ∧
    (∃ others, s.makeTrees first = ((s.tree? first).toList.map fun tree => (first, tree)) ++ others ∧
      (∀ document ∈ others, document.1 ≠ first) ∧
      others.Pairwise fun a b => Text.bytes a.1.toList < Text.bytes b.1.toList) ∧
    ∀ listing, listing.Perm s.documents.values → treesOf listing first = s.makeTrees first := by
  intro s
  refine ⟨fun _ _ => mem_makeTrees_run, fun _ _ => parse_of_mem_makeTrees_run,
    s.nodup_uri_makeTrees first, ⟨s.scope.filter (·.1 ≠ first), ?_, ?_, ?_⟩, ?_⟩
  · rw [makeTrees_eq, scope_filter_eq]
  · intro document listed
    simpa using (List.mem_filter.1 listed).2
  · exact s.pairwise_bytes_others first
  · intro listing perm
    exact treesOf_listing (labelled_run parser ops) perm first

end Autotools.Store
