import Autotools.Document.Store
import Mathlib.Data.List.Induction

/-! The store after a sequence of operations.  `Store.run` starts from the empty store and takes
the operations in their order.  What is then under a URI is told by the operations on that URI
alone: the last one that opened or changed it, the last one that opened it since it was closed,
and whether it was closed at the end. -/

namespace Autotools

open Syntax

/-- What a client does with its documents. -/
inductive Operation where
  | opens (uri : String) (path : Option Path) (text : String) (version : Int)
  | changes (uri text : String) (version : Int)
  | closes (uri : String)
deriving Inhabited

namespace Operation

/-- The document that an operation is about. -/
def uri : Operation → String
  | .opens uri _ _ _ | .changes uri _ _ | .closes uri => uri

/-- The text and version that an operation gives its document; a closed document has none. -/
def content? : Operation → Option (String × Int)
  | .opens _ _ text version | .changes _ text version => some (text, version)
  | .closes _ => none

/-- What an operation leaves under its URI, where the path was `kept` before. -/
def document? (parser : Parser) (kept : Option Path) : Operation → Option Document
  | .opens uri path text version => some (.ofText parser uri path text version)
  | .changes uri text version => some (.ofText parser uri kept text version)
  | .closes _ => none

/-- The operation opens or changes `u`. -/
def Writes (u : String) (op : Operation) : Prop := op.uri = u ∧ op.content?.isSome

/-- If the operation is about `u`, it is a change. -/
def Keeps (u : String) (op : Operation) : Prop :=
  op.uri = u → ∃ text version, op = .changes u text version

/-- A document that an operation leaves is made from its URI, its content and some path. -/
theorem document?_eq_some {parser : Parser} {kept : Option Path} {op : Operation} {d : Document}
    (h : op.document? parser kept = some d) :
    d = .ofText parser op.uri d.path d.text d.version ∧ op.content? = some (d.text, d.version) := by
  cases op with
  | opens | changes =>
    obtain rfl := Option.some.inj h
    exact ⟨rfl, rfl⟩
  | closes => cases h

end Operation

namespace History

/-! ### What a history says of a URI -/

/-- No operation opens or changes `u`. -/
def Unwritten (u : String) (ops : List Operation) : Prop := ∀ op ∈ ops, ¬op.Writes u

/-- No operation opens or changes `u`, or one closes it and none does so later. -/
def Gone (u : String) (ops : List Operation) : Prop :=
  Unwritten u ops ∨ ∃ before after, ops = before ++ .closes u :: after ∧ Unwritten u after

/-- The last operation that opens or changes `u` gives it this text and version. -/
def LastWritten (u : String) (ops : List Operation) (text : String) (version : Int) : Prop :=
  ∃ before op after, ops = before ++ op :: after ∧ op.uri = u ∧
    op.content? = some (text, version) ∧ Unwritten u after

/-- The last operation that opens `u` since `u` was closed gives it this path.  If there is none,
so that `u` was at most changed since then, the path is none. -/
def LastLocated (u : String) (ops : List Operation) (path : Option Path) : Prop :=
  (∃ before text version after, ops = before ++ .opens u path text version :: after ∧
    ∀ op ∈ after, op.Keeps u) ∨
  (path = none ∧ ((∀ op ∈ ops, op.Keeps u) ∨
    ∃ before after, ops = before ++ .closes u :: after ∧ ∀ op ∈ after, op.Keeps u))

variable {u : String} {ops : List Operation} {op : Operation}

theorem Unwritten.snoc (h : Unwritten u ops) (hop : ¬op.Writes u) : Unwritten u (ops ++ [op]) := by
  intro x hx
  rcases List.mem_append.1 hx with hx | hx
  · exact h x hx
  · rw [List.mem_singleton.1 hx]
    exact hop

theorem Gone.snoc (h : Gone u ops) (hop : ¬op.Writes u) : Gone u (ops ++ [op]) := by
  rcases h with h | ⟨before, after, rfl, h⟩
  · exact .inl (h.snoc hop)
  · exact .inr ⟨before, after ++ [op], by simp, h.snoc hop⟩

theorem keeps_snoc (h : ∀ x ∈ ops, x.Keeps u) (hop : op.Keeps u) :
    ∀ x ∈ ops ++ [op], x.Keeps u := by
  intro x hx
  rcases List.mem_append.1 hx with hx | hx
  · exact h x hx
  · rw [List.mem_singleton.1 hx]
    exact hop

theorem LastLocated.snoc {path : Option Path} (h : LastLocated u ops path) (hop : op.Keeps u) :
    LastLocated u (ops ++ [op]) path := by
  rcases h with ⟨before, text, version, after, rfl, kept⟩ | ⟨rfl, kept | ⟨before, after, rfl, kept⟩⟩
  · exact .inl ⟨before, text, version, after ++ [op], by simp, keeps_snoc kept hop⟩
  · exact .inr ⟨rfl, .inl (keeps_snoc kept hop)⟩
  · exact .inr ⟨rfl, .inr ⟨before, after ++ [op], by simp, keeps_snoc kept hop⟩⟩

end History

namespace Document

variable {parser : Parser} {uri text : String} {path : Option Path} {version : Int}

theorem isSome_tree_ofText : (ofText parser uri path text version).tree.isSome ↔
    (ofText parser uri path text version).fileType = some .make := by
  simp only [ofText]
  split <;> simp [*]

theorem tree_ofText_eq_some {t : SyntaxTree}
    (h : (ofText parser uri path text version).tree = some t) :
    t = SyntaxTree.parse parser text := by
  simp only [ofText] at h
  split at h
  · exact (Option.some.inj h).symm
  · cases h

end Document

/-- A text is closed by a newline, unless it is empty or ends in one. -/
theorem closedSource_eq (text : String) :
    closedSource text =
      if text ≠ "" ∧ text.toList.getLast? ≠ some '\n' then text ++ "\n" else text := by
  rw [closedSource, Text.closed]
  by_cases blank : text = ""
  · simp [blank]
  · by_cases closed : text.toList.getLast? = some '\n'
    · simp [closed]
    · simp [blank, closed]

/-- A document under `u` is the one that a history calls for: its text and version are those last
written, its path the one last given, its type the type of its path, or of `u` if it has no path
that is a text, and it has a tree if and only if it is a make file, which is then the tree of
exactly its closed text. -/
structure Document.Follows (d : Document) (parser : Parser) (u : String) (ops : List Operation) :
    Prop where
  uri : d.uri = u
  content : History.LastWritten u ops d.text d.version
  path : History.LastLocated u ops d.path
  typeOfPath : ∀ name, d.path.bind (·.text?) = some name → d.fileType = FileType.detect? name
  typeOfUri : d.path.bind (·.text?) = none → d.fileType = FileType.detect? u
  parsed : d.tree.isSome ↔ d.fileType = some .make
  source : ∀ t, d.tree = some t →
    t.source = if d.text ≠ "" ∧ d.text.toList.getLast? ≠ some '\n' then d.text ++ "\n" else d.text
  root : ∀ t, d.tree = some t → t.root = parser t.source

namespace Store

open History

/-! ### Runs -/

/-- The store after one operation. -/
def after (parser : Parser) (s : Store) : Operation → Store
  | .opens uri path text version => s.opened parser uri path text version
  | .changes uri text version => s.changed parser uri text version
  | .closes uri => s.closed uri

/-- The store after a sequence of operations, from the empty one on. -/
def run (parser : Parser) (ops : List Operation) : Store := ops.foldl (after parser) .empty

variable (parser : Parser) {u : String} {ops : List Operation} {d : Document}

/-- One operation leaves its own document under its URI, and what was there under every other. -/
theorem get?_after (s : Store) (op : Operation) (u : String) :
    (s.after parser op).get? u =
      if op.uri = u then op.document? parser (s.pathOf u) else s.get? u := by
  cases op with
  | opens uri path text version =>
    simp only [after, get?_opened, Operation.uri, Operation.document?, eq_comm]
  | changes uri text version =>
    rw [after, changed, get?_opened]
    by_cases same : u = uri
    · subst same
      simp [Operation.uri, Operation.document?]
    · simp [Operation.uri, same, Ne.symm same]
  | closes uri =>
    simp only [after, get?_closed, Operation.uri, Operation.document?, eq_comm]

theorem run_snoc (ops : List Operation) (op : Operation) :
    run parser (ops ++ [op]) = (run parser ops).after parser op := by
  simp [run]

/-- Operations that neither open nor change `u` leave it closed. -/
theorem get?_foldl_of_unwritten {s : Store} (h : Unwritten u ops)
    (hs : s.get? u = none) : (ops.foldl (after parser) s).get? u = none := by
  induction ops generalizing s with
  | nil => exact hs
  | cons op ops ih =>
    refine ih (fun x hx => h x (by simp [hx])) ?_
    rw [get?_after]
    split
    · rename_i about
      have quiet := h op (by simp)
      cases op with
      | closes uri => rfl
      | opens | changes => exact absurd ⟨about, rfl⟩ quiet
    · exact hs

theorem get?_run_eq_none_of_gone (h : Gone u ops) : (run parser ops).get? u = none := by
  rcases h with h | ⟨before, after, rfl, h⟩
  · exact get?_foldl_of_unwritten parser h rfl
  · rw [run, List.foldl_append, List.foldl_cons]
    refine get?_foldl_of_unwritten parser h ?_
    rw [get?_after]
    simp [Operation.uri, Operation.document?]

theorem gone_of_get?_run_eq_none (h : (run parser ops).get? u = none) : Gone u ops := by
  induction ops using List.reverseRecOn with
  | nil => exact .inl (by simp [Unwritten])
  | append_singleton ops op ih =>
    rw [run_snoc, get?_after] at h
    split at h
    · rename_i about
      cases op with
      | closes uri =>
        obtain rfl : uri = u := about
        exact .inr ⟨ops, [], rfl, by simp [Unwritten]⟩
      | opens | changes => cases h
    · rename_i other
      exact (ih h).snoc fun writes => other writes.1

/-- The path under a URI, which is none when nothing is there, is the one last given. -/
theorem lastLocated_run (u : String) (ops : List Operation) :
    LastLocated u ops ((run parser ops).pathOf u) := by
  induction ops using List.reverseRecOn with
  | nil => exact .inr ⟨rfl, .inl (by simp)⟩
  | append_singleton ops op ih =>
    rw [run_snoc, pathOf, get?_after]
    split
    · rename_i about
      cases op with
      | opens uri path text version =>
        obtain rfl : uri = u := about
        exact .inl ⟨ops, text, version, [], rfl, by simp⟩
      | changes uri text version =>
        obtain rfl : uri = u := about
        exact ih.snoc fun _ => ⟨text, version, rfl⟩
      | closes uri =>
        obtain rfl : uri = u := about
        exact .inr ⟨rfl, .inr ⟨ops, [], rfl, by simp⟩⟩
    · rename_i other
      exact ih.snoc fun about => absurd about other

/-- A document of a run was left by the last operation that opened or changed its URI. -/
theorem exists_split_of_get?_run (h : (run parser ops).get? u = some d) :
    ∃ before op after kept, ops = before ++ op :: after ∧ op.uri = u ∧
      op.document? parser kept = some d ∧ Unwritten u after := by
  induction ops using List.reverseRecOn with
  | nil => cases h
  | append_singleton ops op ih =>
    rw [run_snoc, get?_after] at h
    split at h
    · rename_i about
      exact ⟨ops, op, [], _, rfl, about, h, by simp [Unwritten]⟩
    · rename_i other
      obtain ⟨before, last, after, kept, rfl, about, left, quiet⟩ := ih h
      exact ⟨before, last, after ++ [op], kept, by simp, about, left,
        quiet.snoc fun writes => other writes.1⟩

theorem lastWritten_run (h : (run parser ops).get? u = some d) :
    LastWritten u ops d.text d.version := by
  obtain ⟨before, op, after, _, split, about, left, quiet⟩ := exists_split_of_get?_run parser h
  exact ⟨before, op, after, split, about, (Operation.document?_eq_some left).2, quiet⟩

/-- Every document of a run has the type and the tree that its URI, path and text call for. -/
theorem eq_ofText_of_get?_run (h : (run parser ops).get? u = some d) :
    d = .ofText parser u d.path d.text d.version := by
  obtain ⟨_, op, _, _, _, rfl, left, _⟩ := exists_split_of_get?_run parser h
  exact (Operation.document?_eq_some left).1

/-- What a store has under a URI after some operations depends only on what it had there before,
and on the operations on that URI. -/
theorem get?_foldl_filter (ops : List Operation) {s t : Store} (h : s.get? u = t.get? u) :
    ((ops.filter (·.uri = u)).foldl (after parser) s).get? u =
      (ops.foldl (after parser) t).get? u := by
  induction ops generalizing s t with
  | nil => exact h
  | cons op ops ih =>
    by_cases about : op.uri = u
    · rw [List.filter_cons_of_pos (by simpa using about), List.foldl_cons, List.foldl_cons]
      refine ih ?_
      rw [get?_after, get?_after, if_pos about, if_pos about, pathOf, pathOf, h]
    · rw [List.filter_cons_of_neg (by simpa using about), List.foldl_cons]
      refine ih ?_
      rw [get?_after, if_neg about, h]

theorem follows_of_get?_run (h : (run parser ops).get? u = some d) : d.Follows parser u ops := by
  have made := eq_ofText_of_get?_run parser h
  have path : (run parser ops).pathOf u = d.path := by rw [pathOf, h]; rfl
  have type : d.fileType = FileType.detect? (Document.nameOf u d.path) := by rw [made]; rfl
  have tree : ∀ t, d.tree = some t → t = SyntaxTree.parse parser d.text := by
    intro t ht
    rw [made] at ht
    exact Document.tree_ofText_eq_some ht
  constructor
  · rw [made]; rfl
  · exact lastWritten_run parser h
  · rw [← path]; exact lastLocated_run parser u ops
  · intro name named
    rw [type, Document.nameOf, named]; rfl
  · intro unnamed
    rw [type, Document.nameOf, unnamed]; rfl
  · rw [made]
    exact Document.isSome_tree_ofText
  · intro t ht
    rw [tree t ht]
    exact closedSource_eq d.text
  · intro t ht
    rw [tree t ht]; rfl

/-- After any sequence of operations, nothing is under a URI if and only if it was never opened or
changed, or was closed after it last was; otherwise the document there is the one that the history
of the URI calls for.  Operations on other URIs have no influence. -/
theorem get?_run (parser : Parser) (ops : List Operation) (u : String) :
    ((run parser ops).get? u = none ↔ Gone u ops) ∧
    (∀ d, (run parser ops).get? u = some d → d.Follows parser u ops) ∧
    (run parser (ops.filter (·.uri = u))).get? u = (run parser ops).get? u := by
  refine ⟨⟨gone_of_get?_run_eq_none parser, get?_run_eq_none_of_gone parser⟩, ?_, ?_⟩
  · intro d h
    exact follows_of_get?_run parser h
  · exact get?_foldl_filter parser ops rfl

end Store

end Autotools
