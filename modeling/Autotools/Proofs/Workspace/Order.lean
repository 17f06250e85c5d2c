import Autotools.Proofs.Document.MakeTrees
import Autotools.Proofs.Text.Order
import Autotools.Proofs.Workspace.Reachable
import Autotools.Workspace.Completion
import Autotools.Workspace.Navigation

/-! A workspace answers by what is open, and not by how it came to be open.  Two sequences of
actions that leave the same document under every URI and the same table leave the same answers.
Nor does it matter in which order the documents are listed: the look-ups, the count, the trees of a
request and with them all answers can be read from them in any order. -/

namespace Autotools

open Syntax

/-- Among lists with the same members, only one is in ascending order of distinct keys. -/
theorem SortedMap.eq_of_perm_of_ascending {β : Type} {l r : List (String × β)}
    (hl : l.Pairwise (·.1 ≤ ·.1)) (hr : r.Pairwise (·.1 < ·.1)) (perm : l.Perm r) : l = r := by
  have distinct : l.Pairwise (·.1 ≠ ·.1) := by
    refine (perm.pairwise_iff fun h => Ne.symm h).2 (hr.imp ?_)
    intro a b below same
    exact String.lt_irrefl _ (same ▸ below)
  have ascending : l.Pairwise (·.1 < ·.1) := by
    refine hl.imp₂ ?_ distinct
    intro a b upTo differ
    exact String.not_le.1 fun back => differ (String.le_antisymm upTo back)
  refine perm.eq_of_pairwise ?_ ascending hr
  intro a b _ _ below above
  exact absurd below (String.lt_asymm above)

theorem SortedMap.get?_of_mem {β : Type} {m : SortedMap β} {entry : String × β}
    (h : entry ∈ m.toList) : m.get? entry.1 = some entry.2 := mem_toList.1 h

/-! ### Documents in any order -/

/-- The tree of a make file under its URI. -/
def Document.located? (d : Document) : Option (String × SyntaxTree) :=
  d.tree.map fun tree => (d.uri, tree)

/-- Documents in ascending order of their URIs. -/
def Scope.inOrder (a b : String × SyntaxTree) : Bool := a.1 ≤ b.1

theorem Scope.pairwise_mergeSort (scope : Scope) :
    (scope.mergeSort inOrder).Pairwise (·.1 ≤ ·.1) := by
  exact Text.pairwise_mergeSort Prod.fst scope

namespace Store

/-- The scope of a request about `first`, from the open documents in any order. -/
def treesOf (listing : List Document) (first : String) : Scope :=
  let own := (listing.find? (·.uri = first)).bind (·.located?)
  let others := (listing.filter (·.uri ≠ first)).filterMap (·.located?)
  own.toList ++ others.mergeSort Scope.inOrder

/-- Every document stands under its own URI. -/
def Labelled (s : Store) : Prop := ∀ uri d, s.get? uri = some d → d.uri = uri

theorem labelled_run (parser : Parser) (ops : List Operation) : (run parser ops).Labelled := by
  intro uri d opened
  rw [eq_ofText_of_get?_run parser opened]
  rfl

variable {s : Store} {listing : List Document}

theorem filter_values (labelled : s.Labelled) (uri : String) :
    s.documents.values.filter (·.uri = uri) = (s.get? uri).toList := by
  have keys : s.documents.toList.filter (fun entry => entry.2.uri = uri) =
      s.documents.toList.filter (·.1 = uri) := by
    refine List.filter_congr ?_
    intro entry member
    rw [labelled _ _ (SortedMap.get?_of_mem member)]
  calc s.documents.values.filter (·.uri = uri)
      = (s.documents.toList.filter fun entry => entry.2.uri = uri).map (·.2) := List.filter_map
    _ = ((s.get? uri).toList.map fun d => (uri, d)).map (·.2) := by
        rw [keys, SortedMap.filter_key s.documents.sorted]
        rfl
    _ = (s.get? uri).toList := by
        rw [List.map_map]
        exact List.map_id _

theorem find?_listing (labelled : s.Labelled) (perm : listing.Perm s.documents.values)
    (uri : String) : listing.find? (·.uri = uri) = s.get? uri := by
  have same : (listing.filter (·.uri = uri)).Perm (s.get? uri).toList := by
    rw [← filter_values labelled]
    exact perm.filter _
  rw [← List.head?_filter]
  cases found : s.get? uri with
  | none =>
    rw [found] at same
    rw [same.eq_nil]
    rfl
  | some d =>
    rw [found] at same
    rw [List.perm_singleton.1 same]
    rfl

theorem scope_eq_values (labelled : s.Labelled) :
    s.scope = s.documents.values.filterMap (·.located?) := by
  rw [scope, SortedMap.values, List.filterMap_map]
  refine List.filterMap_congr ?_
  intro entry member
  rw [Function.comp_apply, Document.located?, labelled _ _ (SortedMap.get?_of_mem member)]

/-- The make files among the documents other than `first`. -/
theorem filterMap_located?_filter (listing : List Document) (first : String) :
    (listing.filter (·.uri ≠ first)).filterMap (·.located?) =
      (listing.filterMap (·.located?)).filter (·.1 ≠ first) := by
  rw [List.filterMap_filter, List.filter_filterMap]
  congr 1
  funext d
  rw [Document.located?]
  cases d.tree with
  | none => simp
  | some tree => by_cases other : d.uri = first <;> simp [other, Option.filter]

/-- The scope of a request does not depend on the order in which the documents are listed. -/
theorem treesOf_listing (labelled : s.Labelled) (perm : listing.Perm s.documents.values)
    (first : String) : treesOf listing first = s.makeTrees first := by
  have own : ((listing.find? (·.uri = first)).bind (·.located?)).toList =
      s.scope.filter (·.1 = first) := by
    rw [find?_listing labelled perm, scope_filter_eq, tree?]
    cases found : s.get? first with
    | none => rfl
    | some d =>
      have here := labelled first d found
      cases tree : d.tree <;> simp [Document.located?, tree, here]
  have others : ((listing.filter (·.uri ≠ first)).filterMap (·.located?)).mergeSort
      Scope.inOrder = s.scope.filter (·.1 ≠ first) := by
    refine SortedMap.eq_of_perm_of_ascending (Scope.pairwise_mergeSort _)
      (s.scope_pairwise.filter _) ?_
    refine (List.mergeSort_perm _ _).trans ?_
    rw [filterMap_located?_filter, scope_eq_values labelled]
    exact (perm.filterMap _).filter _
  rw [makeTrees_eq, treesOf, own, others]

/-! ### The order of operations -/

variable {parser : Parser} {op other : Operation} {u : String}

theorem get?_after_of_ne (h : op.uri ≠ u) : (s.after parser op).get? u = s.get? u := by
  rw [get?_after, if_neg h]

/-- An operation leaves the same document under its URI, with another one before or behind it. -/
theorem get?_after_swap (about : op.uri = u) (apart : other.uri ≠ u) :
    ((s.after parser op).after parser other).get? u =
      ((s.after parser other).after parser op).get? u := by
  have kept : (s.after parser other).pathOf u = s.pathOf u := by
    rw [pathOf, get?_after_of_ne apart, pathOf]
  rw [get?_after_of_ne apart, get?_after, get?_after, if_pos about, if_pos about, kept]

theorem after_comm (h : op.uri ≠ other.uri) :
    (s.after parser op).after parser other = (s.after parser other).after parser op := by
  refine ext ?_
  intro u
  by_cases first : op.uri = u
  · exact get?_after_swap first fun second => h (first.trans second.symm)
  · by_cases second : other.uri = u
    · exact (get?_after_swap second first).symm
    · rw [get?_after_of_ne second, get?_after_of_ne first, get?_after_of_ne first,
        get?_after_of_ne second]

end Store

namespace Workspace

/-! ### Actions -/

/-- What a client does with a workspace. -/
inductive Action where
  | document (op : Operation)
  | documentation (docs : Table)

/-- The document that an action is about; a new table is about none. -/
def Action.uri? : Action → Option String
  | .document op => some op.uri
  | .documentation _ => none

/-- The workspace after one action. -/
def after (parser : Parser) (w : Workspace) : Action → Workspace
  | .document (.opens uri path text version) => w.opened parser uri path text version
  | .document (.changes uri text version) => w.changed parser uri text version
  | .document (.closes uri) => w.closed uri
  | .documentation docs => w.withDocs docs

/-- The workspace after a sequence of actions, from one without documents on. -/
def run (parser : Parser) (docs : Table) (actions : List Action) : Workspace :=
  actions.foldl (after parser) (.ofTable docs)

variable {parser : Parser} {v w : Workspace}

theorem run_append (parser : Parser) (docs : Table) (actions later : List Action) :
    run parser docs (actions ++ later) = later.foldl (after parser) (run parser docs actions) :=
  List.foldl_append ..

theorem after_document (parser : Parser) (w : Workspace) (op : Operation) :
    w.after parser (.document op) = { w with store := w.store.after parser op } := by
  cases op <;> rfl

theorem reachable_after (h : w.Reachable parser) (a : Action) :
    (w.after parser a).Reachable parser := by
  cases a with
  | documentation docs => exact h.withDocs docs
  | document op =>
    cases op with
    | opens uri path text version => exact h.opened uri path text version
    | changes uri text version => exact h.changed uri text version
    | closes uri => exact h.closed uri

theorem reachable_run (parser : Parser) (docs : Table) (actions : List Action) :
    (run parser docs actions).Reachable parser := by
  induction actions using List.reverseRecOn with
  | nil => exact .ofTable docs
  | append_singleton actions a ih =>
    rw [run_append]
    exact reachable_after ih a

theorem Reachable.labelled (h : w.Reachable parser) : w.store.Labelled := by
  obtain ⟨ops, store⟩ := h.exists_run
  rw [store]
  exact Store.labelled_run parser ops

theorem after_comm {a b : Action} (h : a.uri? ≠ b.uri?) :
    (w.after parser a).after parser b = (w.after parser b).after parser a := by
  cases a with
  | documentation docs =>
    cases b with
    | documentation other => exact absurd rfl h
    | document op => rw [after_document, after_document]; rfl
  | document op =>
    cases b with
    | documentation docs => rw [after_document, after_document]; rfl
    | document other =>
      have apart : op.uri ≠ other.uri := fun same => h (congrArg some same)
      simp only [after_document]
      rw [Store.after_comm apart]

theorem run_swap {a b : Action} (h : a.uri? ≠ b.uri?) (docs : Table) (before later : List Action) :
    run parser docs (before ++ a :: b :: later) = run parser docs (before ++ b :: a :: later) := by
  rw [run_append, run_append, List.foldl_cons, List.foldl_cons, after_comm h]
  rfl

/-- A workspace is told by its table and what stands under each URI. -/
theorem ext_get? (documents : ∀ uri, v.store.get? uri = w.store.get? uri)
    (docs : v.docs = w.docs) : v = w := by
  cases v
  cases w
  cases Store.ext documents
  cases docs
  rfl

/-- What requests read of documents that are listed in some order. -/
def View.ofListing (listing : List Document) (docs : Table) : View :=
  ⟨fun uri => listing.find? (·.uri = uri), Store.treesOf listing, docs⟩

theorem ofListing_eq_view {listing : List Document} (labelled : w.store.Labelled)
    (perm : listing.Perm w.store.documents.values) : View.ofListing listing w.docs = w.view := by
  have documents : (fun uri => listing.find? (·.uri = uri)) = w.store.get? :=
    funext (Store.find?_listing labelled perm)
  have trees : Store.treesOf listing = w.store.makeTrees :=
    funext (Store.treesOf_listing labelled perm)
  rw [View.ofListing, documents, trees]
  rfl

/-- No request tells two workspaces apart. -/
structure SameAnswers (v w : Workspace) : Prop where
  hover : ∀ uri position, v.hover? uri position = w.hover? uri position
  completions : ∀ uri position, v.completions uri position = w.completions uri position
  definition : ∀ fs uri position, v.definition fs uri position = w.definition fs uri position
  references : ∀ uri position withDefinitions,
    v.references uri position withDefinitions = w.references uri position withDefinitions
  makeTrees : ∀ first, v.store.makeTrees first = w.store.makeTrees first
  size : v.store.size = w.store.size

theorem SameAnswers.of_eq (h : v = w) : SameAnswers v w := by
  subst h
  exact ⟨fun _ _ => rfl, fun _ _ => rfl, fun _ _ _ => rfl, fun _ _ _ => rfl, fun _ => rfl, rfl⟩

/-- Two sequences of actions that leave the same document under every URI and the same table leave
the same answers, whatever is done later.  In particular two actions that are not about the same
document can be swapped.  The documents of a workspace can be listed in any order: their look-up,
their number and the scope of a request stay the same, and so does every answer that is read from
such a listing. -/
theorem sameAnswers_run (parser : Parser) :
    (∀ docs docs' actions actions',
      (∀ uri, (run parser docs actions).store.get? uri =
        (run parser docs' actions').store.get? uri) →
      (run parser docs actions).docs = (run parser docs' actions').docs →
      ∀ later, SameAnswers (run parser docs (actions ++ later))
        (run parser docs' (actions' ++ later))) ∧
    (∀ docs before later, ∀ a b : Action, a.uri? ≠ b.uri? →
      SameAnswers (run parser docs (before ++ a :: b :: later))
        (run parser docs (before ++ b :: a :: later))) ∧
    ∀ docs actions listing,
      let w := run parser docs actions
      let listed := View.ofListing listing w.docs
      listing.Perm w.store.documents.values →
      listing.length = w.store.size ∧
        (∀ uri, listing.find? (·.uri = uri) = w.store.get? uri) ∧
        (∀ first, Store.treesOf listing first = w.store.makeTrees first) ∧
        (∀ uri position, listed.hover? uri position = w.hover? uri position) ∧
        (∀ uri position, listed.completions uri position = w.completions uri position) ∧
        (∀ fs uri position, listed.definition fs uri position = w.definition fs uri position) ∧
        ∀ uri position withDefinitions, listed.references uri position withDefinitions =
          w.references uri position withDefinitions := by
  refine ⟨?_, ?_, ?_⟩
  · intro docs docs' actions actions' documents tables later
    have same := ext_get? documents tables
    refine .of_eq ?_
    rw [run_append, run_append, same]
  · intro docs before later a b apart
    exact .of_eq (run_swap apart docs before later)
  · intro docs actions listing w listed perm
    have labelled : w.store.Labelled := (reachable_run parser docs actions).labelled
    have same : listed = w.view := ofListing_eq_view labelled perm
    rw [same]
    refine ⟨?_, Store.find?_listing labelled perm, Store.treesOf_listing labelled perm,
      fun _ _ => rfl, fun _ _ => rfl, fun _ _ _ => rfl, fun _ _ _ => rfl⟩
    rw [perm.length_eq, SortedMap.values, List.length_map]
    rfl

/-- Three make files, each opened once. -/
def inTurn : List Action :=
  [.document (.opens "a.mk" none "x:\n" 1), .document (.opens "b.mk" none "y:\n" 2),
    .document (.opens "c.mk" none "z:\n" 3), .documentation default]

/-- The same files from the last to the first, one of them by changes, and a fourth one closed. -/
def roundabout : List Action :=
  [.documentation default, .document (.opens "c.mk" none "z:\n" 3),
    .document (.changes "b.mk" "w:\n" 1), .document (.opens "d.mk" none "" 1),
    .document (.changes "b.mk" "y:\n" 2), .document (.closes "d.mk"),
    .document (.opens "a.mk" none "x:\n" 1)]

theorem sameAnswers_roundabout :
    let v := run default default inTurn
    let w := run default default roundabout
    (∀ uri, v.store.get? uri = w.store.get? uri) ∧ v.docs = w.docs ∧ SameAnswers v w ∧
      (w.store.makeTrees "b.mk").map (·.1) = ["b.mk", "a.mk", "c.mk"] ∧
      Store.treesOf v.store.documents.values.reverse "b.mk" = w.store.makeTrees "b.mk" ∧
      (View.ofListing v.store.documents.values.reverse v.docs).hover? "b.mk" ⟨0, 0⟩ =
        w.hover? "b.mk" ⟨0, 0⟩ := by
  intro v w
  obtain ⟨answers, -, listed⟩ := sameAnswers_run default
  have documents : ∀ uri, v.store.get? uri = w.store.get? uri := by
    intro uri
    simp only [v, w, run, inTurn, roundabout, List.foldl_cons, List.foldl_nil, after, opened,
      changed, closed, withDocs, ofTable, Store.changed, Store.pathOf, Store.get?_opened,
      Store.get?_closed, Store.get?_empty]
    split_ifs <;> simp_all [Document.ofText]
  have tables : v.docs = w.docs := by
    simp [v, w, run, inTurn, roundabout, after, opened, changed, closed, withDocs]
  have same := answers default default inTurn roundabout documents tables []
  rw [List.append_nil, List.append_nil] at same
  obtain ⟨-, -, trees, hover, -⟩ := listed default inTurn _ (List.reverse_perm _)
  refine ⟨documents, tables, same, by decide +kernel, ?_, ?_⟩
  · rw [← same.makeTrees]
    exact trees "b.mk"
  · rw [← same.hover]
    exact hover "b.mk" ⟨0, 0⟩

end Workspace

end Autotools
