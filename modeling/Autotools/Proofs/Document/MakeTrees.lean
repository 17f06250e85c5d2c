import Autotools.Document.Store
import Autotools.Proofs.Syntax.Walk
import Mathlib.Data.List.Nodup

/-! The scope of a request.  A request about a document searches its own tree first and then the
trees of the other make files, which is all of them, each once, with that document moved to the
front. -/

namespace Autotools

open Syntax

/-- An ascending list of bindings has at most one binding of a key. -/
theorem SortedMap.filter_key {β : Type} {l : List (String × β)} (h : l.Pairwise (·.1 < ·.1))
    (key : String) : l.filter (·.1 = key) = (l.lookup key).toList.map fun v => (key, v) := by
  induction l with
  | nil => rfl
  | cons head rest ih =>
    obtain ⟨k, v⟩ := head
    obtain ⟨above, restSorted⟩ := List.pairwise_cons.1 h
    rw [lookup_binding]
    by_cases here : key = k
    · subst here
      have none : rest.lookup key = none := lookup_eq_none_of_lt above
      have rest : rest.filter (·.1 = key) = [] := by rw [ih restSorted, none]; rfl
      rw [List.filter_cons_of_pos (by simp), rest, if_pos rfl]
      rfl
    · rw [List.filter_cons_of_neg (by simpa using Ne.symm here), ih restSorted, if_neg here]

theorem SortedMap.mem_toList {β : Type} {m : SortedMap β} {key : String} {value : β} :
    (key, value) ∈ m.toList ↔ m.get? key = some value := by
  have here : (key, value) ∈ m.toList ↔ (key, value) ∈ m.toList.filter (·.1 = key) := by simp
  rw [here, filter_key m.sorted, get?]
  simp

namespace Store

/-- The trees of all open make files, in the order of their URIs. -/
def scope (s : Store) : Scope :=
  s.documents.toList.filterMap fun entry => entry.2.tree.map fun tree => (entry.1, tree)

theorem scope_pairwise (s : Store) : s.scope.Pairwise (·.1 < ·.1) := by
  refine s.documents.sorted.filterMap _ ?_
  intro a b before x hx y hy
  obtain ⟨_, _, rfl⟩ := Option.map_eq_some_iff.1 hx
  obtain ⟨_, _, rfl⟩ := Option.map_eq_some_iff.1 hy
  exact before

/-- The make files among documents whose URIs pass a test. -/
theorem scope_filter (s : Store) (p : String → Bool) :
    s.scope.filter (fun document => p document.1) =
      (s.documents.toList.filter fun entry => p entry.1).filterMap
        fun entry => entry.2.tree.map fun tree => (entry.1, tree) := by
  rw [scope, List.filter_filterMap, List.filterMap_filter]
  congr 1
  funext entry
  cases entry.2.tree with
  | none => simp
  | some tree => by_cases h : p entry.1 <;> simp [h]

theorem scope_filter_eq (s : Store) (first : String) :
    s.scope.filter (·.1 = first) = (s.tree? first).toList.map fun tree => (first, tree) := by
  rw [scope_filter s (· = first), SortedMap.filter_key s.documents.sorted, tree?, get?,
    SortedMap.get?]
  cases s.documents.toList.lookup first with
  | none => rfl
  | some d => cases h : d.tree <;> simp [h]

/-- The scope of a request about `first` is all make files, that of `first` before the others. -/
theorem makeTrees_eq (s : Store) (first : String) :
    s.makeTrees first = s.scope.filter (·.1 = first) ++ s.scope.filter (·.1 ≠ first) := by
  have others : s.scope.filter (·.1 ≠ first) =
      s.documents.toList.filterMap fun entry =>
        if entry.1 = first then none else entry.2.tree.map fun tree => (entry.1, tree) := by
    rw [scope_filter s (· ≠ first), List.filterMap_filter]
    congr 1
    funext entry
    by_cases here : entry.1 = first <;> simp [here]
  rw [scope_filter_eq, others, makeTrees]

end Store

/-! ### Places in a scope -/

namespace Scope

/-- The nodes of a document that pass a test, in pre-order. -/
def placesIn (p : Node → Bool) (document : String × SyntaxTree) : List Occurrence :=
  (document.2.nodes.filter p).map fun node => ⟨document.1, node⟩

/-- The nodes of the documents of a scope that pass a test, document by document and in
pre-order. -/
def places (scope : Scope) (p : Node → Bool) : List Occurrence := scope.flatMap (placesIn p)

theorem uri_of_mem_placesIn {p : Node → Bool} {document : String × SyntaxTree} {o : Occurrence}
    (h : o ∈ placesIn p document) : o.uri = document.1 := by
  obtain ⟨_, _, rfl⟩ := List.mem_map.1 h
  rfl

theorem filter_placesIn (p : Node → Bool) (q : String → Bool) (document : String × SyntaxTree) :
    (placesIn p document).filter (fun o => q o.uri) =
      if q document.1 then placesIn p document else [] := by
  split
  · rename_i kept
    refine List.filter_eq_self.2 ?_
    intro o ho
    rw [uri_of_mem_placesIn ho, kept]
  · rename_i dropped
    refine List.filter_eq_nil_iff.2 ?_
    intro o ho
    rw [uri_of_mem_placesIn ho]
    exact dropped

theorem places_cons (document : String × SyntaxTree) (scope : Scope) (p : Node → Bool) :
    places (document :: scope) p = placesIn p document ++ places scope p :=
  List.flatMap_cons

theorem places_append (scope others : Scope) (p : Node → Bool) :
    places (scope ++ others) p = places scope p ++ places others p :=
  List.flatMap_append ..

theorem places_filter (scope : Scope) (p : Node → Bool) (q : String → Bool) :
    places (scope.filter fun document => q document.1) p =
      (places scope p).filter fun o => q o.uri := by
  induction scope with
  | nil => rfl
  | cons document scope ih =>
    rw [List.filter_cons, places_cons, List.filter_append, filter_placesIn, ← ih]
    split <;> rfl

/-- Documents of different URIs share no place, and no document has one twice. -/
theorem nodup_places_of_ne {scope : Scope} (h : scope.Pairwise (·.1 ≠ ·.1)) (p : Node → Bool) :
    (places scope p).Nodup := by
  rw [places, List.nodup_flatMap]
  constructor
  · intro document _
    refine (document.2.nodup_nodes.filter p).map ?_
    intro a b same
    exact (Occurrence.mk.inj same).2
  · refine h.imp ?_
    intro a b apart o inFirst inSecond
    rw [← uri_of_mem_placesIn inFirst, ← uri_of_mem_placesIn inSecond] at apart
    exact apart rfl

theorem nodup_places {scope : Scope} (h : scope.Pairwise (·.1 < ·.1)) (p : Node → Bool) :
    (places scope p).Nodup := by
  apply nodup_places_of_ne
  apply h.imp
  intro a b before same
  rw [same] at before
  exact String.lt_irrefl _ before

end Scope

namespace Store

/-- A request about `first` meets the places of `first`, then those of the other documents. -/
theorem places_makeTrees (s : Store) (first : String) (p : Node → Bool) :
    (s.makeTrees first).places p =
      (s.scope.places p).filter (·.uri = first) ++ (s.scope.places p).filter (·.uri ≠ first) := by
  rw [makeTrees_eq, Scope.places_append, Scope.places_filter s.scope p (· = first),
    Scope.places_filter s.scope p (· ≠ first)]

theorem perm_places_makeTrees (s : Store) (first : String) (p : Node → Bool) :
    ((s.makeTrees first).places p).Perm (s.scope.places p) := by
  rw [places_makeTrees]
  simpa using List.filter_append_perm (fun o : Occurrence => decide (o.uri = first))
    (s.scope.places p)

/-- The places of `first` itself. -/
theorem places_filter_eq (s : Store) {first : String} {t : SyntaxTree}
    (tree : s.tree? first = some t) (p : Node → Bool) :
    (s.scope.places p).filter (·.uri = first) =
      (t.nodes.filter p).map fun node => ⟨first, node⟩ := by
  rw [← Scope.places_filter s.scope p (· = first), scope_filter_eq, tree]
  simp [Scope.places, Scope.placesIn]

end Store

end Autotools
