import Autotools.Docs.Schema
import Autotools.Json.Canonical
import Autotools.Proofs.Json.Pretty

/-! The text of a schema holds the descriptions of its table.  The names are written in ascending
order, so each of them is one member of the object that is read. -/

namespace Autotools

open Json (Value Plain)

/-! ### Members in ascending order -/

namespace SortedMap

variable {β γ : Type}

theorem lookup_map_value (f : β → γ) (l : List (String × β)) (key : String) :
    (l.map fun entry => (entry.1, f entry.2)).lookup key = (l.lookup key).map f := by
  induction l with
  | nil => rfl
  | cons entry rest ih =>
    rw [List.map_cons, lookup_binding, lookup_binding, ih]
    split <;> rfl

theorem lookup_reverse {l : List (String × β)} (h : l.Pairwise (·.1 < ·.1)) (key : String) :
    l.reverse.lookup key = l.lookup key := by
  induction l with
  | nil => rfl
  | cons entry rest ih =>
    obtain ⟨k, v⟩ := entry
    obtain ⟨above, sorted⟩ := List.pairwise_cons.1 h
    rw [List.reverse_cons, List.lookup_append, ih sorted, lookup_binding k v rest,
      lookup_binding k v []]
    by_cases here : key = k
    · -- the key is below those behind it, so it is not among them
      subst here
      rw [lookup_eq_none_of_lt above]
      rfl
    · rw [if_neg here, if_neg here]
      exact Option.or_none

theorem toList_ofList {l : List (String × β)} (h : l.Pairwise (·.1 < ·.1)) :
    (ofList l).toList = l := by
  have fresh : ((empty : SortedMap β).toList ++ l).Pairwise (·.1 < ·.1) := h
  exact toList_insertAll fresh

end SortedMap

namespace Json

theorem member?_object {members : List (String × Value)} (h : members.Pairwise (·.1 < ·.1))
    (key : String) : (object members).member? key = members.lookup key :=
  SortedMap.lookup_reverse h key

theorem canonicalMembers_eq {members : List (String × Value)}
    (h : ∀ m ∈ members, m.2.canonical = m.2) : canonicalMembers members = members := by
  induction members with
  | nil => rfl
  | cons m rest ih =>
    rw [canonicalMembers, h m (by simp), ih fun m hm => h m (List.mem_cons_of_mem _ hm)]

/-- An object is in canonical form if its members ascend and have canonical values. -/
theorem canonical_object {members : List (String × Value)} (h : members.Pairwise (·.1 < ·.1))
    (values : ∀ m ∈ members, m.2.canonical = m.2) :
    (object members).canonical = .object members := by
  rw [canonical, canonicalMembers_eq values, SortedMap.toList_ofList h]

end Json

/-! ### The schema of a table -/

namespace Schema

variable (t : Table) (fileType : FileType)

/-- What a schema says of a name with a description. -/
def property (description : String) : Value := .object [("description", .string description)]

/-- The properties of a schema. -/
def propertyList : List (String × Value) :=
  (t.entries fileType).toList.map fun entry => (entry.1, property entry.2)

theorem propertyList_pairwise : (propertyList t fileType).Pairwise (·.1 < ·.1) :=
  List.pairwise_map.2 (t.entries fileType).sorted

theorem member?_properties (name : String) :
    (properties t fileType).member? name = (t.describe? name fileType).map property := by
  show (Json.object (propertyList t fileType)).member? name = _
  rw [Json.member?_object (propertyList_pairwise t fileType)]
  exact SortedMap.lookup_map_value property _ name

theorem plain_properties : Plain (properties t fileType) := by
  apply Plain.object
  intro m hm
  obtain ⟨entry, -, rfl⟩ := List.mem_map.1 hm
  apply Plain.object
  intro m hm
  rw [List.mem_singleton.1 hm]
  exact .string entry.2

theorem canonical_properties : (properties t fileType).canonical = properties t fileType := by
  apply Json.canonical_object (propertyList_pairwise t fileType)
  intro m hm
  obtain ⟨entry, -, rfl⟩ := List.mem_map.1 hm
  rfl

theorem member?_value (key : String) :
    (value t fileType).member? key =
      if key = "properties" then some (properties t fileType)
      else (value .empty fileType).member? key := by
  simp only [value, Json.member?, List.reverse_cons, List.reverse_nil, List.nil_append,
    List.cons_append, SortedMap.lookup_binding]
  by_cases here : key = "properties"
  · subst here
    rfl
  · simp only [if_neg here]

theorem plain_value : Plain (value t fileType) := by
  apply Plain.object
  simp only [List.forall_mem_cons]
  exact ⟨.string _, .string _, .string _, plain_properties t fileType, .string _, by simp⟩

theorem canonical_value : (value t fileType).canonical = value t fileType := by
  apply Json.canonical_object
  · simp only [List.pairwise_cons, List.forall_mem_cons]
    decide +kernel
  · simp only [List.forall_mem_cons]
    exact ⟨rfl, rfl, rfl, canonical_properties t fileType, rfl, by simp⟩

/-- For each type of file there are members that every schema has, such that the text of the schema
of any table, with any indentation and also with the newline that ends the printed text, is read as
one and the same object in canonical form.  Its member `properties` maps the names of the table for
this type, and no others, to objects with their descriptions, and its other members are those that
every schema has. -/
theorem parseStrict?_render (fileType : FileType) :
    ∃ others : String → Option Value, ∀ t : Table, ∃ v properties,
      (∀ indent, Json.parseStrict? (render t fileType indent) = some v ∧
        Json.parseStrict? (render t fileType indent ++ "\n") = some v) ∧
      v.canonical = v ∧
      (∀ key, v.member? key =
        if key = "properties" then some (.object properties) else others key) ∧
      ∀ name, (Json.object properties).member? name =
        (t.describe? name fileType).map fun description =>
          .object [("description", .string description)] := by
  refine ⟨(value .empty fileType).member?, ?_⟩
  intro t
  refine ⟨value t fileType, propertyList t fileType, ?_, canonical_value t fileType,
    member?_value t fileType, member?_properties t fileType⟩
  intro indent
  have plain := plain_value t fileType
  refine ⟨?_, plain.parseStrict?_renderPretty indent Json.gap_newline⟩
  have whole := plain.parseStrict?_renderPretty indent Json.gap_nil
  rwa [String.ofList_nil, String.append_empty] at whole

end Schema

end Autotools
