import Autotools.Proofs.Document.MakeTrees
import Autotools.Proofs.Symbol.Converse

/-! What a search lists.  A node has an address in a scope: the index of its document, and its index
in the walk of the document's tree.  A search lists the nodes that match, at ascending addresses, so
none is lost and none is listed twice, and a node is found by the symbol that it stands for. -/

namespace Autotools

open Syntax

theorem Role.eq_of_family? {role : Role} {family : Family} (h : role.family? = some family) :
    role = if role.isDefinition then family.definition else family.reference := by
  cases role <;> cases h <;> rfl

/-! ### Matches -/

namespace Query

/-- A node is a place that a query asks for: it is there, it has the role in question, and it has
the name, as one of its segments if it is a call and as its text if it is not. -/
structure Matches (q : Query) (n : Node) : Prop where
  present : n.isMissing = false
  role : Role.ofNode n =
    match q.search with
    | .definitions => q.family.definition
    | .references => q.family.reference
  named : if Role.ofNode n = .functionCall then q.name ∈ Symbol.segments n.text
    else n.text = q.name

variable {q : Query} {n : Node}

theorem isMissing_of_role (h : Role.ofNode n = q.role) : n.isMissing = false := by
  obtain ⟨name, family, search⟩ := q
  cases missing : n.isMissing with
  | false => rfl
  | true =>
    rw [Role.ofNode, if_pos missing] at h
    cases family <;> cases search <;> cases h

theorem wants_iff_matches : q.wants n = true ↔ q.Matches n := by
  rw [wants, Bool.and_eq_true, beq_iff_eq]
  constructor
  · rintro ⟨role, named⟩
    refine ⟨isMissing_of_role role, role, ?_⟩
    rw [role]
    split at named <;> simp_all
  · rintro ⟨-, role, named⟩
    have role : Role.ofNode n = q.role := role
    refine ⟨role, ?_⟩
    rw [role] at named
    split <;> simp_all

theorem mem_findAll_iff_matches {scope : Scope} {o : Occurrence} :
    o ∈ q.findAll scope ↔ scope.Contains o ∧ q.Matches o.node := by
  rw [mem_findAll, wants_iff_matches]

theorem findFirst?_eq_head? (q : Query) (scope : Scope) :
    q.findFirst? scope = (q.findAll scope).head? := by
  induction scope with
  | nil => rfl
  | cons document scope ih =>
    rw [findAll, List.flatMap_cons, List.head?_append, List.head?_map, List.head?_filter]
    rw [findFirst?, List.findSome?_cons]
    cases found : document.2.nodes.find? q.wants with
    | none =>
      simp only [Option.map_none, Option.none_or]
      exact ih
    | some node => simp

end Query

/-! ### Addresses -/

namespace Scope

def at? (scope : Scope) (address : Nat × Nat) : Option Occurrence := do
  let document ← scope[address.1]?
  let node ← document.2.nodes[address.2]?
  return ⟨document.1, node⟩

/-- The indices of the items of a list that pass a test. -/
def indices {α : Type} (p : α → Bool) (l : List α) : List Nat :=
  (List.range l.length).filter fun i => l[i]?.any p

/-- The addresses of the nodes that pass a test, document by document. -/
def addresses (p : Node → Bool) : Scope → List (Nat × Nat)
  | [] => []
  | document :: scope =>
    (indices p document.2.nodes).map (Prod.mk 0) ++
      (addresses p scope).map fun address => (address.1 + 1, address.2)

theorem map_indices {α : Type} (p : α → Bool) (l : List α) :
    (indices p l).map (l[·]?) = (l.filter p).map some := by
  induction l with
  | nil => rfl
  | cons a l ih =>
    rw [indices, List.length_cons, List.range_succ_eq_map, List.filter_cons, List.filter_map]
    have rest : ((List.range l.length).filter fun i => l[i]?.any p).map (l[·]?) =
        (l.filter p).map some := ih
    cases test : p a <;> simp [test, Function.comp_def, rest]

theorem mem_indices {α : Type} {p : α → Bool} {l : List α} {i : Nat} :
    i ∈ indices p l ↔ ∃ a, l[i]? = some a ∧ p a = true := by
  rw [indices, List.mem_filter, List.mem_range]
  cases found : l[i]? with
  | none => simp
  | some a => simpa using fun _ => (List.getElem?_eq_some_iff.1 found).1

variable {p : Node → Bool} {scope : Scope}

theorem at?_zero (document : String × SyntaxTree) (scope : Scope) (i : Nat) :
    at? (document :: scope) (0, i) = (document.2.nodes[i]?).map (Occurrence.mk document.1) := by
  rw [at?]
  simp only [List.getElem?_cons_zero, Option.bind_eq_bind, Option.bind_some]
  cases document.2.nodes[i]? <;> rfl

theorem at?_succ (document : String × SyntaxTree) (scope : Scope) (d i : Nat) :
    at? (document :: scope) (d + 1, i) = scope.at? (d, i) := rfl

theorem map_at?_addresses (p : Node → Bool) (scope : Scope) :
    (addresses p scope).map scope.at? = (scope.places p).map some := by
  induction scope with
  | nil => rfl
  | cons document scope ih =>
    rw [addresses, places_cons, List.map_append, List.map_append, List.map_map, List.map_map, ← ih]
    congr 1
    calc (indices p document.2.nodes).map (at? (document :: scope) ∘ Prod.mk 0)
      _ = ((indices p document.2.nodes).map (document.2.nodes[·]?)).map
            (Option.map (Occurrence.mk document.1)) := by
          rw [List.map_map]
          exact List.map_congr_left fun i _ => at?_zero document scope i
      _ = (placesIn p document).map some := by
          rw [map_indices, placesIn, List.map_map, List.map_map]
          rfl

theorem pairwise_addresses (p : Node → Bool) (scope : Scope) :
    (addresses p scope).Pairwise (Prod.Lex (· < ·) (· < ·)) := by
  induction scope with
  | nil => exact .nil
  | cons document scope ih =>
    rw [addresses, List.pairwise_append, List.pairwise_map, List.pairwise_map]
    refine ⟨?_, ?_, ?_⟩
    · exact (List.pairwise_lt_range.filter _).imp fun less => .right _ less
    · apply ih.imp
      intro a b less
      rcases Prod.lex_def.1 less with first | ⟨same, second⟩
      · exact Prod.lex_def.2 (.inl (by simpa using first))
      · exact Prod.lex_def.2 (.inr ⟨by simpa using same, second⟩)
    · intro a inFirst b inRest
      obtain ⟨i, _, rfl⟩ := List.mem_map.1 inFirst
      obtain ⟨c, _, rfl⟩ := List.mem_map.1 inRest
      exact .left _ _ (Nat.succ_pos _)

theorem mem_addresses {address : Nat × Nat} :
    address ∈ addresses p scope ↔ ∃ o, scope.at? address = some o ∧ p o.node = true := by
  induction scope generalizing address with
  | nil => simp [addresses, at?]
  | cons document scope ih =>
    obtain ⟨d, i⟩ := address
    cases d with
    | zero => simp [addresses, at?_zero, mem_indices]
    | succ d =>
      rw [at?_succ, ← ih]
      simp [addresses]

/-- A node is among those that its own symbol asks for. -/
theorem mem_findAll_of_family {o : Occurrence} {family : Family} (inside : scope.Contains o)
    (h : (Role.ofNode o.node).family? = some family) :
    ∃ q, Query.ofSymbol? (Symbol.ofNode o.node)
        (if (Role.ofNode o.node).isDefinition then .definitions else .references) = some q ∧
      o ∈ q.findAll scope := by
  have role := Role.eq_of_family? h
  cases defines : (Role.ofNode o.node).isDefinition with
  | true =>
    rw [defines, if_pos rfl] at role
    refine ⟨_, Query.ofSymbol?_definition role .definitions, ?_⟩
    exact (mem_definitions_iff inside role).2 rfl
  | false =>
    -- the symbol of a call has the first segment as its name, and any segment is a match
    rw [defines, if_neg (by decide)] at role
    obtain ⟨name, asked, first⟩ := Query.ofSymbol?_reference role .references
    exact ⟨_, asked, (mem_references_iff inside role).2 (List.mem_of_head? first)⟩

/-- In any scope, a node of one of its trees that belongs to a family is found by the query that is
made from its own symbol, for definitions if its role is one and for references if it is not.  What
any query finds are nodes of the scope that match it, and all of them: they are listed at ascending
addresses, each address once, and no node comes twice if no two documents share their URI.  The
first place that is found is the head of this list. -/
theorem findAll_exact (scope : Scope) :
    (∀ o family, scope.Contains o → (Symbol.ofNode o.node).role.family? = some family →
      ∃ q, Query.ofSymbol? (Symbol.ofNode o.node)
          (if (Symbol.ofNode o.node).role.isDefinition then .definitions else .references) =
            some q ∧
        o ∈ q.findAll scope) ∧
    ∀ q : Query,
      (∀ o ∈ q.findAll scope, scope.Contains o ∧ q.Matches o.node) ∧
      (∃ addresses : List (Nat × Nat), addresses.Pairwise (Prod.Lex (· < ·) (· < ·)) ∧
        (q.findAll scope).map some = addresses.map scope.at? ∧
        ∀ address, address ∈ addresses ↔ ∃ o, scope.at? address = some o ∧ q.Matches o.node) ∧
      (scope.Pairwise (·.1 ≠ ·.1) → (q.findAll scope).Nodup) ∧
      q.findFirst? scope = (q.findAll scope).head? := by
  constructor
  · intro o family inside h
    rw [Symbol.role_ofNode] at h ⊢
    exact mem_findAll_of_family inside h
  · intro q
    refine ⟨fun o found => Query.mem_findAll_iff_matches.1 found, ?_,
      fun apart => nodup_places_of_ne apart q.wants, q.findFirst?_eq_head? scope⟩
    refine ⟨addresses q.wants scope, pairwise_addresses q.wants scope,
      (map_at?_addresses q.wants scope).symm, ?_⟩
    intro address
    simp only [mem_addresses, Query.wants_iff_matches]

/-- The call that mentions `greet` behind another name is found by its own symbol, and the search
for `greet` finds both calls, each once. -/
theorem findAll_greeting :
    let scope : Scope := [("Makefile", greeting)]
    let greet : Query := ⟨"greet", .functions, .references⟩
    (∃ o q, o.node.text = "other,greet" ∧
      Query.ofSymbol? (Symbol.ofNode o.node) .references = some q ∧ o ∈ q.findAll scope) ∧
    (greet.findAll scope).map (·.text) = ["greet,a", "other,greet"] ∧
    (greet.findAll scope).Nodup ∧ ∀ o ∈ greet.findAll scope, greet.Matches o.node := by
  intro scope greet
  obtain ⟨own, every⟩ := findAll_exact scope
  obtain ⟨matching, -, nodup, -⟩ := every greet
  refine ⟨?_, by decide +kernel, nodup (by simp [scope]), fun o found => (matching o found).2⟩
  obtain ⟨o, inside, call, text⟩ :
      ∃ o, scope.Contains o ∧ Role.ofNode o.node = .functionCall ∧ o.node.text = "other,greet" :=
    exists_greeting 8 (by decide +kernel)
  have role : (Symbol.ofNode o.node).role = .functionCall := by rw [Symbol.role_ofNode, call]
  obtain ⟨q, asked, found⟩ := own o .functions inside (by rw [role]; rfl)
  rw [role] at asked
  exact ⟨o, q, text, asked, found⟩

end Scope

end Autotools
