import Autotools.Proofs.Symbol.Effective
import Mathlib.Data.List.Dedup

/-! The targets that a later rule takes over.  The walk over the targets from the end of a tree
reports, in document order and each once, every target with an undotted name that a later target
repeats, and names the last target of that name as the one in effect.  So for every undotted name
all targets but the last are reported. -/

namespace Autotools

open Syntax

/-- The targets of the rules of a tree whose names may not be repeated, in pre-order. -/
def Syntax.SyntaxTree.undottedTargets (t : SyntaxTree) : List Node :=
  t.nodes.filter fun n => Role.ofNode n = .targetDefinition ∧ n.text.toList.head? ≠ some '.'

/-- A target with an undotted name, and behind it in pre-order a target with the same text. -/
def Syntax.SyntaxTree.Repeats (t : SyntaxTree) (n : Node) : Prop :=
  Role.ofNode n = .targetDefinition ∧ n.text.toList.head? ≠ some '.' ∧
    ∃ before after, t.nodes = before ++ n :: after ∧
      ∃ m ∈ after, Role.ofNode m = .targetDefinition ∧ m.text = n.text

theorem undottedTargets_eq (t : SyntaxTree) :
    t.undottedTargets = t.targets.filter (!Shadowed.mayRepeat ·.text) := by
  rw [SyntaxTree.undottedTargets, SyntaxTree.targets, List.filter_filter]
  congr 1
  funext n
  simp [Shadowed.mayRepeat, Bool.and_comm]

namespace Shadowed

theorem shadowed_cons_of_none {n : Node} {ns : List Node}
    (h : (later ns).effective.lookup n.text = none) :
    (later (n :: ns)).shadowed = (later ns).shadowed := by
  have step : later (n :: ns) = Later.before (n.text, n) (later ns) := rfl
  simp only [step, Later.before, h]

theorem shadowed_cons_of_some {n definition : Node} {ns : List Node}
    (h : (later ns).effective.lookup n.text = some definition) :
    (later (n :: ns)).shadowed =
      if mayRepeat n.text then (later ns).shadowed else ⟨n, definition⟩ :: (later ns).shadowed := by
  have step : later (n :: ns) = Later.before (n.text, n) (later ns) := rfl
  simp only [step, Later.before, h]
  split <;> rfl

/-- The reported targets are in document order. -/
theorem sublist_later (ns : List Node) : ((later ns).shadowed.map (·.node)).Sublist ns := by
  induction ns with
  | nil => exact .slnil
  | cons n ns ih =>
    cases known : (later ns).effective.lookup n.text with
    | none =>
      rw [shadowed_cons_of_none known]
      exact ih.cons n
    | some definition =>
      rw [shadowed_cons_of_some known]
      split
      · exact ih.cons n
      · exact ih.cons_cons n

theorem lookup_effective_eq_none {ns : List Node} {name : String} :
    (later ns).effective.lookup name = none ↔ name ∉ ns.map (·.text) := by
  rw [lookup_effective, List.getLast?_eq_none_iff, List.filter_eq_nil_iff]
  simp

/-- Of each undotted name, all targets but one are reported. -/
theorem length_later (ns : List Node) :
    (later ns).shadowed.length +
        ((ns.filter (!mayRepeat ·.text)).map (·.text)).dedup.length =
      (ns.filter (!mayRepeat ·.text)).length := by
  induction ns with
  | nil => rfl
  | cons n ns ih =>
    cases dotted : mayRepeat n.text with
    | true =>
      rw [List.filter_cons_of_neg (by simp [dotted]), ← ih]
      cases known : (later ns).effective.lookup n.text with
      | none => rw [shadowed_cons_of_none known]
      | some definition => rw [shadowed_cons_of_some known, if_pos dotted]
    | false =>
      have among : n.text ∈ (ns.filter (!mayRepeat ·.text)).map (·.text) ↔
          n.text ∈ ns.map (·.text) := by
        simp only [List.mem_map, List.mem_filter]
        constructor
        · rintro ⟨m, ⟨member, _⟩, same⟩
          exact ⟨m, member, same⟩
        · rintro ⟨m, member, same⟩
          exact ⟨m, ⟨member, by rw [same, dotted]; rfl⟩, same⟩
      rw [List.filter_cons_of_pos (by simp [dotted]), List.map_cons, List.length_cons, ← ih]
      cases known : (later ns).effective.lookup n.text with
      | none =>
        have new := lookup_effective_eq_none.1 known
        rw [shadowed_cons_of_none known, List.dedup_cons_of_notMem (among.not.2 new),
          List.length_cons]
        omega
      | some definition =>
        have old : n.text ∈ ns.map (·.text) := by
          by_contra new
          rw [lookup_effective_eq_none.2 new] at known
          cases known
        rw [shadowed_cons_of_some known, if_neg (by simp [dotted]),
          List.dedup_cons_of_mem (among.2 old), List.length_cons]
        omega

variable {t : SyntaxTree} {s : Shadowed} {n : Node}

/-- A target is reported if and only if a later target repeats its undotted name. -/
theorem mem_map_node_ofTree : n ∈ (ofTree t).map (·.node) ↔ t.Repeats n := by
  have undotted : mayRepeat n.text = false ↔ n.text.toList.head? ≠ some '.' := by
    simp [mayRepeat]
  rw [List.mem_map, SyntaxTree.Repeats, ← undotted]
  constructor
  · rintro ⟨s, reported, rfl⟩
    obtain ⟨undotted, before, after, split, last⟩ := (mem_later_shadowed t.targets s).1 reported
    obtain ⟨later, sameText⟩ := List.mem_filter.1 (List.mem_of_getLast? last)
    obtain ⟨front, back, nodes, -, behind⟩ := List.filter_eq_append_iff.1 split
    obtain ⟨between, rest, rfl, -, target, rfl⟩ := List.filter_eq_cons_iff.1 behind
    obtain ⟨inRest, sameRole⟩ := List.mem_filter.1 later
    exact ⟨by simpa using target, undotted, front ++ between, rest, by rw [nodes]; simp,
      s.definition, inRest, by simpa using sameRole, by simpa using sameText⟩
  · rintro ⟨target, undotted, before, after, split, m, later, sameRole, sameText⟩
    let behind := after.filter (Role.ofNode · = .targetDefinition)
    have found : m ∈ behind.filter (·.text = n.text) := by
      simp [behind, later, sameRole, sameText]
    obtain ⟨definition, last⟩ : ∃ d, (behind.filter (·.text = n.text)).getLast? = some d :=
      Option.isSome_iff_exists.1 (List.getLast?_isSome.2 (List.ne_nil_of_mem found))
    refine ⟨⟨n, definition⟩, (mem_later_shadowed t.targets _).2 ⟨undotted,
      before.filter (Role.ofNode · = .targetDefinition), behind, ?_, last⟩, rfl⟩
    rw [SyntaxTree.targets, split, List.filter_append,
      List.filter_cons_of_pos (by simpa using target)]

/-- A reported target is paired with the last target of its name. -/
theorem getLast?_targetsOf (reported : s ∈ ofTree t) :
    (t.targetsOf s.node.text).getLast? = some s.definition := by
  obtain ⟨-, before, after, split, last⟩ := (mem_later_shadowed t.targets s).1 reported
  rw [targetsOf_eq, split, List.filter_append, List.filter_cons_of_pos (by simp),
    List.getLast?_append, List.getLast?_cons, last]
  rfl

/-- For every tree, the shadowed targets are, in document order and each once, the targets with an
undotted name that a later target in pre-order repeats, each paired with the last target of that
name in the whole tree.  So no target that is named as the one in effect is reported itself, and the
number of reports is the number of targets with undotted names less the number of these names. -/
theorem ofTree_exact (t : SyntaxTree) :
    ((ofTree t).map (·.node)).Sublist t.nodes ∧ ((ofTree t).map (·.node)).Nodup ∧
    (∀ n, n ∈ (ofTree t).map (·.node) ↔ t.Repeats n) ∧
    (∀ s ∈ ofTree t, (t.targetsOf s.node.text).getLast? = some s.definition) ∧
    (∀ s ∈ ofTree t, s.definition ∉ (ofTree t).map (·.node)) ∧
    (ofTree t).length + (t.undottedTargets.map (·.text)).dedup.length =
      t.undottedTargets.length := by
  have ordered : ((ofTree t).map (·.node)).Sublist t.nodes :=
    (sublist_later t.targets).trans List.filter_sublist
  refine ⟨ordered, ordered.nodup t.nodup_nodes, fun _ => mem_map_node_ofTree,
    fun _ => getLast?_targetsOf, ?_, ?_⟩
  · intro s reported inEffect
    obtain ⟨other, also, same⟩ := List.mem_map.1 inEffect
    exact node_ne_effective (getLast?_targetsOf reported) other also same
  · rw [undottedTargets_eq]
    exact length_later t.targets

end Shadowed

end Autotools
