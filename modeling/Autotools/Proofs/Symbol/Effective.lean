import Autotools.SortedMap
import Autotools.Symbol.Search
import Autotools.Symbol.Shadow
import Autotools.Proofs.Syntax.Walk

/-! The rule in effect for a target.  `Query.effectiveFirst` finds it in the places of all
documents by moving the last place of the first document to the front, and `Shadowed.ofTree` finds
it in one tree by walking its targets from the end.  Both take the last target of a name in
pre-order. -/

namespace Autotools

open Syntax

/-- The targets of the rules of a tree, in pre-order. -/
def Syntax.SyntaxTree.targets (t : SyntaxTree) : List Node :=
  t.nodes.filter (Role.ofNode · = .targetDefinition)

/-- Whether a node is the target of a rule for a name. -/
def Syntax.Node.isTargetOf (name : String) (n : Node) : Bool :=
  Role.ofNode n = .targetDefinition ∧ n.text = name

/-- The targets of the rules of a tree for a name, in pre-order. -/
def Syntax.SyntaxTree.targetsOf (t : SyntaxTree) (name : String) : List Node :=
  t.nodes.filter (·.isTargetOf name)

theorem targetsOf_eq (t : SyntaxTree) (name : String) :
    t.targetsOf name = t.targets.filter (·.text = name) := by
  rw [SyntaxTree.targetsOf, SyntaxTree.targets, List.filter_filter]
  congr 1
  funext n
  simp [Node.isTargetOf, Bool.and_comm]

theorem nodup_targets (t : SyntaxTree) : t.targets.Nodup := t.nodup_nodes.filter _

namespace Query

/-- When the places of the first document end with `last` and all others are in other documents,
`last` comes to the front and the rest stay in order. -/
theorem effectiveFirst_append {earlier others : List Occurrence} {last : Occurrence}
    (own : ∀ o ∈ earlier, o.uri = last.uri) (away : ∀ o ∈ others, o.uri ≠ last.uri) :
    effectiveFirst (earlier ++ last :: others) = last :: (earlier ++ others) := by
  obtain ⟨first, rest, split, uri⟩ :
      ∃ first rest, earlier ++ last :: others = first :: rest ∧ first.uri = last.uri := by
    cases earlier with
    | nil => exact ⟨last, others, rfl, rfl⟩
    | cons first earlier =>
      exact ⟨first, earlier ++ last :: others, rfl, own first (by simp)⟩
  have elsewhere : ∀ o ∈ others.reverse, (o.uri != first.uri) = true := by
    intro o ho
    rw [uri]
    simpa using away o (List.mem_reverse.1 ho)
  have here : (last.uri != first.uri) = false := by simp [uri]
  have backward : (first :: rest).reverse = others.reverse ++ last :: earlier.reverse := by
    rw [← split]; simp
  simp only [split, effectiveFirst, backward]
  rw [List.dropWhile_append_of_pos elsewhere, List.takeWhile_append_of_pos elsewhere,
    List.dropWhile_cons_of_neg (by simp [here]), List.takeWhile_cons_of_neg (by simp [here])]
  simp

end Query

namespace Shadowed

/-- What is known in front of some targets. -/
def later (ns : List Node) : Later := (ns.map fun n => (n.text, n)).foldr Later.before ⟨[], []⟩

theorem ofTree_eq (t : SyntaxTree) : ofTree t = (later t.targets).shadowed := rfl

theorem effective_before_of_some {target : String × Node} {known : Later} {definition : Node}
    (h : known.effective.lookup target.1 = some definition) :
    (Later.before target known).effective = known.effective := by
  simp only [Later.before, h]
  split <;> rfl

theorem effective_before_of_none {target : String × Node} {known : Later}
    (h : known.effective.lookup target.1 = none) :
    (Later.before target known).effective = target :: known.effective := by
  simp only [Later.before, h]

/-- The target in effect for a name is the last one. -/
theorem lookup_effective (ns : List Node) (name : String) :
    (later ns).effective.lookup name = (ns.filter (·.text = name)).getLast? := by
  induction ns generalizing name with
  | nil => rfl
  | cons n ns ih =>
    have step : later (n :: ns) = Later.before (n.text, n) (later ns) := rfl
    rw [step]
    cases known : (later ns).effective.lookup n.text with
    | some definition =>
      rw [effective_before_of_some known, ih]
      by_cases same : n.text = name
      · rw [List.filter_cons_of_pos (by simpa using same), List.getLast?_cons, ← same, ← ih, known]
        rfl
      · rw [List.filter_cons_of_neg (by simpa using same)]
    | none =>
      rw [effective_before_of_none known, SortedMap.lookup_binding]
      by_cases same : n.text = name
      · rw [List.filter_cons_of_pos (by simpa using same), List.getLast?_cons, ← same, ← ih, known,
          if_pos rfl]
        rfl
      · rw [List.filter_cons_of_neg (by simpa using same), if_neg (Ne.symm same), ih]

theorem mem_shadowed_before {target : String × Node} {known : Later} {s : Shadowed} :
    s ∈ (Later.before target known).shadowed ↔
      (mayRepeat target.1 = false ∧ s.node = target.2 ∧
        known.effective.lookup target.1 = some s.definition) ∨ s ∈ known.shadowed := by
  obtain ⟨node, definition⟩ := s
  simp only [Later.before]
  cases known.effective.lookup target.1 with
  | none => simp
  | some effective =>
    cases mayRepeat target.1 with
    | true => simp
    | false => simp [eq_comm]

/-- A target is shadowed if a later one has its name, which may not repeat, and then by the last
of these. -/
theorem mem_later_shadowed (ns : List Node) (s : Shadowed) :
    s ∈ (later ns).shadowed ↔ mayRepeat s.node.text = false ∧
      ∃ before after, ns = before ++ s.node :: after ∧
        (after.filter (·.text = s.node.text)).getLast? = some s.definition := by
  induction ns with
  | nil => simp [later]
  | cons n ns ih =>
    have step : later (n :: ns) = Later.before (n.text, n) (later ns) := rfl
    rw [step, mem_shadowed_before, ih, lookup_effective]
    constructor
    · rintro (⟨may, rfl, last⟩ | ⟨may, before, after, rfl, last⟩)
      · exact ⟨may, [], ns, rfl, last⟩
      · exact ⟨may, n :: before, after, rfl, last⟩
    · rintro ⟨may, before, after, split, last⟩
      cases before with
      | nil =>
        obtain ⟨rfl, rfl⟩ := List.cons.inj split
        exact .inl ⟨may, rfl, last⟩
      | cons first before =>
        obtain ⟨rfl, rfl⟩ := List.cons.inj split
        exact .inr ⟨may, before, after, rfl, last⟩

variable {t : SyntaxTree} {name : String} {n effective : Node}

/-- Past a target of a name, the last target of that name is the one in effect if there is one. -/
theorem effective_of_split {before after : List Node} (split : t.targets = before ++ n :: after)
    (last : (t.targetsOf n.text).getLast? = some effective) :
    (after.filter (·.text = n.text)).getLast?.getD n = effective := by
  rw [targetsOf_eq, split, List.filter_append, List.filter_cons_of_pos (by simp),
    List.getLast?_append, List.getLast?_cons] at last
  simpa using last

/-- The target in effect is not reported. -/
theorem node_ne_effective (last : (t.targetsOf name).getLast? = some effective) :
    ∀ s ∈ ofTree t, s.node ≠ effective := by
  rintro s hs rfl
  have named : s.node.text = name := by
    have := List.mem_of_getLast? last
    simp only [SyntaxTree.targetsOf, Node.isTargetOf, List.mem_filter, decide_eq_true_eq] at this
    exact this.2.2
  subst named
  obtain ⟨_, before, after, split, found⟩ := (mem_later_shadowed t.targets s).1 hs
  have same : s.definition = s.node := by
    simpa [found] using effective_of_split split last
  -- the definition stands behind the target, and a target occurs only once
  have behind : s.node ∈ after := by
    rw [← same]
    exact (List.mem_filter.1 (List.mem_of_getLast? found)).1
  have distinct := nodup_targets t
  rw [split, List.nodup_append, List.nodup_cons] at distinct
  exact distinct.2.1.1 behind

/-- Every other target of an undotted name is reported, with the one in effect as its
definition. -/
theorem mem_ofTree_iff_eq_effective (undotted : mayRepeat name = false)
    (last : (t.targetsOf name).getLast? = some effective) (hn : n ∈ t.targetsOf name)
    (other : n ≠ effective) (definition : Node) :
    ⟨n, definition⟩ ∈ ofTree t ↔ definition = effective := by
  rw [targetsOf_eq] at hn
  obtain ⟨target, named⟩ := List.mem_filter.1 hn
  obtain rfl : n.text = name := by simpa using named
  rw [ofTree_eq, mem_later_shadowed]
  constructor
  · rintro ⟨_, before, after, split, found⟩
    simpa [found] using effective_of_split split last
  · rintro rfl
    obtain ⟨before, after, split⟩ := List.append_of_mem target
    refine ⟨undotted, before, after, split, ?_⟩
    have found := effective_of_split split last
    cases behind : (after.filter (·.text = n.text)).getLast? with
    | none =>
      rw [behind] at found
      exact absurd found other
    | some d =>
      rw [behind] at found
      exact congrArg some found

end Shadowed

end Autotools
