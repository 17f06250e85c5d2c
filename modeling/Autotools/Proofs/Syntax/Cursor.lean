import Autotools.Proofs.Syntax.Walk
import Autotools.Syntax.Lookup
import Mathlib.Data.List.Pairwise

/-! The node under a cursor.  The search goes down from the root, at each node into the first named
child whose bounds hold the offset, or else into the first such token, and stops where there is
none.  At a boundary two siblings may hold the offset; inside a node with nested bounds only one
child does, so that the search ends in the one leaf around the offset. -/

namespace Autotools.Syntax

namespace Node

/-- Whether a node may stand under a cursor at an offset: it is there, and its bounds, both counted,
hold the offset. -/
def covers (offset : Nat) (n : Node) : Bool :=
  !n.isMissing && n.start ≤ offset && offset ≤ n.stop

/-- The child to go on to from a node: the first named one that covers an offset, or else the first
token that does. -/
def childUnder? (offset : Nat) (n : Node) : Option Node :=
  (n.children.find? fun c => c.covers offset && c.isNamed).or
    (n.children.find? fun c => c.covers offset && !c.isNamed)

/-- The nodes that are met on the way down from a node, the last of which has no child to go on
to. -/
inductive Descent (offset : Nat) : Node → List Node → Node → Prop
  | arrived {n : Node} (none : n.childUnder? offset = none) : Descent offset n [] n
  | step {n c last : Node} {way : List Node} (into : n.childUnder? offset = some c)
      (rest : Descent offset c way last) : Descent offset n (c :: way) last

/-- The deepest node under an offset, from a node on. -/
def under (offset : Nat) (n : Node) : Node := locate n.source offset n.trail n.tree

variable {offset : Nat} {n c w last : Node} {way : List Node}

theorem covers_iff :
    n.covers offset = true ↔ n.isMissing = false ∧ n.start ≤ offset ∧ offset ≤ n.stop := by
  simp [covers, and_assoc]

theorem locateIn_eq (source : String) (offset : Nat) (named : Bool) (parent : Tree)
    (trail : List Step) (first : Nat) (ts : List Tree) :
    locateIn source offset named parent trail first ts =
      ((ts.mapIdx fun i t => (⟨source, t, ⟨parent, first + i⟩ :: trail⟩ : Node)).find?
        fun c => c.covers offset && c.isNamed == named).map (under offset) := by
  induction ts generalizing first with
  | nil => rfl
  | cons t ts ih =>
    rw [locateIn, ih, List.mapIdx_cons]
    simp only [Nat.add_zero, Nat.add_assoc, Nat.add_comm 1]
    split
    · next found =>
      rw [List.find?_cons_of_pos (by exact found)]
      rfl
    · next missed => rw [List.find?_cons_of_neg (by exact missed)]

theorem under_eq (offset : Nat) (n : Node) :
    n.under offset = ((n.childUnder? offset).map (under offset)).getD n := by
  obtain ⟨source, ⟨tag, children⟩, trail⟩ := n
  rw [under, locate, locateIn_eq, locateIn_eq, childUnder?, Option.map_or]
  simp only [Nat.zero_add, beq_true, beq_false, Option.orElse_eq_orElse, Option.orElse_eq_or]
  rfl

/-- A child to go on to is a child that covers the offset. -/
theorem covers_of_childUnder? (h : n.childUnder? offset = some c) :
    c ∈ n.children ∧ c.covers offset = true := by
  rcases Option.or_eq_some_iff.1 h with found | ⟨-, found⟩
  all_goals
    have test := List.find?_some found
    exact ⟨List.mem_of_find?_eq_some found, (Bool.and_eq_true_iff.1 test).1⟩

theorem childUnder?_eq_none :
    n.childUnder? offset = none ↔ ∀ c ∈ n.children, c.covers offset = false := by
  rw [childUnder?, Option.or_eq_none_iff, List.find?_eq_none, List.find?_eq_none]
  constructor
  · rintro ⟨named, token⟩ c child
    cases covered : c.covers offset with
    | false => rfl
    | true => cases kind : c.isNamed <;> simp_all
  · intro none
    constructor <;> intro c child <;> simp [none c child]

/-- If only one child covers an offset, the way leads into it. -/
theorem childUnder?_of_only (child : c ∈ n.children) (covered : c.covers offset = true)
    (only : ∀ d ∈ n.children, d.covers offset = true → d = c) :
    n.childUnder? offset = some c := by
  cases next : n.childUnder? offset with
  | none => simp [childUnder?_eq_none.1 next c child] at covered
  | some d =>
    obtain ⟨other, under⟩ := covers_of_childUnder? next
    rw [only d other under]

theorem exists_descent (offset : Nat) (n : Node) :
    ∃ way, Descent offset n way (n.under offset) := by
  induction n using induction_children with
  | step n ih =>
    rw [under_eq]
    cases next : n.childUnder? offset with
    | none => exact ⟨[], .arrived next⟩
    | some c =>
      obtain ⟨way, descent⟩ := ih c (covers_of_childUnder? next).1
      exact ⟨c :: way, .step next descent⟩

theorem Descent.covers (h : Descent offset n way last) : ∀ m ∈ way, m.covers offset = true := by
  induction h with
  | arrived => simp
  | step into rest ih =>
    exact List.forall_mem_cons.2 ⟨(covers_of_childUnder? into).2, ih⟩

theorem Descent.last_eq (h : Descent offset n way last) : last = n ∨ last ∈ way := by
  induction h with
  | arrived => exact .inl rfl
  | step into rest ih =>
    right
    rcases ih with rfl | deeper
    · exact List.mem_cons_self ..
    · exact List.mem_cons_of_mem _ deeper

theorem Descent.last_mem_descendants (h : Descent offset n way last) : last ∈ n.descendants := by
  induction h with
  | arrived => exact mem_descendants.2 (.inl rfl)
  | step into _ ih => exact mem_descendants.2 (.inr ⟨_, (covers_of_childUnder? into).1, ih⟩)

theorem Descent.childUnder?_last (h : Descent offset n way last) :
    last.childUnder? offset = none := by
  induction h with
  | arrived none => exact none
  | step _ _ ih => exact ih

end Node

namespace SyntaxTree

/-- The bounds of a tree are nested: a child lies in its parent, siblings follow each other without
overlap, and a missing node is empty and not the root. -/
structure Nested (t : SyntaxTree) : Prop where
  inside : ∀ n ∈ t.nodes, ∀ c ∈ n.children, n.start ≤ c.start ∧ c.stop ≤ n.stop
  apart : ∀ n ∈ t.nodes, n.children.Pairwise fun a b => a.stop ≤ b.start
  missing : ∀ n ∈ t.nodes, n.isMissing = true → n.start = n.stop
  root : t.rootNode.isMissing = false

variable {t : SyntaxTree} {n c w : Node} {offset : Nat}

theorem Nested.bounds_descendants (nested : t.Nested) (member : n ∈ t.nodes)
    (below : w ∈ n.descendants) : n.start ≤ w.start ∧ w.stop ≤ n.stop := by
  induction n using Node.induction_children with
  | step n ih =>
    rcases Node.mem_descendants.1 below with rfl | ⟨c, child, below⟩
    · exact ⟨Nat.le_refl _, Nat.le_refl _⟩
    · have outer := nested.inside n member c child
      have inner := ih c child (mem_nodes_of_mem_children member child) below
      omega

/-- A node with an offset inside it and not at its ends is there. -/
theorem Nested.covers_of_inside (nested : t.Nested) (member : n ∈ t.nodes)
    (start : n.start < offset) (stop : offset < n.stop) : n.covers offset = true := by
  refine Node.covers_iff.2 ⟨?_, by omega, by omega⟩
  cases missing : n.isMissing with
  | false => rfl
  | true =>
    have := nested.missing n member missing
    omega

/-- Of two children one lies before the other. -/
theorem Nested.apart_of_ne (nested : t.Nested) (member : n ∈ t.nodes) {d : Node}
    (child : c ∈ n.children) (sibling : d ∈ n.children) (other : c ≠ d) :
    c.stop ≤ d.start ∨ d.stop ≤ c.start := by
  have apart : n.children.Pairwise fun a b => a.stop ≤ b.start ∨ b.stop ≤ a.start :=
    (nested.apart n member).imp fun h => .inl h
  have : Std.Symm fun a b : Node => a.stop ≤ b.start ∨ b.stop ≤ a.start :=
    ⟨fun _ _ h => h.symm⟩
  exact apart.forall child sibling other

/-- No sibling of a node reaches into its inside. -/
theorem Nested.eq_of_covers (nested : t.Nested) (member : n ∈ t.nodes) {d : Node}
    (child : c ∈ n.children) (start : c.start < offset) (stop : offset < c.stop)
    (sibling : d ∈ n.children) (covered : d.covers offset = true) : d = c := by
  by_contra other
  obtain ⟨-, low, high⟩ := Node.covers_iff.1 covered
  rcases nested.apart_of_ne member sibling child other with before | after <;> omega

/-- Two childless nodes around the same text are the same node. -/
theorem Nested.eq_of_bounds (nested : t.Nested) (member : n ∈ t.nodes) {v w : Node}
    (below : v ∈ n.descendants) (below' : w ∈ n.descendants) (leaf : v.children = [])
    (leaf' : w.children = []) (start : v.start = w.start) (stop : v.stop = w.stop)
    (wide : v.start < v.stop) : v = w := by
  induction n using Node.induction_children with
  | step n ih =>
    rcases Node.mem_descendants.1 below with rfl | ⟨c, child, under⟩
    · rcases Node.mem_descendants.1 below' with same | ⟨d, child, _⟩
      · exact same.symm
      · simp [leaf] at child
    · rcases Node.mem_descendants.1 below' with rfl | ⟨d, child', under'⟩
      · simp [leaf'] at child
      · have inTree := mem_nodes_of_mem_children member child
        have inTree' := mem_nodes_of_mem_children member child'
        have bounds := nested.bounds_descendants inTree under
        have bounds' := nested.bounds_descendants inTree' under'
        by_cases same : c = d
        · exact ih c child inTree under (same ▸ under')
        · rcases nested.apart_of_ne member child child' same with before | after <;> omega

/-- The way down ends in a childless node with the offset inside it. -/
theorem Nested.under_eq_leaf (nested : t.Nested) (member : n ∈ t.nodes)
    (below : w ∈ n.descendants) (leaf : w.children = []) (start : w.start < offset)
    (stop : offset < w.stop) : n.under offset = w := by
  induction n using Node.induction_children with
  | step n ih =>
    rw [Node.under_eq]
    rcases Node.mem_descendants.1 below with rfl | ⟨c, child, below⟩
    · rw [Node.childUnder?_eq_none.2 (by simp [leaf])]
      rfl
    · have inTree := mem_nodes_of_mem_children member child
      have bounds := nested.bounds_descendants inTree below
      have next : n.childUnder? offset = some c := by
        refine Node.childUnder?_of_only child
          (nested.covers_of_inside inTree (by omega) (by omega)) ?_
        intro d sibling covered
        exact nested.eq_of_covers member child (by omega) (by omega) sibling covered
      rw [next]
      exact ih c child inTree below

theorem nodeAt?_eq_none : t.nodeAt? offset = none ↔ t.rootNode.stop < offset := by
  have stop : t.rootNode.stop = t.root.tag.stop := rfl
  rw [nodeAt?, stop]
  split
  · next past => simpa using past
  · next inside => simpa using inside

theorem nodeAt?_eq_some (inside : offset ≤ t.rootNode.stop) :
    t.nodeAt? offset = some (t.rootNode.under offset) :=
  if_neg (Nat.not_lt.2 inside)

/-- What is found at a position is a node of the tree. -/
theorem mem_nodes_of_nodeAtPoint? {position : Point} (h : t.nodeAtPoint? position = some n) :
    n ∈ t.nodes := by
  obtain ⟨offset, _, found⟩ := Option.bind_eq_some_iff.1 h
  obtain ⟨_, descent⟩ := Node.exists_descent offset t.rootNode
  have inside : offset ≤ t.rootNode.stop := by
    by_contra past
    rw [nodeAt?_eq_none.2 (by omega)] at found
    cases found
  rw [nodeAt?_eq_some inside, Option.some.injEq] at found
  exact found ▸ descent.last_mem_descendants

/-- In every nested tree and for every offset: there is no node at the offset just if it is past the
end of the root.  Otherwise it is the last node on the way down from the root, on which each step
goes to the first named child that covers the offset, or to the first token that does when no named
child does, until no child covers it.  The node is not missing; all nodes on the way below the root
cover the offset, and so does the node itself unless it is the root and the offset is before it.
For an offset inside a childless node, it is that node. -/
theorem nodeAt?_nested (nested : t.Nested) (offset : Nat) :
    (t.nodeAt? offset = none ↔ t.rootNode.stop < offset) ∧
    (offset ≤ t.rootNode.stop → ∃ n way, t.nodeAt? offset = some n ∧
      Node.Descent offset t.rootNode way n ∧ (∀ c ∈ n.children, c.covers offset = false) ∧
      n.isMissing = false ∧ (∀ m ∈ way, m.covers offset = true) ∧ (n = t.rootNode ∨ n ∈ way) ∧
      (t.rootNode.start ≤ offset → n.covers offset = true)) ∧
    ∀ w ∈ t.nodes, w.children = [] → w.start < offset → offset < w.stop →
      t.nodeAt? offset = some w := by
  refine ⟨nodeAt?_eq_none, ?_, ?_⟩
  · intro inside
    obtain ⟨way, descent⟩ := Node.exists_descent offset t.rootNode
    have ends := descent.last_eq
    refine ⟨_, way, nodeAt?_eq_some inside, descent,
      Node.childUnder?_eq_none.1 descent.childUnder?_last, ?_, descent.covers, ends, ?_⟩
    · rcases ends with root | below
      · rw [root]
        exact nested.root
      · exact (Node.covers_iff.1 (descent.covers _ below)).1
    · intro reached
      rcases ends with root | below
      · rw [root]
        exact Node.covers_iff.2 ⟨nested.root, reached, inside⟩
      · exact descent.covers _ below
  · intro w member leaf start stop
    have bounds := nested.bounds_descendants t.rootNode_mem_nodes member
    rw [nodeAt?_eq_some (by omega),
      nested.under_eq_leaf t.rootNode_mem_nodes member leaf start stop]

/-- The tree of a rule without a target, behind two empty lines. -/
def targetless : SyntaxTree where
  source := "\n\n: foo\n"
  root := .node ⟨"makefile", true, false, true, 2, 8, none⟩
    [.node ⟨"rule", true, false, true, 2, 8, none⟩
      [.node ⟨"targets", true, false, true, 2, 2, none⟩
        [.node ⟨"word", true, true, true, 2, 2, none⟩ []],
       .node ⟨":", false, false, false, 2, 3, none⟩ [],
       .node ⟨"prerequisites", true, false, false, 4, 7, some "normal"⟩
        [.node ⟨"word", true, false, false, 4, 7, none⟩ []]]]

theorem nodeAt?_targetless :
    targetless.nodeAt? 9 = none ∧
    (∃ n way, targetless.nodeAt? 2 = some n ∧ Node.Descent 2 targetless.rootNode way n ∧
      n.isMissing = false ∧ n.covers 2 = true) ∧
    ∃ w ∈ targetless.nodes, w.text = "foo" ∧ targetless.nodeAt? 5 = some w := by
  have nested : targetless.Nested :=
    ⟨by decide +kernel, by decide +kernel, by decide +kernel, by decide⟩
  refine ⟨(nodeAt?_nested nested 9).1.2 (by decide), ?_, ?_⟩
  · obtain ⟨n, way, found, descent, -, present, -, -, covered⟩ :=
      (nodeAt?_nested nested 2).2.1 (by decide)
    exact ⟨n, way, found, descent, present, covered (by decide)⟩
  · obtain ⟨w, member, text, leaf, start, stop⟩ : ∃ w ∈ targetless.nodes,
        w.text = "foo" ∧ w.children.length = 0 ∧ w.start < 5 ∧ 5 < w.stop := by decide +kernel
    exact ⟨w, member, text,
      (nodeAt?_nested nested 5).2.2 w member (List.eq_nil_of_length_eq_zero leaf) start stop⟩

end SyntaxTree

end Autotools.Syntax
