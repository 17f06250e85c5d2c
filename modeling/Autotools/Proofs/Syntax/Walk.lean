import Autotools.Syntax.Node

/-! The pre-order walk meets every place once.  A node met in a walk has the trail of the walk's
start at the end of its own trail, and above that the child through which it was reached, so the
walks of two children share no node. -/

namespace Autotools.Syntax

namespace Node

variable {source : String} {n : Node}

mutual

/-- A node met in a walk is reached along the trail of the walk's start. -/
theorem trail_of_mem_walk {trail : List Step} :
    (t : Tree) → n ∈ walk source trail t → ∃ steps, n.trail = steps ++ trail
  | .node tag children, h => by
    rw [walk] at h
    rcases List.mem_cons.1 h with rfl | h
    · exact ⟨[], rfl⟩
    · obtain ⟨steps, index, _, reached⟩ := trail_of_mem_walkAll children h
      exact ⟨steps ++ [⟨.node tag children, index⟩], by simp [reached]⟩

/-- A node met in the walks of children is reached through one of them. -/
theorem trail_of_mem_walkAll {parent : Tree} {trail : List Step} {first : Nat} :
    (ts : List Tree) → n ∈ walkAll source parent trail first ts →
      ∃ steps index, first ≤ index ∧ n.trail = steps ++ ⟨parent, index⟩ :: trail
  | [], h => by cases h
  | t :: rest, h => by
    rw [walkAll] at h
    rcases List.mem_append.1 h with h | h
    · obtain ⟨steps, reached⟩ := trail_of_mem_walk t h
      exact ⟨steps, first, Nat.le_refl _, reached⟩
    · obtain ⟨steps, index, le, reached⟩ := trail_of_mem_walkAll rest h
      exact ⟨steps, index, by omega, reached⟩

end

mutual

theorem source_of_mem_walk {trail : List Step} :
    (t : Tree) → n ∈ walk source trail t → n.source = source
  | .node tag children, h => by
    rw [walk] at h
    rcases List.mem_cons.1 h with rfl | h
    · rfl
    · exact source_of_mem_walkAll children h

theorem source_of_mem_walkAll {parent : Tree} {trail : List Step} {first : Nat} :
    (ts : List Tree) → n ∈ walkAll source parent trail first ts → n.source = source
  | [], h => by cases h
  | t :: rest, h => by
    rw [walkAll] at h
    rcases List.mem_append.1 h with h | h
    · exact source_of_mem_walk t h
    · exact source_of_mem_walkAll rest h

end

/-- Two trails that run together after one step each have the same step there. -/
theorem step_eq_of_append_eq {before after : List Step} {x y : Step} {trail : List Step}
    (h : before ++ x :: trail = after ++ y :: trail) : x = y := by
  have size : before.length = after.length := by
    have := congrArg List.length h
    simp only [List.length_append, List.length_cons] at this
    omega
  exact (List.cons.inj (List.append_inj h size).2).1

mutual

theorem nodup_walk (trail : List Step) : (t : Tree) → (walk source trail t).Nodup
  | .node tag children => by
    rw [walk, List.nodup_cons]
    refine ⟨?_, nodup_walkAll _ trail 0 children⟩
    intro below
    obtain ⟨steps, index, _, reached⟩ := trail_of_mem_walkAll children below
    have := congrArg List.length reached
    simp only [List.length_append, List.length_cons] at this
    omega

theorem nodup_walkAll (parent : Tree) (trail : List Step) (first : Nat) :
    (ts : List Tree) → (walkAll source parent trail first ts).Nodup
  | [] => List.nodup_nil
  | t :: rest => by
    rw [walkAll, List.nodup_append]
    refine ⟨nodup_walk _ t, nodup_walkAll parent trail (first + 1) rest, ?_⟩
    intro a inFirst b inRest same
    obtain ⟨before, throughFirst⟩ := trail_of_mem_walk t inFirst
    obtain ⟨after, index, later, throughRest⟩ := trail_of_mem_walkAll rest inRest
    rw [same, throughRest] at throughFirst
    have step := step_eq_of_append_eq throughFirst
    simp only [Step.mk.injEq, true_and] at step
    omega

end

/-! ### Children -/

theorem sizeOf_tree_lt_of_mem_children {n c : Node} (h : c ∈ n.children) :
    sizeOf c.tree < sizeOf n.tree := by
  obtain ⟨index, inside, rfl⟩ := List.mem_mapIdx.1 h
  have member : n.tree.children[index] ∈ n.tree.children := List.getElem_mem inside
  have small := List.sizeOf_lt_of_mem member
  cases n with
  | mk source tree trail =>
    cases tree with
    | node tag children =>
      simp only [Tree.children, below] at small ⊢
      rw [Tree.node.sizeOf_spec]
      omega

/-- What holds of a node as soon as it holds of its children holds of every node. -/
theorem induction_children {motive : Node → Prop}
    (step : ∀ n, (∀ c ∈ n.children, motive c) → motive n) (n : Node) : motive n :=
  step n fun c _ => induction_children step c
termination_by sizeOf n.tree
decreasing_by exact sizeOf_tree_lt_of_mem_children ‹_›

theorem walkAll_eq_flatMap (source : String) (parent : Tree) (trail : List Step) (first : Nat)
    (ts : List Tree) :
    walkAll source parent trail first ts =
      (ts.mapIdx fun i t => (⟨source, t, ⟨parent, first + i⟩ :: trail⟩ : Node)).flatMap
        descendants := by
  induction ts generalizing first with
  | nil => rfl
  | cons t ts ih =>
    rw [walkAll, ih, List.mapIdx_cons, List.flatMap_cons]
    simp only [Nat.add_zero, Nat.add_assoc, Nat.add_comm 1]
    rfl

/-- The walk of a node is the node, then the walks of its children. -/
theorem descendants_eq (n : Node) : n.descendants = n :: n.children.flatMap descendants := by
  obtain ⟨source, ⟨tag, children⟩, trail⟩ := n
  rw [descendants, walk, walkAll_eq_flatMap]
  simp only [Nat.zero_add]
  rfl

theorem mem_descendants {n m : Node} :
    m ∈ n.descendants ↔ m = n ∨ ∃ c ∈ n.children, m ∈ c.descendants := by
  rw [descendants_eq, List.mem_cons, List.mem_flatMap]

/-- A walk goes on from every node that it meets. -/
theorem mem_descendants_of_mem_children {n m c : Node} (met : m ∈ n.descendants)
    (child : c ∈ m.children) : c ∈ n.descendants := by
  induction n using induction_children with
  | step n ih =>
    rcases mem_descendants.1 met with rfl | ⟨d, below, met⟩
    · exact mem_descendants.2 (.inr ⟨c, child, mem_descendants.2 (.inl rfl)⟩)
    · exact mem_descendants.2 (.inr ⟨d, below, ih d below met⟩)

end Node

/-- The walk of a tree meets no node twice. -/
theorem SyntaxTree.nodup_nodes (t : SyntaxTree) : t.nodes.Nodup :=
  Node.nodup_walk [] t.root

theorem SyntaxTree.source_of_mem_nodes {t : SyntaxTree} {n : Node} (h : n ∈ t.nodes) :
    n.source = t.source :=
  Node.source_of_mem_walk t.root h

theorem SyntaxTree.rootNode_mem_nodes (t : SyntaxTree) : t.rootNode ∈ t.nodes :=
  Node.mem_descendants.2 (.inl rfl)

theorem SyntaxTree.mem_nodes_of_mem_children {t : SyntaxTree} {n c : Node} (member : n ∈ t.nodes)
    (child : c ∈ n.children) : c ∈ t.nodes :=
  Node.mem_descendants_of_mem_children member child

end Autotools.Syntax
