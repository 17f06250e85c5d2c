import Autotools.Proofs.Syntax.Walk
import Mathlib.Logic.Relation

/-! The walk by moves.  A walker goes to the first child of its node, or on to the next sibling, or
back to the parent, and never beside or above the node where it set out.  It stands at the nodes of
the pre-order walk one after the other, and is done after the last of them.  From every node that it
meets, the parent and the index lead back, up to the root. -/

namespace Autotools.Syntax

/-- A list holds the items of all states from a first one on, each state the next one of the state
before it. -/
inductive Yields {σ α : Type} (next : σ → Option σ) (item : σ → α) : Option σ → List α → Prop
  | done : Yields next item none []
  | more {state : σ} {items : List α} (rest : Yields next item (next state) items) :
      Yields next item (some state) (item state :: items)

theorem Yields.iff_eq {σ α : Type} {next : σ → Option σ} {item : σ → α} {first : Option σ}
    {items : List α} (h : Yields next item first items) (others : List α) :
    Yields next item first others ↔ others = items := by
  constructor
  · intro again
    induction h generalizing others with
    | done =>
      cases again
      rfl
    | more _ ih =>
      cases again with
      | more rest => rw [ih _ rest]
  · rintro rfl
    exact h

namespace Node

/-- Steps from a node to one of its children lead from one node to another. -/
def Reaches : Node → Node → Prop := Relation.ReflTransGen fun n c => c ∈ n.children

variable {n c : Node} {index : Nat}

/-! ### A child and its parent -/

theorem child?_eq_some_iff : n.child? index = some c ↔
    ∃ tree, n.tree.children[index]? = some tree ∧ n.below index tree = c := by
  rw [child?, children, List.getElem?_mapIdx, Option.map_eq_some_iff]

theorem exists_child?_of_mem_children (h : c ∈ n.children) : ∃ index, n.child? index = some c :=
  List.mem_iff_getElem?.1 h

theorem parent?_of_child? (h : n.child? index = some c) : c.parent? = some n := by
  obtain ⟨tree, _, rfl⟩ := child?_eq_some_iff.1 h
  rfl

theorem index?_of_child? (h : n.child? index = some c) : c.index? = some index := by
  obtain ⟨tree, _, rfl⟩ := child?_eq_some_iff.1 h
  rfl

/-- The children of a node are told apart by their indices, also where they look the same. -/
theorem child?_eq_some_iff_eq (h : n.child? index = some c) (other : Nat) :
    n.child? other = some c ↔ other = index := by
  constructor
  · intro again
    have same := (index?_of_child? again).symm.trans (index?_of_child? h)
    exact Option.some.inj same
  · rintro rfl
    exact h

theorem field?_of_child? (h : n.child? index = some c) :
    n.tree.children[index]?.map (·.tag.field) = some c.field? := by
  obtain ⟨tree, found, rfl⟩ := child?_eq_some_iff.1 h
  rw [found]
  rfl

theorem ancestors_of_mem_children (h : c ∈ n.children) : c.ancestors = n :: n.ancestors := by
  obtain ⟨index, found⟩ := exists_child?_of_mem_children h
  obtain ⟨tree, _, rfl⟩ := child?_eq_some_iff.1 found
  rfl

end Node

/-! ### Moves -/

/-- A walker stands at a node, some steps down from the node where it set out. -/
structure Walker where
  node : Node
  depth : Nat

namespace Walker

def ofNode (n : Node) : Walker := ⟨n, 0⟩

def child? (w : Walker) (index : Nat) : Option Walker :=
  (w.node.child? index).map (⟨·, w.depth + 1⟩)

/-- Back to the parent, but not above the start. -/
def parent? (w : Walker) : Option Walker :=
  match w.depth with
  | 0 => none
  | depth + 1 => w.node.parent?.map (⟨·, depth⟩)

/-- On to the next sibling, but not beside the start. -/
def nextSibling? (w : Walker) : Option Walker := do
  let parent ← w.parent?
  let index ← w.node.index?
  parent.child? (index + 1)

theorem depth_lt_of_parent? {w up : Walker} (h : w.parent? = some up) : up.depth < w.depth := by
  obtain ⟨n, depth⟩ := w
  cases depth with
  | zero => cases h
  | succ depth =>
    obtain ⟨p, _, rfl⟩ := Option.map_eq_some_iff.1 h
    exact Nat.lt_succ_self depth

/-- The move from a node below which all has been met: to its next sibling, or to that of the
nearest node above it that has one. -/
def onward? (w : Walker) : Option Walker :=
  match w.nextSibling? with
  | some sibling => some sibling
  | none =>
    match _ : w.parent? with
    | some up => up.onward?
    | none => none
termination_by w.depth
decreasing_by exact depth_lt_of_parent? ‹_›

/-- The move to the node that comes next, if the walk is not over. -/
def next? (w : Walker) : Option Walker := (w.child? 0).or w.onward?

variable {w c : Walker} {index : Nat} {after : List Node}

theorem parent?_of_child? (h : w.child? index = some c) : c.parent? = some w := by
  obtain ⟨n, found, rfl⟩ := Option.map_eq_some_iff.1 h
  rw [parent?, Node.parent?_of_child? found]
  rfl

theorem nextSibling?_of_child? (h : w.child? index = some c) :
    c.nextSibling? = w.child? (index + 1) := by
  obtain ⟨n, found, rfl⟩ := Option.map_eq_some_iff.1 h
  rw [nextSibling?, parent?_of_child? h, Node.index?_of_child? found]
  rfl

/-- From a child the walk goes on to the next child, or on from the parent. -/
theorem onward?_of_child? (h : w.child? index = some c) :
    c.onward? = (w.child? (index + 1)).or w.onward? := by
  rw [onward?, nextSibling?_of_child? h]
  cases w.child? (index + 1) with
  | some sibling => rfl
  | none =>
    simp only [Option.none_or]
    split
    · next up found =>
      rw [parent?_of_child? h, Option.some.injEq] at found
      rw [found]
    · next top => simp [parent?_of_child? h] at top

theorem onward?_ofNode (n : Node) : (ofNode n).onward? = none := by
  rw [onward?]
  rfl

/-! ### The whole walk -/

/-- If the walk of every child is what is met from it on, before the walk goes on, then the walks of
the children from one on are what is met from there. -/
theorem yields_children (rest : Yields next? node w.onward? after)
    (walks : ∀ c ∈ w.node.children, ∀ after,
      Yields next? node (onward? ⟨c, w.depth + 1⟩) after →
        Yields next? node (some ⟨c, w.depth + 1⟩) (c.descendants ++ after))
    (first : Nat) :
    Yields next? node ((w.child? first).or w.onward?)
      ((w.node.children.drop first).flatMap Node.descendants ++ after) := by
  -- by induction on the children that are left, of which the first is at the index in question
  induction left : w.node.children.drop first generalizing first with
  | nil =>
    have past : w.node.child? first = none :=
      List.getElem?_eq_none (List.drop_eq_nil_iff.1 left)
    rw [child?, past]
    exact rest
  | cons c cs ih =>
    have found : w.node.child? first = some c := by
      rw [Node.child?, ← List.head?_drop, left]
      rfl
    have others : w.node.children.drop (first + 1) = cs := by
      rw [← List.tail_drop, left]
      rfl
    have entered : w.child? first = some ⟨c, w.depth + 1⟩ := by
      rw [child?, found]
      rfl
    rw [entered, Option.some_or, List.flatMap_cons, List.append_assoc]
    apply walks c (List.mem_of_getElem? found)
    rw [onward?_of_child? entered]
    exact ih (first + 1) others

/-- A walker meets the walk of its node before it goes on from there. -/
theorem yields_descendants (n : Node) (depth : Nat) {after : List Node}
    (rest : Yields next? node (onward? ⟨n, depth⟩) after) :
    Yields next? node (some ⟨n, depth⟩) (n.descendants ++ after) := by
  -- for any depth and any rest: a child is one step further down, and its siblings follow it
  induction n using Node.induction_children generalizing depth after with
  | step n ih =>
    rw [Node.descendants_eq]
    apply Yields.more
    rw [next?]
    exact yields_children rest (fun c child after => ih c child (depth + 1)) 0

theorem yields_ofNode (n : Node) : Yields next? node (some (ofNode n)) n.descendants := by
  have rest : Yields next? node (ofNode n).onward? [] := by
    rw [onward?_ofNode]
    exact .done
  have walk := yields_descendants n 0 rest
  rwa [List.append_nil] at walk

end Walker

/-! ### What is met below a node -/

namespace Node

variable {n m c : Node}

theorem mem_descendants_iff_reaches : m ∈ n.descendants ↔ n.Reaches m := by
  constructor
  · intro met
    induction n using induction_children with
    | step n ih =>
      rcases mem_descendants.1 met with rfl | ⟨c, child, met⟩
      · exact .refl
      · exact .head child (ih c child met)
  · intro way
    induction way with
    | refl => exact mem_descendants.2 (.inl rfl)
    | tail _ child ih => exact mem_descendants_of_mem_children ih child

/-- A node comes before its children in every walk that meets it. -/
theorem sublist_descendants_of_mem_children (met : m ∈ n.descendants) (child : c ∈ m.children) :
    [m, c].Sublist n.descendants := by
  induction n using induction_children with
  | step n ih =>
    rw [descendants_eq]
    rcases mem_descendants.1 met with rfl | ⟨d, below, met⟩
    · have later : c ∈ m.children.flatMap descendants :=
        List.mem_flatMap.2 ⟨c, child, mem_descendants.2 (.inl rfl)⟩
      exact (List.singleton_sublist.2 later).cons_cons m
    · have inWalk : d.descendants.Sublist (n.children.flatMap descendants) := by
        rw [List.flatMap_def]
        exact List.sublist_flatten_of_mem (List.mem_map_of_mem below)
      exact ((ih d below met).trans inWalk).cons n

theorem Reaches.eq_or_mem_ancestors (way : n.Reaches m) : m = n ∨ n ∈ m.ancestors := by
  induction way with
  | refl => exact .inl rfl
  | @tail p c _ child ih =>
    rw [ancestors_of_mem_children child]
    exact .inr (List.mem_cons.2 (ih.imp_left Eq.symm))

/-- A node of a tree is met below another just if that one is the node itself or above it. -/
theorem mem_descendants_iff_ancestors {t : SyntaxTree} (inTree : t.rootNode.Reaches m) :
    m ∈ n.descendants ↔ m = n ∨ n ∈ m.ancestors := by
  rw [mem_descendants_iff_reaches]
  refine ⟨Reaches.eq_or_mem_ancestors, ?_⟩
  intro up
  induction inTree with
  | refl =>
    rcases up with rfl | up
    · exact .refl
    · cases up
  | @tail p c _ child ih =>
    rw [ancestors_of_mem_children child, List.mem_cons] at up
    rcases up with rfl | up
    · exact .refl
    · exact .tail (ih (up.imp_left Eq.symm)) child

theorem yields_ancestors (m : Node) : Yields parent? id m.parent? m.ancestors := by
  obtain ⟨source, tree, trail⟩ := m
  induction trail generalizing tree with
  | nil => exact .done
  | cons step trail ih => exact .more (ih step.parent)

theorem getLast?_ancestors {t : SyntaxTree} (inTree : t.rootNode.Reaches m) :
    m = t.rootNode ∨ m.ancestors.getLast? = some t.rootNode := by
  induction inTree with
  | refl => exact .inl rfl
  | @tail p c _ child ih =>
    right
    rw [ancestors_of_mem_children child, List.getLast?_cons]
    rcases ih with rfl | last
    · rfl
    · rw [last]
      rfl

mutual

theorem length_walk (source : String) (trail : List Step) :
    (t : Tree) → (walk source trail t).length = t.size
  | .node tag children => by
    rw [walk, Tree.size, List.length_cons, length_walkAll, Nat.add_comm]

theorem length_walkAll (source : String) (parent : Tree) (trail : List Step) (first : Nat) :
    (ts : List Tree) → (walkAll source parent trail first ts).length = Tree.sizeAll ts
  | [] => by rw [walkAll, Tree.sizeAll, List.length_nil]
  | t :: rest => by
    rw [walkAll, Tree.sizeAll, List.length_append, length_walk, length_walkAll]

end

end Node

namespace SyntaxTree

variable {t : SyntaxTree} {m : Node}

theorem size_eq (t : SyntaxTree) : t.size = t.root.size := Node.length_walk t.source [] t.root

theorem isEmpty_iff : t.isEmpty = true ↔ t.size = 1 := by
  have childless : t.root.children = [] ↔ t.rootNode.children = [] := List.mapIdx_eq_nil_iff.symm
  have met (c : Node) : c.descendants ≠ [] := by simp [Node.descendants_eq]
  rw [isEmpty, List.isEmpty_iff, childless, size, nodes, Node.descendants_eq, List.length_cons,
    Nat.add_eq_right, List.length_eq_zero_iff, List.flatMap_eq_nil_iff,
    List.eq_nil_iff_forall_not_mem]
  simp only [met, imp_false]

theorem exists_child?_of_ne (inTree : t.rootNode.Reaches m) (other : m ≠ t.rootNode) :
    ∃ (p : Node) (index : Nat), p.child? index = some m := by
  rcases Relation.ReflTransGen.cases_tail inTree with root | ⟨p, _, child⟩
  · exact absurd root other
  · exact ⟨p, Node.exists_child?_of_mem_children child⟩

/-- The walk of every node of a tree is the node, then the walks of its children in order; a walker
that sets out from the node meets just these nodes, in this order, and is done.  So the walk meets
the nodes at and below the node, each once, and no others, and each before its children.  The size
of a tree is the length of the walk from its root, and the tree is empty just if this is one.  Every
node of a tree but the root is the child of its parent at its own index and at no other; it fills
the field recorded there; and going from parent to parent lists its ancestors, the last of which is
the root. -/
theorem descendants_exact (t : SyntaxTree) :
    (∀ n, t.rootNode.Reaches n →
      n.descendants = n :: n.children.flatMap Node.descendants ∧
      (∀ nodes, Yields Walker.next? Walker.node (some (.ofNode n)) nodes ↔ nodes = n.descendants) ∧
      n.descendants.Nodup ∧
      (∀ m, m ∈ n.descendants ↔ n.Reaches m) ∧
      (∀ m, t.rootNode.Reaches m → (m ∈ n.descendants ↔ m = n ∨ n ∈ m.ancestors)) ∧
      ∀ m ∈ n.descendants, ∀ c ∈ m.children, [m, c].Sublist n.descendants) ∧
    (t.size = t.rootNode.descendants.length ∧ t.size = t.root.size ∧
      (t.isEmpty = true ↔ t.size = 1)) ∧
    ∀ m, t.rootNode.Reaches m → m ≠ t.rootNode → ∃ p index,
      m.parent? = some p ∧ m.index? = some index ∧
      (∀ i, p.child? i = some m ↔ i = index) ∧
      p.tree.children[index]?.map (·.tag.field) = some m.field? ∧
      (∀ nodes, Yields Node.parent? id (some p) nodes ↔ nodes = m.ancestors) ∧
      m.ancestors.getLast? = some t.rootNode := by
  refine ⟨?_, ⟨rfl, t.size_eq, isEmpty_iff⟩, ?_⟩
  · intro n _
    exact ⟨n.descendants_eq, (Walker.yields_ofNode n).iff_eq, Node.nodup_walk n.trail n.tree,
      fun m => Node.mem_descendants_iff_reaches,
      fun m inTree => Node.mem_descendants_iff_ancestors inTree,
      fun m met c child => Node.sublist_descendants_of_mem_children met child⟩
  · intro m inTree other
    obtain ⟨p, index, found⟩ := exists_child?_of_ne inTree other
    have parent := Node.parent?_of_child? found
    have upward := m.yields_ancestors
    rw [parent] at upward
    exact ⟨p, index, parent, Node.index?_of_child? found, Node.child?_eq_some_iff_eq found,
      Node.field?_of_child? found, upward.iff_eq,
      (Node.getLast?_ancestors inTree).resolve_left other⟩

/-- The tree of two rules, the first of which lacks two targets that look the same. -/
def nameless : SyntaxTree where
  source := ": a\nb:\n"
  root := .node ⟨"makefile", true, false, true, 0, 7, none⟩
    [.node ⟨"rule", true, false, true, 0, 4, none⟩
      [.node ⟨"targets", true, false, true, 0, 0, none⟩
        [.node ⟨"word", true, true, true, 0, 0, none⟩ [],
         .node ⟨"word", true, true, true, 0, 0, none⟩ []],
       .node ⟨":", false, false, false, 0, 1, none⟩ [],
       .node ⟨"prerequisites", true, false, false, 2, 3, some "normal"⟩
        [.node ⟨"word", true, false, false, 2, 3, none⟩ []]],
     .node ⟨"rule", true, false, false, 4, 7, none⟩
      [.node ⟨"targets", true, false, false, 4, 5, none⟩
        [.node ⟨"word", true, false, false, 4, 5, none⟩ []],
       .node ⟨":", false, false, false, 5, 6, none⟩ []]]

/-- The walk of the first rule is over before the second one, and the two missing targets have
indices of their own. -/
theorem descendants_nameless :
    ∃ rule targets first second, nameless.rootNode.child? 0 = some rule ∧
      rule.child? 0 = some targets ∧ targets.child? 0 = some first ∧
      targets.child? 1 = some second ∧ first.tree = second.tree ∧
      Yields Walker.next? Walker.node (some (.ofNode rule)) rule.descendants ∧
      rule.descendants.map (·.name) =
        ["rule", "targets", "word", "word", ":", "prerequisites", "word"] ∧
      first.index? = some 0 ∧ second.index? = some 1 ∧
      second.ancestors.getLast? = some nameless.rootNode := by
  obtain ⟨walks, -, places⟩ := descendants_exact nameless
  obtain ⟨rule, targets, first, second, isRule, isTargets, isFirst, isSecond, alike, names⟩ :
      ∃ rule targets first second, nameless.rootNode.child? 0 = some rule ∧
        rule.child? 0 = some targets ∧ targets.child? 0 = some first ∧
        targets.child? 1 = some second ∧ first.tree = second.tree ∧ rule.descendants.map (·.name) =
          ["rule", "targets", "word", "word", ":", "prerequisites", "word"] :=
    ⟨_, _, _, _, rfl, rfl, rfl, rfl, rfl, by decide +kernel⟩
  have ruleIn : nameless.rootNode.Reaches rule := .single (List.mem_of_getElem? isRule)
  have place {i : Nat} {word : Node} (found : targets.child? i = some word) :
      word.index? = some i ∧ word.ancestors.getLast? = some nameless.rootNode := by
    have wordIn := (ruleIn.tail (List.mem_of_getElem? isTargets)).tail (List.mem_of_getElem? found)
    have other : word ≠ nameless.rootNode := by
      rintro rfl
      cases Node.parent?_of_child? found
    obtain ⟨p, index, parent, position, only, -, -, last⟩ := places word wordIn other
    rw [Node.parent?_of_child? found, Option.some.injEq] at parent
    rw [(only i).1 (parent ▸ found)]
    exact ⟨position, last⟩
  exact ⟨rule, targets, first, second, isRule, isTargets, isFirst, isSecond, alike,
    ((walks rule ruleIn).2.1 _).2 rfl, names, (place isFirst).1, place isSecond⟩

end SyntaxTree

end Autotools.Syntax
