import Autotools.Symbol.Statement

/-! The statement of a definition.  The role of a node fixes what is right above it, so a node that
defines a name has its statement above it: an assignment, a block or a rule.  With a directive in
front, the statement as a whole is that directive. -/

namespace Autotools

open Syntax

/-! ### The node above a role -/

/-- The kinds of node right below which the nodes of a role stand. -/
def Role.parentKinds : Role → List Kind
  | .variableDefinition => [.variableAssignment, .shellAssignment]
  | .functionDefinition => [.defineDirective]
  | .targetDefinition => [.targets]
  | .targetReference => [.prerequisites]
  | .functionCall => [.arguments]
  | .pathLiteral => [.list]
  | .variableReference =>
    [.variableReference, .ifdefDirective, .ifndefDirective, .undefineDirective,
      .substitutionReference, .list]
  | .other => []

theorem Role.parentKind?_of_ofWord {n : Node} {role : Role} (h : Role.ofWord n = role)
    (known : role ≠ .other) : ∃ kind ∈ role.parentKinds, n.parentKind? = some kind := by
  unfold Role.ofWord at h
  split at h <;> try split at h
  all_goals
    subst h
    simp_all [parentKinds]

theorem Role.parentKind?_of_ofNode {n : Node} {role : Role} (h : Role.ofNode n = role)
    (known : role ≠ .other) : ∃ kind ∈ role.parentKinds, n.parentKind? = some kind := by
  unfold Role.ofNode at h
  split at h
  · exact absurd h.symm known
  · split at h
    · exact parentKind?_of_ofWord h known
    · split at h
      · next arguments =>
        subst h
        exact ⟨.arguments, List.mem_singleton_self _, arguments⟩
      · exact absurd h.symm known
    · exact absurd h.symm known

theorem Family.definition_ne_other (family : Family) : family.definition ≠ .other := by
  cases family <;> decide

theorem Family.reference_ne_other (family : Family) : family.reference ≠ .other := by
  cases family <;> decide

/-! ### Statements -/

namespace Statement

/-- The statement that defines a name of a family at a node: the assignment or the block that the
node names, or the rule above the list of targets that it is in.  A list above which there is no
rule stands for it. -/
inductive Defines : Family → Node → Node → Prop
  | assignment {n body : Node} (above : n.parent? = some body)
      (kind : body.kind = .variableAssignment ∨ body.kind = .shellAssignment) :
      Defines .variables n body
  | block {n body : Node} (above : n.parent? = some body) (kind : body.kind = .defineDirective) :
      Defines .functions n body
  | rule {n list body : Node} (above : n.parent? = some list) (kind : list.kind = .targets)
      (top : list.parent? = some body) : Defines .targets n body
  | targets {n list : Node} (above : n.parent? = some list) (kind : list.kind = .targets)
      (top : list.parent? = none) : Defines .targets n list

/-- A statement together with the directive `export`, `override` or `private` in front of it, if
there is one. -/
inductive Whole : Node → Node → Prop
  | wrapped {body directive : Node} (above : body.parent? = some directive)
      (kind : directive.kind ∈ [Kind.exportDirective, .overrideDirective, .privateDirective]) :
      Whole body directive
  | bare {body : Node} (alone : ∀ above, body.parent? = some above →
      above.kind ∉ [Kind.exportDirective, .overrideDirective, .privateDirective]) :
      Whole body body

variable {n : Node} {family : Family}

theorem isWrapper_iff {kind : Kind} : isWrapper kind = true ↔
    kind ∈ [Kind.exportDirective, .overrideDirective, .privateDirective] := by
  cases kind <;> decide

theorem whole_ofNode (n : Node) : Whole (base n) (ofNode n) := by
  unfold ofNode
  split
  · next directive above =>
    split
    · next wraps => exact .wrapped above (isWrapper_iff.1 wraps)
    · next plain =>
      refine .bare ?_
      intro other same
      rw [above] at same
      obtain rfl := Option.some.inj same
      rwa [← isWrapper_iff]
  · next top =>
    refine .bare ?_
    intro above there
    rw [top] at there
    cases there

theorem base_of_parent {parent : Node} (above : n.parent? = some parent)
    (other : parent.kind ≠ .targets) : base n = parent := by
  rw [base, above]
  exact if_neg other

theorem defines_base (h : Role.ofNode n = family.definition) : Defines family n (base n) := by
  obtain ⟨_, listed, found⟩ := Role.parentKind?_of_ofNode h family.definition_ne_other
  obtain ⟨parent, above, rfl⟩ := Option.map_eq_some_iff.1 found
  match family, listed with
  | .variables, listed =>
    have kind : parent.kind = .variableAssignment ∨ parent.kind = .shellAssignment := by
      simpa [Family.definition, Role.parentKinds] using listed
    rw [base_of_parent above (by rcases kind with kind | kind <;> simp [kind])]
    exact .assignment above kind
  | .functions, listed =>
    have kind : parent.kind = .defineDirective := List.mem_singleton.1 listed
    rw [base_of_parent above (by simp [kind])]
    exact .block above kind
  | .targets, listed =>
    have kind : parent.kind = .targets := List.mem_singleton.1 listed
    simp only [base, above, if_pos kind]
    cases top : parent.parent? with
    | none => exact .targets above kind top
    | some rule => exact .rule above kind top

end Statement

end Autotools
