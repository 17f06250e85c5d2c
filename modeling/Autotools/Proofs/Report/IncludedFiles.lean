import Autotools.Report.Diagnosis
import Mathlib.Data.List.Basic

/-! The findings about included files.  Of the four checks of a make file only one looks at the file
system, and its findings are told from all others by the end of their messages.  So where files are
added, nothing is found that was not found before, and what is no longer found is that the added
files are absent. -/

namespace Autotools

open Syntax

/-- The keyword of the directive in whose list a node stands. -/
def Syntax.Node.keyword? (n : Node) : Option String :=
  ((n.parent?.bind (·.parent?)).bind (·.child? 0)).map (·.text)

namespace Finding

/-- What is found at a path that names no file. -/
def absent (n : Node) : Finding :=
  .atNode .error n (n.text ++ ": no such file") "not found next to this file"

/-- The path that names no file, if that is what a finding says. -/
def absentPath? (f : Finding) : Option String :=
  (f.message.toList.dropSuffix? ": no such file".toList).map String.ofList

theorem absentPath?_eq_some {f : Finding} {path : String} :
    f.absentPath? = some path ↔ f.message = path ++ ": no such file" := by
  rw [absentPath?, Option.map_eq_some_iff]
  constructor
  · rintro ⟨front, cut, rfl⟩
    obtain ⟨ending, message, same⟩ := List.dropSuffix?_eq_some_iff.1 cut
    rw [eq_of_beq same] at message
    apply String.toList_inj.1
    rw [String.toList_append, String.toList_ofList, message]
  · intro message
    refine ⟨path.toList, ?_, String.ofList_toList⟩
    exact List.dropSuffix?_eq_some_iff.2 ⟨_, by rw [message, String.toList_append], by simp⟩

@[simp] theorem absentPath?_absent (n : Node) : (absent n).absentPath? = some n.text :=
  absentPath?_eq_some.2 rfl

/-- A message that ends in another letter is about something else. -/
theorem absentPath?_eq_none {f : Finding} (h : f.message.toList.getLast? ≠ some 'e') :
    f.absentPath? = none := by
  cases said : f.absentPath? with
  | none => rfl
  | some path =>
    rw [absentPath?_eq_some.1 said, String.toList_append, List.getLast?_append] at h
    exact absurd rfl h

end Finding

/-- A point is shown with a digit at the end. -/
theorem Point.getLast?_display (p : Point) :
    ∃ c, p.display.toList.getLast? = some c ∧ c.isDigit = true := by
  have digits : (toString (p.column + 1)).toList = Nat.toDigits 10 (p.column + 1).toNat := by
    have : toString (p.column + 1) = toString (p.column + 1).toNat := rfl
    rw [this, Nat.toString_eq_repr, Nat.toList_repr]
  have some : Nat.toDigits 10 (p.column + 1).toNat ≠ [] := Nat.toDigits_ne_nil
  have digit := Nat.isDigit_of_mem_toDigits (by decide) (by decide) (List.getLast_mem some)
  refine ⟨_, ?_, digit⟩
  rw [display, String.toList_append, List.getLast?_append, digits,
    List.getLast?_eq_some_getLast some]
  rfl

namespace Diagnosis

variable {t : SyntaxTree} {f : Finding}

theorem isRequired_eq (n : Node) : isRequired n = decide (n.keyword? = some "include") := by
  rw [isRequired, Node.keyword?]
  cases n.parent?.bind (·.parent?) with
  | none => rfl
  | some directive =>
    cases keyword : directive.child? 0 with
    | none => simp [keyword]
    | some word => simp [keyword, Bool.beq_eq_decide_eq]

/-- The paths after a plain `include` that name no file. -/
def absentPaths (fs : FileSystem) (directory : Path) (t : SyntaxTree) : List Node :=
  t.nodes.filter fun n => Role.ofNode n = .pathLiteral ∧ n.keyword? = some "include" ∧
    fs.isFile (directory.join n.text) = false

theorem mem_absentPaths {fs : FileSystem} {directory : Path} {n : Node} :
    n ∈ absentPaths fs directory t ↔
      n ∈ t.nodes ∧ Role.ofNode n = .pathLiteral ∧ n.keyword? = some "include" ∧
        fs.isFile (directory.join n.text) = false := by
  simp [absentPaths]

theorem unresolved_eq (fs : FileSystem) (directory : Path) (t : SyntaxTree) :
    unresolved fs directory t = (absentPaths fs directory t).map .absent := by
  rw [unresolved, requiredPaths, List.filter_filter, absentPaths]
  congr 1
  apply List.filter_congr
  intro n _
  rw [isRequired_eq]
  cases Role.ofNode n <;> simp [Bool.and_comm]

/-- Where more files are there, fewer paths name none. -/
theorem absentPaths_of_grows {fs fs' : FileSystem}
    (grows : ∀ p, fs.isFile p = true → fs'.isFile p = true) (directory : Path) (t : SyntaxTree) :
    absentPaths fs' directory t = (absentPaths fs directory t).filter fun n =>
      !(fs'.isFile (directory.join n.text) && !fs.isFile (directory.join n.text)) := by
  rw [absentPaths, absentPaths, List.filter_filter]
  apply List.filter_congr
  intro n _
  have added := grows (directory.join n.text)
  revert added
  cases fs.isFile (directory.join n.text) <;> cases fs'.isFile (directory.join n.text) <;> simp

theorem diagnose_eq (fs : FileSystem) (t : SyntaxTree) (directory : Path) :
    diagnose fs t (some directory) =
      (missing t ++ unparsed t) ++ (absentPaths fs directory t).map .absent ++ repeated t := by
  rw [diagnose, Option.map_some, Option.getD_some, unresolved_eq]

/-! ### The checks that look at no file -/

theorem absentPath?_of_mem_syntax (h : f ∈ missing t ++ unparsed t) : f.absentPath? = none := by
  apply Finding.absentPath?_eq_none
  rcases List.mem_append.1 h with h | h
  · obtain ⟨n, _, rfl⟩ := List.mem_map.1 h
    simp [Finding.atNode]
  · obtain ⟨n, _, rfl⟩ := List.mem_map.1 h
    simp [Finding.atNode]

theorem absentPath?_of_mem_repeated (h : f ∈ repeated t) : f.absentPath? = none := by
  obtain ⟨s, _, rfl⟩ := List.mem_map.1 h
  obtain ⟨c, last, digit⟩ := s.definition.range.start.getLast?_display
  apply Finding.absentPath?_eq_none
  rw [Finding.atNode, String.toList_append, List.getLast?_append, last]
  intro same
  rw [Option.some_or, Option.some.injEq] at same
  subst same
  cases digit

/-- A selection that leaves all other findings alone selects among the paths that name no file. -/
theorem filter_diagnose (fs : FileSystem) (t : SyntaxTree) (directory : Path)
    {test : Finding → Bool} (keeps : ∀ f, f.absentPath? = none → test f = true) :
    (diagnose fs t (some directory)).filter test =
      (missing t ++ unparsed t) ++
        ((absentPaths fs directory t).filter fun n => test (.absent n)).map .absent ++
        repeated t := by
  have kept {findings : List Finding} (others : ∀ f ∈ findings, f.absentPath? = none) :
      findings.filter test = findings :=
    List.filter_eq_self.2 fun f member => keeps f (others f member)
  rw [diagnose_eq, List.filter_append, List.filter_append, List.filter_map,
    kept fun _ => absentPath?_of_mem_syntax, kept fun _ => absentPath?_of_mem_repeated]
  rfl

/-- The findings that paths name no file are made for these paths, one for each in their order. -/
theorem filter_absent_diagnose (fs : FileSystem) (t : SyntaxTree) (directory : Path) :
    (diagnose fs t (some directory)).filter (·.absentPath?.isSome) =
      (absentPaths fs directory t).map .absent := by
  have dropped {findings : List Finding} (others : ∀ f ∈ findings, f.absentPath? = none) :
      findings.filter (·.absentPath?.isSome) = [] :=
    List.filter_eq_nil_iff.2 fun f member => by simp [others f member]
  rw [diagnose_eq, List.filter_append, List.filter_append,
    dropped fun _ => absentPath?_of_mem_syntax, dropped fun _ => absentPath?_of_mem_repeated,
    List.nil_append, List.append_nil, List.filter_eq_self]
  intro f member
  obtain ⟨n, _, rfl⟩ := List.mem_map.1 member
  simp

/-! ### Errors and warnings -/

/-- The severity of a finding tells the last check from the others. -/
theorem severity_of_mem_checks {fs : FileSystem} {directory : Option Path}
    (h : f ∈ missing t ++ unparsed t ++ (directory.map fun d => unresolved fs d t).getD []) :
    f.severity = .error := by
  rcases List.mem_append.1 h with h | h
  · rcases List.mem_append.1 h with h | h
    · obtain ⟨n, _, rfl⟩ := List.mem_map.1 h
      rfl
    · obtain ⟨n, _, rfl⟩ := List.mem_map.1 h
      rfl
  · cases directory with
    | none => cases h
    | some directory =>
      obtain ⟨n, _, rfl⟩ := List.mem_map.1 h
      rfl

theorem severity_of_mem_repeated (h : f ∈ repeated t) : f.severity = .warning := by
  obtain ⟨s, _, rfl⟩ := List.mem_map.1 h
  rfl

theorem filter_warning_diagnose (fs : FileSystem) (t : SyntaxTree) (directory : Option Path) :
    (diagnose fs t directory).filter (·.severity = .warning) = repeated t := by
  rw [diagnose, List.filter_append, List.filter_eq_nil_iff.2, List.filter_eq_self.2]
  · rfl
  · intro f member
    simp [severity_of_mem_repeated member]
  · intro f member
    simp [severity_of_mem_checks member]

theorem count_error_diagnose (fs : FileSystem) (t : SyntaxTree) (directory : Path) :
    Finding.count (diagnose fs t (some directory)) .error =
      t.nodes.countP (·.isMissing) + t.nodes.countP (·.isError) +
        (absentPaths fs directory t).length := by
  rw [Finding.count, diagnose, List.countP_append, List.countP_eq_length.2, List.countP_eq_zero.2]
  · simp only [List.length_append, Option.map_some, Option.getD_some, unresolved_eq, missing,
      unparsed, List.length_map, ← List.countP_eq_length_filter]
    rfl
  · intro f member
    simp [severity_of_mem_repeated member]
  · intro f member
    simp [severity_of_mem_checks member]

end Diagnosis

/-- Let every file of a file system be a file of a second one.  The findings of a tree in the second
are those in the first, in their order, without those that say of a path that it names no file
where it names one in the second only.  Without a directory they are the findings with a directory
less all of this kind.  With a directory the errors are as many as the missing nodes, the nodes that
could not be parsed, and the paths after a plain `include` that name no file, together.  The
warnings are the same in any file system, with any directory or none. -/
theorem diagnose_of_grows {fs fs' : FileSystem}
    (grows : ∀ p, fs.isFile p = true → fs'.isFile p = true) (t : SyntaxTree) (directory : Path) :
    (diagnose fs' t (some directory) = (diagnose fs t (some directory)).filter fun f =>
      !(f.absentPath?.any fun path =>
        fs'.isFile (directory.join path) && !fs.isFile (directory.join path))) ∧
    (∀ any : FileSystem, diagnose any t none =
      (diagnose fs t (some directory)).filter (·.absentPath?.isNone)) ∧
    (Finding.count (diagnose fs t (some directory)) .error =
      t.nodes.countP (·.isMissing) + t.nodes.countP (·.isError) +
        t.nodes.countP fun n => Role.ofNode n = .pathLiteral ∧ n.keyword? = some "include" ∧
          fs.isFile (directory.join n.text) = false) ∧
    ∀ (any : FileSystem) (place place' : Option Path),
      (diagnose fs t place).filter (·.severity = .warning) =
        (diagnose any t place').filter (·.severity = .warning) := by
  refine ⟨?_, ?_, ?_, ?_⟩
  · rw [Diagnosis.filter_diagnose fs t directory (by simp +contextual)]
    simp only [Finding.absentPath?_absent, Option.any_some]
    rw [← Diagnosis.absentPaths_of_grows grows, ← Diagnosis.unresolved_eq]
    rfl
  · intro any
    rw [Diagnosis.filter_diagnose fs t directory (by simp +contextual)]
    simp [diagnose]
  · rw [Diagnosis.count_error_diagnose, Diagnosis.absentPaths, ← List.countP_eq_length_filter]
  · intro any place place'
    rw [Diagnosis.filter_warning_diagnose, Diagnosis.filter_warning_diagnose]

namespace Diagnosis

/-- A parser for the text `include a.mk c.mk` with `-include b.mk` in the next row. -/
def threeIncludes : Parser := fun _ =>
  .node ⟨"makefile", true, false, false, 0, 32, none⟩
    [.node ⟨"include_directive", true, false, false, 0, 18, none⟩
      [.node ⟨"include", false, false, false, 0, 7, none⟩ [],
       .node ⟨"list", true, false, false, 8, 17, some "filenames"⟩
        [.node ⟨"word", true, false, false, 8, 12, none⟩ [],
         .node ⟨"word", true, false, false, 13, 17, none⟩ []]],
     .node ⟨"include_directive", true, false, false, 18, 32, none⟩
      [.node ⟨"-include", false, false, false, 18, 26, none⟩ [],
       .node ⟨"list", true, false, false, 27, 31, some "filenames"⟩
        [.node ⟨"word", true, false, false, 27, 31, none⟩ []]]]

/-- A file system with a directory and no file. -/
def bare : FileSystem := ⟨[([.ofString "p"], .directory)], []⟩

/-- The same directory with one file in it. -/
def stocked : FileSystem := bare.put [.ofString "p", .ofString "a.mk"] (.file (.text ""))

theorem isFile_bare (p : Path) : bare.isFile p = false := by
  rw [FileSystem.isFile, FileSystem.find?]
  cases bare.resolve p with
  | error e => rfl
  | ok location =>
    have directory : bare.entry? location = some .directory ∨ bare.entry? location = none := by
      rw [FileSystem.entry?, bare, List.lookup_cons, List.lookup_nil]
      split
      · exact .inl rfl
      · split <;> simp
    rcases directory with found | found <;> simp only [found]

theorem diagnose_stocked :
    let t := SyntaxTree.parse threeIncludes "include a.mk c.mk\n-include b.mk\n"
    let directory := some (Path.ofString "/p")
    (∀ p, bare.isFile p = true → stocked.isFile p = true) ∧
    (diagnose bare t directory).map (·.message) = ["a.mk: no such file", "c.mk: no such file"] ∧
    (diagnose stocked t directory).map (·.message) = ["c.mk: no such file"] := by
  intro t directory
  have grows (p : Path) (file : bare.isFile p = true) : stocked.isFile p = true := by
    rw [isFile_bare] at file
    cases file
  refine ⟨grows, by decide +kernel, ?_⟩
  rw [(diagnose_of_grows grows t (.ofString "/p")).1]
  decide +kernel

end Diagnosis

end Autotools
