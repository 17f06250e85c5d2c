import Autotools.Command.Check
import Mathlib.Data.List.Perm.Basic

/-! How a check of several files ends.  Every file has a verdict of its own, and a check succeeds
just if every file passes, so neither the order nor the repetition of files matters.  When all
files can be read, the totals of the last line are the sums of what the files have each. -/

namespace Autotools.Check

open Syntax

/-! ### Sums of tallies -/

namespace Tally

theorem add_left_comm (t u v : Tally) : t.add (u.add v) = u.add (t.add v) := by
  simp only [add, Nat.add_left_comm]

theorem add_assoc (t u v : Tally) : (t.add u).add v = t.add (u.add v) := by
  simp only [add, Nat.add_assoc]

theorem zero_add (t : Tally) : zero.add t = t := by
  simp only [add, zero, Nat.zero_add]

/-- The sum of some tallies. -/
def sum : List Tally → Tally
  | [] => zero
  | t :: ts => t.add (sum ts)

theorem foldl_add (found : List Report) (t : Tally) :
    found.foldl (fun t r => t.add r.tally) t = t.add (sum (found.map (·.tally))) := by
  induction found generalizing t with
  | nil => rfl
  | cons report found ih => rw [List.foldl_cons, ih, List.map_cons, sum, add_assoc]

theorem sum_perm {ts us : List Tally} (h : ts.Perm us) : sum ts = sum us := by
  induction h with
  | nil => rfl
  | cons t _ ih => rw [sum, sum, ih]
  | swap t u ts => rw [sum, sum, sum, sum, add_left_comm]
  | trans _ _ first second => exact first.trans second

theorem errors_sum_eq_zero {ts : List Tally} :
    (sum ts).errors = 0 ↔ ∀ t ∈ ts, t.errors = 0 := by
  induction ts with
  | nil => simp [sum, zero]
  | cons t ts ih => simp [sum, add, ih]

end Tally

/-! ### One file -/

/-- A file without checks. -/
def IsSkipped (p : Path) : Prop := FileType.detect? p.display = some .config

instance (p : Path) : Decidable (IsSkipped p) :=
  inferInstanceAs (Decidable (FileType.detect? p.display = some .config))

/-- A file that a check gets through: it is skipped, or can be read as text. -/
def IsReadable (fs : FileSystem) (p : Path) : Prop :=
  ¬IsSkipped p → ∃ source, fs.readText p = .ok source

instance (fs : FileSystem) (p : Path) : Decidable (IsReadable fs p) :=
  decidable_of_iff (IsSkipped p ∨ (fs.readText p).toOption.isSome = true) <| by
    rw [IsReadable, or_iff_not_imp_left]
    cases fs.readText p <;> simp [Except.toOption]

/-- The findings of a file; a file that is skipped or cannot be read has none. -/
def findingsAt (parser : Parser) (fs : FileSystem) (p : Path) : List Finding :=
  if IsSkipped p then []
  else
    match fs.readText p with
    | .ok source => diagnose fs (SyntaxTree.parse parser source) (directoryOf p)
    | .error _ => []

/-- A file passes if it is skipped, or can be read as text and has no error. -/
def Passes (parser : Parser) (fs : FileSystem) (p : Path) : Prop :=
  ¬IsSkipped p → ∃ source, fs.readText p = .ok source ∧
    ∀ f ∈ diagnose fs (SyntaxTree.parse parser source) (directoryOf p), f.severity ≠ .error

variable {parser : Parser} {fs : FileSystem} {color : Bool} {p : Path} {paths : List Path}

theorem findingsAt_of_readText {source : String} (checked : ¬IsSkipped p)
    (read : fs.readText p = .ok source) :
    findingsAt parser fs p = diagnose fs (SyntaxTree.parse parser source) (directoryOf p) := by
  rw [findingsAt, if_neg checked, read]

theorem count_error_eq_zero {found : List Finding} :
    Finding.count found .error = 0 ↔ ∀ f ∈ found, f.severity ≠ .error := by
  simp [Finding.count, List.countP_eq_zero]

theorem passes_iff : Passes parser fs p ↔
    IsReadable fs p ∧ Finding.count (findingsAt parser fs p) .error = 0 := by
  by_cases skipped : IsSkipped p
  · have none : findingsAt parser fs p = [] := by rw [findingsAt, if_pos skipped]
    simp [Passes, IsReadable, skipped, none, Finding.count]
  · constructor
    · intro passes
      obtain ⟨source, read, clean⟩ := passes skipped
      refine ⟨fun _ => ⟨source, read⟩, ?_⟩
      rw [findingsAt_of_readText skipped read]
      exact count_error_eq_zero.2 clean
    · rintro ⟨readable, clean⟩ _
      obtain ⟨source, read⟩ := readable skipped
      rw [findingsAt_of_readText skipped read] at clean
      exact ⟨source, read, count_error_eq_zero.1 clean⟩

instance (parser : Parser) (fs : FileSystem) (p : Path) : Decidable (Passes parser fs p) :=
  decidable_of_iff _ passes_iff.symm

theorem file_of_skipped (skipped : IsSkipped p) : ∃ output,
    file parser fs color p = .ok ⟨output, .zero⟩ :=
  ⟨_, if_pos skipped⟩

theorem file_of_checked (checked : ¬IsSkipped p) : file parser fs color p =
    match fs.readText p with
    | .error cause => .error (.unreadable p cause)
    | .ok source =>
      .ok ⟨(Terminal.render? source p.display (findings parser fs p source) color).getD "",
        .ofFindings (findings parser fs p source)⟩ :=
  if_neg checked

theorem file_of_readable (parser : Parser) (color : Bool) (readable : IsReadable fs p) : ∃ output,
    file parser fs color p = .ok ⟨output, .ofFindings (findingsAt parser fs p)⟩ := by
  by_cases skipped : IsSkipped p
  · have none : findingsAt parser fs p = [] := by rw [findingsAt, if_pos skipped]
    rw [none]
    exact file_of_skipped skipped
  · obtain ⟨source, read⟩ := readable skipped
    rw [findingsAt_of_readText skipped read, file_of_checked skipped, read]
    exact ⟨_, rfl⟩

theorem file_of_not_readable (parser : Parser) (color : Bool) (unreadable : ¬IsReadable fs p) :
    ∃ failure, file parser fs color p = .error failure := by
  rw [IsReadable, Classical.not_imp] at unreadable
  obtain ⟨checked, noText⟩ := unreadable
  cases read : fs.readText p with
  | ok source => exact absurd ⟨source, read⟩ noText
  | error cause => exact ⟨.unreadable p cause, by rw [file_of_checked checked, read]⟩

/-! ### Several files -/

/-- When all files can be read, each has its report. -/
theorem reports_of_readable (parser : Parser) (color : Bool)
    (readable : ∀ p ∈ paths, IsReadable fs p) : ∃ found,
    reports parser fs color paths = (found, none) ∧
    found.map (·.tally) = paths.map fun p => .ofFindings (findingsAt parser fs p) := by
  induction paths with
  | nil => exact ⟨[], rfl, rfl⟩
  | cons p paths ih =>
    obtain ⟨first, others⟩ := List.forall_mem_cons.1 readable
    obtain ⟨output, checked⟩ := file_of_readable parser color first
    obtain ⟨found, rest, tallies⟩ := ih others
    refine ⟨⟨output, .ofFindings (findingsAt parser fs p)⟩ :: found, ?_, ?_⟩
    · rw [reports, checked, rest]
    · rw [List.map_cons, List.map_cons, tallies]

/-- A file that cannot be read ends the reports, wherever it stands. -/
theorem reports_of_not_readable (parser : Parser) (color : Bool)
    (unreadable : ¬∀ p ∈ paths, IsReadable fs p) : ∃ failure,
    (reports parser fs color paths).2 = some failure := by
  induction paths with
  | nil => simp at unreadable
  | cons p paths ih =>
    by_cases first : IsReadable fs p
    · obtain ⟨output, checked⟩ := file_of_readable parser color first
      obtain ⟨failure, later⟩ := ih fun others =>
        unreadable (List.forall_mem_cons.2 ⟨first, others⟩)
      exact ⟨failure, by rw [reports, checked]; exact later⟩
    · obtain ⟨failure, failed⟩ := file_of_not_readable parser color first
      exact ⟨failure, by rw [reports, failed]⟩

/-- The tallies of some files together. -/
def total (parser : Parser) (fs : FileSystem) (paths : List Path) : Tally :=
  .sum (paths.map fun p => .ofFindings (findingsAt parser fs p))

theorem run_of_readable (parser : Parser) (color : Bool)
    (readable : ∀ p ∈ paths, IsReadable fs p) : ∃ shown,
    run parser fs color paths =
      ⟨shown ++ summary color paths.length (total parser fs paths),
        if (total parser fs paths).errors > 0 then
          .error (.errors (total parser fs paths).errors)
        else .ok ()⟩ := by
  obtain ⟨found, reported, tallies⟩ := reports_of_readable parser color readable
  have sums : found.foldl (fun t r => t.add r.tally) .zero = total parser fs paths := by
    rw [Tally.foldl_add, Tally.zero_add, tallies, total]
  refine ⟨String.join (found.map (·.output)), ?_⟩
  rw [run, reported]
  simp only [sums]

theorem run_of_not_readable (parser : Parser) (color : Bool)
    (unreadable : ¬∀ p ∈ paths, IsReadable fs p) : ∃ failure,
    (run parser fs color paths).result = .error failure := by
  obtain ⟨failure, failed⟩ := reports_of_not_readable parser color unreadable
  exact ⟨failure, by simp only [run, failed]⟩

theorem errors_total_eq_zero : (total parser fs paths).errors = 0 ↔
    ∀ p ∈ paths, Finding.count (findingsAt parser fs p) .error = 0 := by
  simp [total, Tally.errors_sum_eq_zero, Tally.ofFindings]

/-- A check succeeds just if every file passes. -/
theorem result_run_eq_ok_iff :
    (run parser fs color paths).result = .ok () ↔ ∀ p ∈ paths, Passes parser fs p := by
  simp only [passes_iff, forall₂_and]
  by_cases readable : ∀ p ∈ paths, IsReadable fs p
  · obtain ⟨shown, ran⟩ := run_of_readable parser color readable
    rw [ran, ← errors_total_eq_zero]
    by_cases clean : (total parser fs paths).errors = 0
    · simpa [clean] using readable
    · simp [clean, Nat.pos_of_ne_zero clean]
  · obtain ⟨failure, failed⟩ := run_of_not_readable parser color readable
    simp [failed, readable]

theorem total_perm {a b : List Path} (h : a.Perm b) : total parser fs a = total parser fs b :=
  Tally.sum_perm (h.map _)

/-- A check that ends without failure. -/
def Succeeds (parser : Parser) (fs : FileSystem) (color : Bool) (paths : List Path) : Prop :=
  (run parser fs color paths).result = .ok ()

/-- In any file system: a check succeeds if and only if every file that is not input of autoconf can
be read as text and has no finding that is an error.  So a check of two lists together succeeds
just if both checks do, and checks of the same files succeed alike in any order and with any
repetition.  If all files can be read, a check ends with a summary of the sums of what the single
files have and fails just if the sum of errors is positive, whatever the warnings; the sums are the
same in any order of the files. -/
theorem succeeds_iff_passes (parser : Parser) (fs : FileSystem) (color : Bool) :
    (∀ paths, Succeeds parser fs color paths ↔
      ∀ p ∈ paths, FileType.detect? p.display ≠ some .config →
        ∃ source, fs.readText p = .ok source ∧
          ∀ f ∈ diagnose fs (SyntaxTree.parse parser source) (directoryOf p),
            f.severity ≠ .error) ∧
    (∀ a b, Succeeds parser fs color (a ++ b) ↔
      Succeeds parser fs color a ∧ Succeeds parser fs color b) ∧
    (∀ a b, (∀ p, p ∈ a ↔ p ∈ b) →
      (Succeeds parser fs color a ↔ Succeeds parser fs color b)) ∧
    (∀ paths, (∀ p ∈ paths, IsReadable fs p) →
      (∃ shown, (run parser fs color paths).output =
        shown ++ summary color paths.length (total parser fs paths)) ∧
      (run parser fs color paths).result =
        if (total parser fs paths).errors > 0 then
          .error (.errors (total parser fs paths).errors)
        else .ok ()) ∧
    ∀ a b : List Path, a.Perm b → total parser fs a = total parser fs b := by
  have passes (paths : List Path) :
      Succeeds parser fs color paths ↔ ∀ p ∈ paths, Passes parser fs p := result_run_eq_ok_iff
  refine ⟨passes, ?_, ?_, ?_, fun a b => total_perm⟩
  · intro a b
    rw [passes, passes, passes, List.forall_mem_append]
  · intro a b same
    rw [passes, passes]
    simp only [same]
  · intro paths readable
    obtain ⟨shown, ran⟩ := run_of_readable parser color readable
    rw [ran]
    exact ⟨⟨shown, rfl⟩, rfl⟩

/-- A parser for the text `include a.mk`, and for texts with the rule `x:` in every row. -/
def includeOrRules : Parser := fun text =>
  if text = "include a.mk\n" then
    .node ⟨"makefile", true, false, false, 0, 13, none⟩
      [.node ⟨"include_directive", true, false, false, 0, 13, none⟩
        [.node ⟨"include", false, false, false, 0, 7, none⟩ [],
         .node ⟨"list", true, false, false, 8, 12, some "filenames"⟩
          [.node ⟨"word", true, false, false, 8, 12, none⟩ []]]]
  else
    let rule (start : Nat) : Tree :=
      .node ⟨"rule", true, false, false, start, start + 3, none⟩
        [.node ⟨"targets", true, false, false, start, start + 1, none⟩
          [.node ⟨"word", true, false, false, start, start + 1, none⟩ []],
         .node ⟨":", false, false, false, start + 1, start + 2, none⟩ []]
    .node ⟨"makefile", true, false, false, 0, text.length, none⟩
      ((List.range (text.length / 3)).map fun row => rule (3 * row))

/-- A make file with an absent file, one with a repeated target, one without findings, and two files
that are no text. -/
def sources : FileSystem :=
  ⟨[([.ofString "Makefile"], .file (.text "include a.mk\n")),
    ([.ofString "twice.mk"], .file (.text "x:\nx:\n")),
    ([.ofString "once.mk"], .file (.text "x:\n")),
    ([.ofString "configure.ac"], .file (.bytes [255])),
    ([.ofString "noise.mk"], .file (.bytes [255]))], []⟩

/-- The absent file counts wherever its make file is named, the repeated target does no harm by
itself, and bytes that are no text do harm unless they are skipped. -/
theorem succeeds_mixedFiles :
    let mixed := ["Makefile", "configure.ac", "once.mk", "twice.mk", "Makefile"].map Path.ofString
    let harmless := ["configure.ac", "once.mk", "twice.mk"].map Path.ofString
    let noisy := ["once.mk", "noise.mk"].map Path.ofString
    let check := run includeOrRules sources false
    (check mixed).result = .error (.errors 2) ∧
    (∃ shown, (check mixed).output = shown ++ "  Failed 2 errors, 1 warning\n") ∧
    (check harmless).result = .ok () ∧
    (∃ shown, (check harmless).output = shown ++ "  Checked 1 warning\n") ∧
    (check noisy).result ≠ .ok () := by
  intro mixed harmless noisy check
  obtain ⟨passes, -, -, totals, -⟩ := succeeds_iff_passes includeOrRules sources false
  have failed := totals mixed (by decide +kernel)
  have errors : total includeOrRules sources mixed = ⟨2, 1⟩ := by decide +kernel
  have warned := totals harmless (by decide +kernel)
  have warnings : total includeOrRules sources harmless = ⟨0, 1⟩ := by decide +kernel
  rw [errors] at failed
  rw [warnings] at warned
  refine ⟨failed.2, failed.1, warned.2, warned.1, ?_⟩
  intro succeeds
  have unread : ¬∀ p ∈ noisy, Passes includeOrRules sources p := by decide +kernel
  exact unread ((passes noisy).1 succeeds)

end Autotools.Check
