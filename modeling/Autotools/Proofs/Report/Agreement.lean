import Autotools.Command.Check
import Autotools.Proofs.Files.Resolve
import Autotools.Proofs.Workspace.Reachable

/-! The command line and the server agree.  A check of a source text and the opening of a document
with that text both diagnose the tree of the text, but take the directory of a file that is named
without any directory to be a dot or the empty path.  No check of a make file can tell the two
apart. -/

namespace Autotools

open Syntax

/-- Included files are found from a dot if and only if they are found by their names alone. -/
theorem Diagnosis.unresolved_here (fs : FileSystem) (t : SyntaxTree) :
    unresolved fs (.ofString ".") t = unresolved fs .nowhere t := by
  rw [unresolved, unresolved]
  congr 2
  funext n
  rw [fs.isFile_here_join]

/-- The directory that a check looks in serves like the directory of the path. -/
theorem diagnose_directoryOf (fs : FileSystem) (t : SyntaxTree) (p : Path) :
    diagnose fs t (Check.directoryOf p) = diagnose fs t p.parent? := by
  rw [Check.directoryOf]
  cases p.parent? with
  | none => rfl
  | some directory =>
    cases blank : directory.isEmpty with
    | false => simp [blank]
    | true =>
      obtain rfl := Path.eq_nowhere blank
      simp only [Option.map_some, blank, if_true, diagnose, Option.getD_some,
        Diagnosis.unresolved_here]

/-- A check of a source text at a path that names a make file has the findings that opening a
document with this path and text has, in every file system and workspace, under every URI and
version. -/
theorem Check.findings_eq_opened (parser : Parser) (fs : FileSystem) (w : Workspace) (p : Path)
    (source uri : String) (version : Int) (make : p.text?.bind FileType.detect? = some .make) :
    Check.findings parser fs p source =
      (w.opened parser uri (some p) source version).findings fs uri := by
  obtain ⟨name, text, type⟩ := Option.bind_eq_some_iff.1 make
  have named : Document.nameOf uri (some p) = name := by
    simp [Document.nameOf, text]
  rw [w.findings_opened, Document.findings_ofText, named, if_pos type]
  exact diagnose_directoryOf fs _ p

/-- A parser for the text `include config.mk`. -/
def Check.oneInclude : Parser := fun _ =>
  .node ⟨"makefile", true, false, false, 0, 18, none⟩
    [.node ⟨"include_directive", true, false, false, 0, 18, none⟩
      [.node ⟨"include", false, false, false, 0, 7, none⟩ [],
       .node ⟨"list", true, false, false, 8, 17, some "filenames"⟩
        [.node ⟨"word", true, false, false, 8, 17, none⟩ []]]]

theorem Check.findings_oneInclude :
    let p := Path.ofString "Makefile"
    let w := (Workspace.ofTable default).opened oneInclude "untitled:1" none "include config.mk\n" 1
    p.text?.bind FileType.detect? = some .make ∧
    ((w.opened oneInclude "untitled:1" (some p) "include config.mk\n" 2).findings
      default "untitled:1").map (·.message) = ["config.mk: no such file"] := by
  intro p w
  have make : p.text?.bind FileType.detect? = some .make := by
    rw [Path.text?_ofString]
    decide
  refine ⟨make, ?_⟩
  rw [← Check.findings_eq_opened oneInclude default w p _ _ 2 make]
  decide +kernel

end Autotools
