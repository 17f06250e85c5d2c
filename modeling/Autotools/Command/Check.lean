import Autotools.Docs.FileType
import Autotools.Report.Diagnosis
import Autotools.Report.Terminal

/-! The command that checks files and reports their findings. -/

namespace Autotools.Check

open Syntax

/-- Why a check ends without success. -/
inductive Failure where
  | unreadable (path : Path) (cause : FileError)
  | errors (count : Nat)
deriving DecidableEq, Inhabited, Repr

/-- The ending of a word that is counted. -/
def plural (n : Nat) : String := if n = 1 then "" else "s"

/-- The wording of a failure, then that of its cause. -/
def Failure.messages : Failure → List String
  | .unreadable path cause => ["cannot read " ++ path.display, cause.message]
  | .errors count => ["check failed with " ++ toString count ++ " error" ++ plural count]

/-- The numbers of errors and warnings. -/
structure Tally where
  errors : Nat
  warnings : Nat
deriving DecidableEq, Inhabited, Repr

namespace Tally

def zero : Tally := ⟨0, 0⟩

def add (t u : Tally) : Tally := ⟨t.errors + u.errors, t.warnings + u.warnings⟩

def ofFindings (findings : List Finding) : Tally :=
  ⟨Finding.count findings .error, Finding.count findings .warning⟩

end Tally

/-- The directory of a file that is named on the command line. -/
def directoryOf (path : Path) : Option Path :=
  path.parent?.map fun dir => if dir.isEmpty then .ofString "." else dir

/-- The findings of a source text at a path. -/
def findings (parser : Parser) (fs : FileSystem) (path : Path) (source : String) :
    List Finding :=
  diagnose fs (SyntaxTree.parse parser source) (directoryOf path)

/-- What a file adds to a check: text for the terminal, and its tally. -/
structure Report where
  output : String
  tally : Tally
deriving Inhabited

/-- A word set off by an attribute of the terminal, if colors are wanted. -/
def emphasis (color : Bool) (code word : String) : String :=
  if color then "\x1b[" ++ code ++ "m" ++ word ++ "\x1b[0m" else word

/-- The check of one file. Input of autoconf has no checks; a file of unknown type is checked as a
make file. -/
def file (parser : Parser) (fs : FileSystem) (color : Bool) (path : Path) :
    Except Failure Report :=
  if FileType.detect? path.display = some .config then
    .ok ⟨"  " ++ emphasis color "2" "Skipping" ++ " " ++ path.display
      ++ " (no checks for configure.ac)\n", .zero⟩
  else
    match fs.readText path with
    | .error cause => .error (.unreadable path cause)
    | .ok source =>
      let found := findings parser fs path source
      .ok ⟨(Terminal.render? source path.display found color).getD "", .ofFindings found⟩

/-- The last line of a check. -/
def summary (color : Bool) (files : Nat) (t : Tally) : String :=
  let counted (n : Nat) (word : String) : String := toString n ++ " " ++ word ++ plural n
  "  " ++ (if t.errors > 0 then
      emphasis color "1;31" "Failed" ++ " " ++ counted t.errors "error" ++ ", "
        ++ counted t.warnings "warning"
    else if t.warnings > 0 then
      emphasis color "1;33" "Checked" ++ " " ++ counted t.warnings "warning"
    else
      emphasis color "1;32" "Checked" ++ " " ++ counted files "file" ++ ", no problems") ++ "\n"

/-- What a check writes, and how it ends. -/
structure Outcome where
  output : String
  result : Except Failure Unit

/-- The reports of files one after the other, up to the first that cannot be read. -/
def reports (parser : Parser) (fs : FileSystem) (color : Bool) :
    List Path → List Report × Option Failure
  | [] => ([], none)
  | path :: rest =>
    match file parser fs color path with
    | .error failure => ([], some failure)
    | .ok report =>
      let (others, failure) := reports parser fs color rest
      (report :: others, failure)

/-- Checks files. A file that cannot be read ends the check at once; otherwise the check fails if
there are errors, while warnings alone do no harm. -/
def run (parser : Parser) (fs : FileSystem) (color : Bool) (paths : List Path) : Outcome :=
  let (found, failure) := reports parser fs color paths
  let output := String.join (found.map (·.output))
  match failure with
  | some failure => ⟨output, .error failure⟩
  | none =>
    let total := found.foldl (fun t r => t.add r.tally) .zero
    ⟨output ++ summary color paths.length total,
      if total.errors > 0 then .error (.errors total.errors) else .ok ()⟩

end Autotools.Check
