import Autotools.Syntax.Node

/-! What is found wrong with a make file. -/

namespace Autotools

/-- How bad a finding is: an error is something that does not parse or is not there, a warning is
legal but probably not what was meant. -/
inductive Severity where
  | error
  | warning
deriving DecidableEq, Inhabited, Repr

/-- The word in front of a message. -/
def Severity.name : Severity → String
  | .error => "error"
  | .warning => "warning"

/-- A problem and where it is: its byte bounds for a terminal, its rows and columns for an editor, a
message of one line, and what to write at the place itself if not the message. -/
structure Finding where
  severity : Severity
  start : Nat
  stop : Nat
  range : Range
  message : String
  label : Option String
deriving DecidableEq, Inhabited, Repr

namespace Finding

/-- A finding at a node. -/
def atNode (severity : Severity) (n : Syntax.Node) (message label : String) : Finding :=
  ⟨severity, n.start, n.stop, n.range, message, some label⟩

/-- A finding on one line. -/
def display (f : Finding) : String := f.severity.name ++ ": " ++ f.message

/-- The number of findings of a severity. -/
def count (findings : List Finding) (severity : Severity) : Nat :=
  findings.countP (·.severity == severity)

def hasErrors (findings : List Finding) : Bool := findings.any (·.severity == .error)

end Finding

end Autotools
