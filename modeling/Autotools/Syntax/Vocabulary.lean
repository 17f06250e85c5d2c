/-! The words that make itself understands. -/

namespace Autotools.Syntax

/-- The functions that make knows by name; any other name in `$(name ...)` is a variable. -/
def functions : List String :=
  ["subst", "patsubst", "strip", "findstring", "filter", "filter-out", "sort", "word", "words",
   "wordlist", "firstword", "lastword", "dir", "notdir", "suffix", "basename", "addsuffix",
   "addprefix", "join", "wildcard", "realpath", "abspath", "error", "warning", "info", "origin",
   "flavor", "foreach", "if", "or", "and", "call", "eval", "file", "value", "shell"]

/-- The words that start or end a directive. -/
def directives : List String :=
  ["include", "-include", "sinclude", "define", "endef", "undefine", "export", "unexport",
   "override", "private", "vpath", "ifeq", "ifneq", "ifdef", "ifndef", "else", "endif"]

end Autotools.Syntax
