/-! The kinds of nodes in the tree of a make file. -/

namespace Autotools.Syntax

/-- The kind of a node: one for every named node of the make grammar, one for input that could not
be read, and one for the tokens (keywords, operators, punctuation). -/
inductive Kind where
  | makefile
  | rule
  | targets
  | prerequisites
  | patternList
  | recipe
  | recipeLine
  | shellText
  | vpathAssignment
  | recipeprefixAssignment
  | variableAssignment
  | shellAssignment
  | defineDirective
  | rawText
  | includeDirective
  | vpathDirective
  | paths
  | exportDirective
  | unexportDirective
  | overrideDirective
  | undefineDirective
  | privateDirective
  | conditional
  | elsifDirective
  | elseDirective
  | ifeqDirective
  | ifneqDirective
  | ifdefDirective
  | ifndefDirective
  | variableReference
  | substitutionReference
  | automaticVariable
  | functionCall
  | shellFunction
  | shellCommand
  | arguments
  | list
  | concatenation
  | string
  | archive
  | word
  | text
  | escape
  | comment
  | error
  | token
deriving DecidableEq, Inhabited, Repr

/-- The grammar's names of the kinds. -/
def Kind.byName : List (String × Kind) :=
  [("makefile", .makefile), ("rule", .rule), ("targets", .targets),
   ("prerequisites", .prerequisites), ("pattern_list", .patternList), ("recipe", .recipe),
   ("recipe_line", .recipeLine), ("shell_text", .shellText),
   ("VPATH_assignment", .vpathAssignment),
   ("RECIPEPREFIX_assignment", .recipeprefixAssignment),
   ("variable_assignment", .variableAssignment), ("shell_assignment", .shellAssignment),
   ("define_directive", .defineDirective), ("raw_text", .rawText),
   ("include_directive", .includeDirective), ("vpath_directive", .vpathDirective),
   ("paths", .paths), ("export_directive", .exportDirective),
   ("unexport_directive", .unexportDirective), ("override_directive", .overrideDirective),
   ("undefine_directive", .undefineDirective), ("private_directive", .privateDirective),
   ("conditional", .conditional), ("elsif_directive", .elsifDirective),
   ("else_directive", .elseDirective), ("ifeq_directive", .ifeqDirective),
   ("ifneq_directive", .ifneqDirective), ("ifdef_directive", .ifdefDirective),
   ("ifndef_directive", .ifndefDirective), ("variable_reference", .variableReference),
   ("substitution_reference", .substitutionReference),
   ("automatic_variable", .automaticVariable), ("function_call", .functionCall),
   ("shell_function", .shellFunction), ("shell_command", .shellCommand),
   ("arguments", .arguments), ("list", .list), ("concatenation", .concatenation),
   ("string", .string), ("archive", .archive), ("word", .word), ("text", .text),
   ("escape", .escape), ("comment", .comment)]

/-- The kind of a node with a name of the grammar. A node that the grammar does not name is a token;
a named node of another name is an error, or stands for a hidden rule that was expected. -/
def Kind.ofGrammar (name : String) (named : Bool) : Kind :=
  if named then (Kind.byName.lookup name).getD .error else .token

end Autotools.Syntax
