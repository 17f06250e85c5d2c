/-! The descriptions of the functions, variables, directives and special targets of make that come
with the library. -/

namespace Autotools.Builtin

/-- Names of make and their descriptions. -/
def make : List (String × String) :=
  [("-include",
     "```make\ninclude\n-include\n```\nSuspends reading the current makefile and reads one or "
     ++ "more other makefiles before continuing. Use `-include` to ignore a makefile which "
     ++ "does not exist or cannot be remade."),
   (".DEFAULT",
     "The recipe specified for `.DEFAULT` is used for any target for which no rules are found "
     ++ "(either explicit rules or implicit rules)."),
   (".DEFAULT_GOAL",
     "Sets the default goal to be used if no targets were specified on the command line."),
   (".DELETE_ON_ERROR",
     "If `.DELETE_ON_ERROR` is mentioned as a target anywhere in the makefile, then `make` "
     ++ "will delete the target of a rule if it has changed and its recipe exits with a "
     ++ "nonzero exit status."),
   (".EXPORT_ALL_VARIABLES",
     "Simply by being mentioned as a target, this tells `make` to export all variables to "
     ++ "child processes by default."),
   (".EXTRA_PREREQS",
     "Each word in this variable is a new prerequisite which is added to targets for which it "
     ++ "is set. These prerequisites do not appear in any of the automatic variables."),
   (".FEATURES",
     "Expands to a list of special features supported by this version of `make`."),
   (".IGNORE",
     "If you specify prerequisites for `.IGNORE`, then `make` will ignore errors in execution "
     ++ "of the recipe for those particular files."),
   (".INCLUDE_DIRS",
     "Expands to a list of directories that `make` searches for included makefiles."),
   (".INTERMEDIATE",
     "The targets which `.INTERMEDIATE` depends on are treated as intermediate files."),
   (".LIBPATTERNS",
     "Patterns used to find the library file of a `-lNAME` prerequisite; default `lib%.so "
     ++ "lib%.a`."),
   (".LOADED",
     "Names of the objects loaded with the `load` directive, in load order."),
   (".LOW_RESOLUTION_TIME",
     "If you specify prerequisites for `.LOW_RESOLUTION_TIME`, `make` assumes that these "
     ++ "files are created by commands that generate low resolution time stamps."),
   (".NOTINTERMEDIATE",
     "Prerequisites of the special target `.NOTINTERMEDIATE` are never considered "
     ++ "intermediate files."),
   (".NOTPARALLEL",
     "If `.NOTPARALLEL` is mentioned as a target with no prerequisites, all targets in this "
     ++ "invocation of `make` will be run serially, even if the `-j` option is given."),
   (".ONESHELL",
     "If `.ONESHELL` is mentioned as a target anywhere in the makefile, then when a target is "
     ++ "built all lines of the recipe will be given to a single invocation of the shell "
     ++ "rather than each line being invoked separately."),
   (".PHONY",
     "The prerequisites of the special target `.PHONY` are considered to be phony targets. "
     ++ "When it is time to consider such a target, `make` will run its recipe "
     ++ "unconditionally, regardless of whether a file with that name exists or what its "
     ++ "last-modification time is."),
   (".POSIX",
     "If `.POSIX` is mentioned as a target anywhere in the makefile, then the makefile will "
     ++ "be parsed and run in POSIX-conforming mode."),
   (".PRECIOUS",
     "The targets which `.PRECIOUS` depends on are not deleted if `make` is killed or "
     ++ "interrupted during the execution of their recipes."),
   (".RECIPEPREFIX",
     "The first character of the value of this variable is used as the character make assumes "
     ++ "is introducing a recipe line."),
   (".SECONDARY",
     "The targets which `.SECONDARY` depends on are treated as intermediate files, except "
     ++ "that they are never automatically deleted."),
   (".SECONDEXPANSION",
     "If `.SECONDEXPANSION` is mentioned as a target anywhere in the makefile, then all "
     ++ "prerequisite lists defined after it appears will be expanded a second time after all "
     ++ "makefiles have been read in."),
   (".SHELLFLAGS",
     "The argument(s) passed to the shell are taken from this variable. The default value is "
     ++ "`-c` normally, or `-ec` in POSIX-conforming mode."),
   (".SILENT",
     "If you specify prerequisites for `.SILENT`, then `make` will not print the recipe used "
     ++ "to remake those particular files before executing them."),
   (".SUFFIXES",
     "The prerequisites of the special target `.SUFFIXES` are the list of suffixes to be used "
     ++ "in checking for suffix rules."),
   (".VARIABLES",
     "Expands to a list of the _names_ of all global variables defined so far."),
   ("AR",
     "Archive-maintaining program; default `ar`."),
   ("ARFLAGS",
     "Flags to give the archive-maintaining program; default `rv`."),
   ("AS",
     "Program for compiling assembly files; default `as`."),
   ("ASFLAGS",
     "Extra flags to give to the assembler (when explicitly invoked on a `.s` or `.S` file)."),
   ("CC",
     "Program for compiling C programs; default `cc`."),
   ("CFLAGS",
     "Extra flags to give to the C compiler."),
   ("CO",
     "Program for checking out files from RCS; default `co`."),
   ("COFLAGS",
     "Extra flags to give to the RCS `co` program."),
   ("CPP",
     "Program for running the C preprocessor, with results to standard output; default `$(CC) "
     ++ "-E`."),
   ("CPPFLAGS",
     "Extra flags to give to the C preprocessor and programs that use it (the C and Fortran "
     ++ "compilers)."),
   ("CTANGLE",
     "Program to translate C Web into C; default `ctangle`."),
   ("CURDIR",
     "Set to the absolute pathname of the current working directory."),
   ("CWEAVE",
     "Program to translate C Web into TeX; default `cweave`."),
   ("CXX",
     "Program for compiling C++ programs; default `g++`."),
   ("CXXFLAGS",
     "Extra flags to give to the C++ compiler."),
   ("FC",
     "Program for compiling or preprocessing Fortran and Ratfor programs; default `f77`."),
   ("FFLAGS",
     "Extra flags to give to the Fortran compiler."),
   ("GET",
     "Program for extracting a file from SCCS; default `get`."),
   ("GFLAGS",
     "Extra flags to give to the SCCS `get` program."),
   ("GNUMAKEFLAGS",
     "Other flags parsed by `make`. You can set this in the environment or a makefile to set "
     ++ "`make` command-line flags. GNU `make` never sets this variable itself."),
   ("LDFLAGS",
     "Extra flags to give to compilers when they are supposed to invoke the linker, `ld`, "
     ++ "such as `-L`."),
   ("LDLIBS",
     "Library flags or names given to compilers when they are supposed to invoke the linker, "
     ++ "`ld`."),
   ("LEX",
     "Program to use to turn Lex grammars into source code; default `lex`."),
   ("LFLAGS",
     "Extra flags to give to Lex."),
   ("LINT",
     "Program to use to run lint on source code; default `lint`."),
   ("LINTFLAGS",
     "Extra flags to give to lint."),
   ("LOADLIBES",
     "Deprecated (but still supported) alternative to `LDLIBS`."),
   ("M2C",
     "Program to use to compile Modula-2 source code; default `m2c`."),
   ("MAKE",
     "The name with which `make` was invoked. Using this variable in recipes has special "
     ++ "meaning for recursive invocations."),
   ("MAKECMDGOALS",
     "The targets given to `make` on the command line. Setting this variable has no effect on "
     ++ "the operation of `make`."),
   ("MAKEFILES",
     "If this variable is defined, `make` reads the makefiles it names, separated by "
     ++ "whitespace, before the others."),
   ("MAKEFILE_LIST",
     "Contains the name of each makefile that is parsed by `make`, in the order in which it "
     ++ "was parsed."),
   ("MAKEFLAGS",
     "The flags given to `make`. You can set this in the environment or a makefile to set "
     ++ "flags."),
   ("MAKEINFO",
     "Program to convert a Texinfo source file into an Info file; default `makeinfo`."),
   ("MAKELEVEL",
     "The number of levels of recursion (sub-`make`s)."),
   ("MAKESHELL",
     "On MS-DOS only, the name of the command interpreter that is to be used by `make`. This "
     ++ "value takes precedence over the value of `SHELL`."),
   ("MAKE_HOST",
     "The host that GNU `make` was built to run on."),
   ("MAKE_RESTARTS",
     "Set only when this instance of `make` has restarted: it contains the number of times "
     ++ "this instance has restarted."),
   ("MAKE_TERMERR",
     "Set by `make` to the name of the terminal device when its standard error shows on a "
     ++ "terminal."),
   ("MAKE_TERMOUT",
     "Set by `make` to the name of the terminal device when its standard output shows on a "
     ++ "terminal."),
   ("MAKE_VERSION",
     "The version number of GNU `make`."),
   ("MFLAGS",
     "A historical variable holding the flags given to `make`, like `MAKEFLAGS` but with a "
     ++ "leading `-`."),
   ("PC",
     "Program for compiling Pascal programs; default `pc`."),
   ("PFLAGS",
     "Extra flags to give to the Pascal compiler."),
   ("RFLAGS",
     "Extra flags to give to the Fortran compiler for Ratfor programs."),
   ("RM",
     "Command to remove a file; default `rm -f`."),
   ("SHELL",
     "The name of the default command interpreter, `sh`."),
   ("SUFFIXES",
     "The default list of suffixes before `make` reads any makefiles."),
   ("TANGLE",
     "Program to translate Web into Pascal; default `tangle`."),
   ("TEX",
     "Program to make TeX DVI files from TeX source; default `tex`."),
   ("TEXI2DVI",
     "Program to make TeX DVI files from Texinfo source; default `texi2dvi`."),
   ("VPATH",
     "Directory search path for files not found in the current directory."),
   ("WEAVE",
     "Program to translate Web into TeX; default `weave`."),
   ("YACC",
     "Program to use to turn Yacc grammars into source code; default `yacc`."),
   ("YFLAGS",
     "Extra flags to give to Yacc."),
   ("abspath",
     "```make\n$(abspath NAMES...)\n```\nFor each file name in NAMES return an absolute name "
     ++ "that does not contain any `.` or `..` components, nor any repeated path separators "
     ++ "(`/`). Unlike `realpath`, `abspath` does not resolve symlinks."),
   ("addprefix",
     "```make\n$(addprefix PREFIX,NAMES...)\n```\nThe argument NAMES is regarded as a series "
     ++ "of names, separated by whitespace; PREFIX is used as a unit. The value of PREFIX is "
     ++ "prepended to the front of each individual name."),
   ("addsuffix",
     "```make\n$(addsuffix SUFFIX,NAMES...)\n```\nThe argument NAMES is regarded as a series "
     ++ "of names, separated by whitespace; SUFFIX is used as a unit. The value of SUFFIX is "
     ++ "appended to the end of each individual name."),
   ("and",
     "```make\n$(and CONDITION1[,CONDITION2[,CONDITION3...]])\n```\nEach argument is "
     ++ "expanded, in order. If an argument expands to an empty string the processing stops "
     ++ "and the result of the expansion is the empty string. If all arguments expand to a "
     ++ "non-empty string then the result is the expansion of the last argument."),
   ("basename",
     "```make\n$(basename NAMES...)\n```\nExtracts all but the suffix of each file name in "
     ++ "NAMES. If the file name contains a period, the basename is everything starting up to "
     ++ "(and not including) the last period."),
   ("call",
     "```make\n$(call VARIABLE,PARAM,PARAM,...)\n```\nCreates new parameterized functions. "
     ++ "The PARAM values are assigned to the temporary variables `$(1)`, `$(2)`, and so on, "
     ++ "and VARIABLE is expanded."),
   ("define",
     "```make\ndefine VARIABLE [ASSIGNMENT-OPERATOR]\n```\nDefines a multi-line, "
     ++ "recursively-expanded variable. The value is everything up to the matching `endef`."),
   ("dir",
     "```make\n$(dir NAMES...)\n```\nExtracts the directory-part of each file name in NAMES. "
     ++ "The directory-part of the file name is everything up through (and including) the "
     ++ "last slash in it."),
   ("else",
     "Causes the following text to be obeyed if the previous conditional failed."),
   ("endef",
     "Ends a `define` directive."),
   ("endif",
     "Ends a conditional."),
   ("error",
     "```make\n$(error TEXT...)\n```\nGenerates a fatal error where the message is TEXT. Note "
     ++ "that the error is generated whenever this function is evaluated."),
   ("eval",
     "```make\n$(eval TEXT)\n```\nAllows you to define new makefile constructs that are not "
     ++ "constant; the result of evaluating other variables and functions. The argument is "
     ++ "expanded, then the results are parsed as makefile syntax."),
   ("export",
     "```make\nexport VARIABLE ...\n```\nExports variables to the environment of sub-`make` "
     ++ "invocations and recipes."),
   ("file",
     "```make\n$(file OP FILENAME[,TEXT])\n```\nAllows the makefile to write to or read from "
     ++ "a file. OP is `>`, `>>` or `<`."),
   ("filter",
     "```make\n$(filter PATTERN...,TEXT)\n```\nReturns all whitespace-separated words in TEXT "
     ++ "that _do_ match any of the PATTERN words, removing any words that _do not_ match."),
   ("filter-out",
     "```make\n$(filter-out PATTERN...,TEXT)\n```\nReturns all whitespace-separated words in "
     ++ "TEXT that _do not_ match any of the PATTERN words, removing the words that _do_ "
     ++ "match one or more."),
   ("findstring",
     "```make\n$(findstring FIND,IN)\n```\nSearches IN for an occurrence of FIND. If it "
     ++ "occurs, the value is FIND; otherwise, the value is empty."),
   ("firstword",
     "```make\n$(firstword NAMES...)\n```\nThe argument NAMES is regarded as a series of "
     ++ "names, separated by whitespace. The value is the first name in the series. The rest "
     ++ "of the names are ignored."),
   ("flavor",
     "```make\n$(flavor VARIABLE)\n```\nTells you something about a variable: its flavor, one "
     ++ "of `undefined`, `recursive` or `simple`."),
   ("foreach",
     "```make\n$(foreach VAR,LIST,TEXT)\n```\nThe first two arguments, VAR and LIST, are "
     ++ "expanded before anything else is done. Then TEXT is expanded once for each "
     ++ "whitespace-separated word of LIST, with VAR set to that word."),
   ("guile",
     "```make\n$(guile EXPRESSION)\n```\nEvaluates EXPRESSION with the embedded GNU Guile "
     ++ "interpreter and expands to its result. Available only when `make` was built with "
     ++ "Guile support."),
   ("if",
     "```make\n$(if CONDITION,THEN-PART[,ELSE-PART])\n```\nIf CONDITION expands to any "
     ++ "non-empty string, THEN-PART is evaluated and is the result; otherwise ELSE-PART is "
     ++ "evaluated if present."),
   ("ifdef",
     "```make\nifdef VARIABLE-NAME\n```\nIf the variable VARIABLE-NAME has a non-empty value, "
     ++ "the TEXT-IF-TRUE is effective; otherwise, the TEXT-IF-FALSE, if any, is effective."),
   ("ifeq",
     "```make\nifeq (ARG1, ARG2)\nifeq 'ARG1' 'ARG2'\nifeq \"ARG1\" \"ARG2\"\n```\nExpand all "
     ++ "variable references in ARG1 and ARG2 and compare them. If they are identical, the "
     ++ "TEXT-IF-TRUE is effective; otherwise, the TEXT-IF-FALSE, if any, is effective."),
   ("ifndef",
     "```make\nifndef VARIABLE-NAME\n```\nIf the variable VARIABLE-NAME has an empty value, "
     ++ "the TEXT-IF-TRUE is effective; otherwise, the TEXT-IF-FALSE, if any, is effective."),
   ("ifneq",
     "```make\nifneq (ARG1, ARG2)\nifneq 'ARG1' 'ARG2'\nifneq \"ARG1\" \"ARG2\"\n```\nExpand "
     ++ "all variable references in ARG1 and ARG2 and compare them. If they are different, "
     ++ "the TEXT-IF-TRUE is effective; otherwise, the TEXT-IF-FALSE, if any, is effective."),
   ("include",
     "```make\ninclude\n-include\n```\nSuspends reading the current makefile and reads one or "
     ++ "more other makefiles before continuing. Use `-include` to ignore a makefile which "
     ++ "does not exist or cannot be remade."),
   ("info",
     "```make\n$(info TEXT...)\n```\nThis function does nothing more than print its "
     ++ "(expanded) argument(s) to standard output. No makefile name or line number is added."),
   ("intcmp",
     "```make\n$(intcmp LHS,RHS[,LT-PART[,EQ-PART[,GT-PART]]])\n```\nProvides support for "
     ++ "numerical comparison of integers. LHS and RHS are expanded and parsed as integers "
     ++ "and compared."),
   ("join",
     "```make\n$(join LIST1,LIST2)\n```\nConcatenates the two arguments word by word: the two "
     ++ "first words (one from each argument) concatenated form the first word of the result, "
     ++ "the two second words form the second word of the result, and so on."),
   ("lastword",
     "```make\n$(lastword NAMES...)\n```\nThe argument NAMES is regarded as a series of "
     ++ "names, separated by whitespace. The value is the last name in the series."),
   ("let",
     "```make\n$(let VAR [VAR ...],[LIST],TEXT)\n```\nLimits the scope of variables: the last "
     ++ "argument TEXT is expanded with each VAR bound to successive words of LIST."),
   ("load",
     "```make\nload OBJECT-FILE ...\n-load OBJECT-FILE ...\n```\nLoads a dynamic object into "
     ++ "GNU `make`, extending it with new functions. Use `-load` to ignore an object that "
     ++ "cannot be loaded."),
   ("notdir",
     "```make\n$(notdir NAMES...)\n```\nExtracts all but the directory-part of each file name "
     ++ "in NAMES. If the file name contains no slash, it is left unchanged."),
   ("or",
     "```make\n$(or CONDITION1[,CONDITION2[,CONDITION3...]])\n```\nEach argument is expanded, "
     ++ "in order. If an argument expands to a non-empty string the processing stops and the "
     ++ "result of the expansion is that string."),
   ("origin",
     "```make\n$(origin VARIABLE)\n```\nTells you something about a variable: where it came "
     ++ "from, such as `undefined`, `default`, `environment`, `file`, `command line`, "
     ++ "`override` or `automatic`."),
   ("override",
     "```make\noverride VARIABLE-ASSIGNMENT\n```\nSets a variable in the makefile even though "
     ++ "it was set with a command argument."),
   ("patsubst",
     "```make\n$(patsubst PATTERN,REPLACEMENT,TEXT)\n```\nFinds whitespace-separated words in "
     ++ "TEXT that match PATTERN and replaces them with REPLACEMENT. Here PATTERN may contain "
     ++ "a `%` which acts as a wildcard, matching any number of any characters within a word."),
   ("private",
     "```make\nprivate\n```\nMarks a variable so that it is not inherited by the "
     ++ "prerequisites of the target it is set for, and is not exported to child processes "
     ++ "when set globally."),
   ("realpath",
     "```make\n$(realpath NAMES...)\n```\nFor each file name in NAMES return the canonical "
     ++ "absolute name. A canonical name does not contain any `.` or `..` components, nor any "
     ++ "repeated path separators (`/`) or symlinks."),
   ("shell",
     "```make\n$(shell COMMAND)\n```\nPerforms command expansion: it takes as an argument a "
     ++ "shell command and evaluates to the output of the command. Each newline in the output "
     ++ "is converted to a single space."),
   ("sinclude",
     "Another name for `-include`, provided for compatibility with other `make` "
     ++ "implementations."),
   ("sort",
     "```make\n$(sort LIST)\n```\nSorts the words of LIST in lexical order, removing "
     ++ "duplicate words. The output is a list of words separated by single spaces."),
   ("strip",
     "```make\n$(strip STRING)\n```\nRemoves leading and trailing whitespace from STRING and "
     ++ "replaces each internal sequence of one or more whitespace characters with a single "
     ++ "space."),
   ("subst",
     "```make\n$(subst FROM,TO,TEXT)\n```\nPerforms a textual replacement on the text TEXT: "
     ++ "each occurrence of FROM is replaced by TO. The result is substituted for the "
     ++ "function call."),
   ("suffix",
     "```make\n$(suffix NAMES...)\n```\nExtracts the suffix of each file name in NAMES. If "
     ++ "the file name contains a period, the suffix is everything starting with the last "
     ++ "period."),
   ("undefine",
     "```make\nundefine VARIABLE\n```\nUndefines a variable, so that it appears as if it was "
     ++ "never set."),
   ("unexport",
     "```make\nunexport VARIABLE ...\n```\nPrevents variables from being exported to the "
     ++ "environment of sub-`make` invocations and recipes."),
   ("value",
     "```make\n$(value VARIABLE)\n```\nProvides a way for you to use the value of a variable "
     ++ "_without_ having it expanded."),
   ("vpath",
     "```make\nvpath PATTERN DIRECTORIES\n```\nSpecify the search path DIRECTORIES for file "
     ++ "names that match PATTERN."),
   ("warning",
     "```make\n$(warning TEXT...)\n```\nThis function works similarly to the `error` "
     ++ "function, above, except that `make` doesn't exit. Instead, TEXT is expanded and the "
     ++ "resulting message is displayed, but processing of the makefile continues."),
   ("wildcard",
     "```make\n$(wildcard PATTERN)\n```\nThe argument PATTERN is a file name pattern, "
     ++ "typically containing wildcard characters (as in shell file name patterns). The "
     ++ "result of `wildcard` is a space-separated list of the names of existing files that "
     ++ "match the pattern."),
   ("word",
     "```make\n$(word N,TEXT)\n```\nReturns the Nth word of TEXT. The legitimate values of N "
     ++ "start from 1. If N is bigger than the number of words in TEXT, the value is empty."),
   ("wordlist",
     "```make\n$(wordlist S,E,TEXT)\n```\nReturns the list of words in TEXT starting with "
     ++ "word S and ending with word E (inclusive)."),
   ("words",
     "```make\n$(words TEXT)\n```\nReturns the number of words in TEXT. Thus, the last word "
     ++ "of TEXT is `$(word $(words TEXT),TEXT)`.")]

end Autotools.Builtin
