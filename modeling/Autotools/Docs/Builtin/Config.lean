/-! The descriptions of autoconf macros that come with the library. -/

namespace Autotools.Builtin

/-- Autoconf macros and their descriptions. -/
def config : List (String × String) :=
  [("AC_ARG_ENABLE",
     "```m4\nAC_ARG_ENABLE (FEATURE, HELP-STRING, [ACTION-IF-GIVEN], "
     ++ "[ACTION-IF-NOT-GIVEN])\n```\nIf the user gave `configure` the option "
     ++ "`--enable-FEATURE` or `--disable-FEATURE`, run shell commands ACTION-IF-GIVEN. If "
     ++ "neither option was given, run shell commands ACTION-IF-NOT-GIVEN."),
   ("AC_ARG_PROGRAM",
     "```m4\nAC_ARG_PROGRAM\n```\nPlace in output variable `program_transform_name` a "
     ++ "sequence of `sed` commands for changing the names of installed programs."),
   ("AC_ARG_VAR",
     "```m4\nAC_ARG_VAR (VARIABLE, DESCRIPTION)\n```\nDeclare VARIABLE is a precious "
     ++ "variable, and include its DESCRIPTION in the variable section of `./configure --help`."),
   ("AC_ARG_WITH",
     "```m4\nAC_ARG_WITH (PACKAGE, HELP-STRING, [ACTION-IF-GIVEN], "
     ++ "[ACTION-IF-NOT-GIVEN])\n```\nIf the user gave `configure` the option "
     ++ "`--with-PACKAGE` or `--without-PACKAGE`, run shell commands ACTION-IF-GIVEN. If "
     ++ "neither option was given, run shell commands ACTION-IF-NOT-GIVEN."),
   ("AC_CACHE_CHECK",
     "```m4\nAC_CACHE_CHECK (MESSAGE, CACHE-ID, COMMANDS-TO-SET-IT)\n```\nA wrapper for "
     ++ "`AC_CACHE_VAL` that takes care of printing the messages."),
   ("AC_CACHE_VAL",
     "```m4\nAC_CACHE_VAL (CACHE-ID, COMMANDS-TO-SET-IT)\n```\nEnsure that the results of the "
     ++ "check identified by CACHE-ID are available. If the results of the check were in the "
     ++ "cache file that was read, print a message saying that the result was cached; "
     ++ "otherwise, run the shell commands COMMANDS-TO-SET-IT."),
   ("AC_CANONICAL_BUILD",
     "```m4\nAC_CANONICAL_BUILD\n```\nCompute the canonical build-system type variable, "
     ++ "`build`, and its three individual parts `build_cpu`, `build_vendor`, and `build_os`."),
   ("AC_CANONICAL_HOST",
     "```m4\nAC_CANONICAL_HOST\n```\nCompute the canonical host-system type variable, `host`, "
     ++ "and its three individual parts `host_cpu`, `host_vendor`, and `host_os`."),
   ("AC_CANONICAL_TARGET",
     "```m4\nAC_CANONICAL_TARGET\n```\nCompute the canonical target-system type variable, "
     ++ "`target`, and its three individual parts `target_cpu`, `target_vendor`, and "
     ++ "`target_os`."),
   ("AC_CHECK_ALIGNOF",
     "```m4\nAC_CHECK_ALIGNOF (TYPE, [INCLUDES])\n```\nDefine `ALIGNOF_TYPE` to be the "
     ++ "alignment in bytes of TYPE. If TYPE is unknown, the result is 0."),
   ("AC_CHECK_DECL",
     "```m4\nAC_CHECK_DECL (SYMBOL, [ACTION-IF-FOUND], [ACTION-IF-NOT-FOUND], "
     ++ "[INCLUDES])\n```\nIf SYMBOL (a function, variable, or constant) is not declared in "
     ++ "INCLUDES and a declaration is needed, run the shell commands ACTION-IF-NOT-FOUND, "
     ++ "otherwise ACTION-IF-FOUND."),
   ("AC_CHECK_DECLS",
     "```m4\nAC_CHECK_DECLS (SYMBOLS, [ACTION-IF-FOUND], [ACTION-IF-NOT-FOUND], "
     ++ "[INCLUDES])\n```\nFor each of the SYMBOLS (comma-separated list), define "
     ++ "`HAVE_DECL_SYMBOL` (in all capitals) to `1` if SYMBOL is declared, otherwise to `0`."),
   ("AC_CHECK_FILE",
     "```m4\nAC_CHECK_FILE (FILE, [ACTION-IF-FOUND], [ACTION-IF-NOT-FOUND])\n```\nCheck "
     ++ "whether file FILE exists on the native system. If it is found, execute "
     ++ "ACTION-IF-FOUND, otherwise do ACTION-IF-NOT-FOUND, if given."),
   ("AC_CHECK_FILES",
     "```m4\nAC_CHECK_FILES (FILES, [ACTION-IF-FOUND], [ACTION-IF-NOT-FOUND])\n```\nExecutes "
     ++ "`AC_CHECK_FILE` once for each file listed in FILES. Additionally, defines "
     ++ "`HAVE_FILE` for each file found."),
   ("AC_CHECK_FUNC",
     "```m4\nAC_CHECK_FUNC (FUNCTION, [ACTION-IF-FOUND], [ACTION-IF-NOT-FOUND])\n```\nIf C "
     ++ "function FUNCTION is available, run shell commands ACTION-IF-FOUND, otherwise "
     ++ "ACTION-IF-NOT-FOUND."),
   ("AC_CHECK_FUNCS",
     "```m4\nAC_CHECK_FUNCS (FUNCTION..., [ACTION-IF-FOUND], [ACTION-IF-NOT-FOUND])\n```\nFor "
     ++ "each FUNCTION enumerated in the blank-or-newline-separated argument list, define "
     ++ "`HAVE_FUNCTION` (in all capitals) if it is available."),
   ("AC_CHECK_FUNCS_ONCE",
     "```m4\nAC_CHECK_FUNCS_ONCE (FUNCTION...)\n```\nFor each FUNCTION enumerated in the "
     ++ "blank-or-newline-separated argument list, define `HAVE_FUNCTION` (in all capitals) "
     ++ "if it is available. This is a once-only variant of `AC_CHECK_FUNCS`."),
   ("AC_CHECK_HEADER",
     "```m4\nAC_CHECK_HEADER (HEADER-FILE, [ACTION-IF-FOUND], [ACTION-IF-NOT-FOUND], "
     ++ "[INCLUDES])\n```\nIf the system header file HEADER-FILE is compilable, execute shell "
     ++ "commands ACTION-IF-FOUND, otherwise execute ACTION-IF-NOT-FOUND."),
   ("AC_CHECK_HEADERS",
     "```m4\nAC_CHECK_HEADERS (HEADER-FILE..., [ACTION-IF-FOUND], [ACTION-IF-NOT-FOUND], "
     ++ "[INCLUDES])\n```\nFor each given system header file HEADER-FILE in the "
     ++ "blank-separated argument list that exists, define `HAVE_HEADER-FILE` (in all "
     ++ "capitals)."),
   ("AC_CHECK_HEADERS_ONCE",
     "```m4\nAC_CHECK_HEADERS_ONCE (HEADER-FILE...)\n```\nFor each given system header file "
     ++ "HEADER-FILE in the blank-separated argument list that exists, define "
     ++ "`HAVE_HEADER-FILE` (in all capitals). This is a once-only variant of "
     ++ "`AC_CHECK_HEADERS`."),
   ("AC_CHECK_LIB",
     "```m4\nAC_CHECK_LIB (LIBRARY, FUNCTION, [ACTION-IF-FOUND], [ACTION-IF-NOT-FOUND], "
     ++ "[OTHER-LIBRARIES])\n```\nTest whether the library LIBRARY is available by trying to "
     ++ "link a test program that calls function FUNCTION with the library."),
   ("AC_CHECK_MEMBERS",
     "```m4\nAC_CHECK_MEMBERS (MEMBERS, [ACTION-IF-FOUND], [ACTION-IF-NOT-FOUND], "
     ++ "[INCLUDES])\n```\nCheck for the existence of each `AGGREGATE.MEMBER` of MEMBERS. "
     ++ "When MEMBER belongs to AGGREGATE, define `HAVE_AGGREGATE_MEMBER` (in all capitals, "
     ++ "with spaces and dots replaced by underscores)."),
   ("AC_CHECK_PROG",
     "```m4\nAC_CHECK_PROG (VARIABLE, PROG-TO-CHECK-FOR, VALUE-IF-FOUND, "
     ++ "[VALUE-IF-NOT-FOUND], [PATH = '$PATH'], [REJECT])\n```\nCheck whether program "
     ++ "PROG-TO-CHECK-FOR exists in PATH. If it is found, set VARIABLE to VALUE-IF-FOUND, "
     ++ "otherwise to VALUE-IF-NOT-FOUND, if given."),
   ("AC_CHECK_PROGS",
     "```m4\nAC_CHECK_PROGS (VARIABLE, PROGS-TO-CHECK-FOR, [VALUE-IF-NOT-FOUND], [PATH = "
     ++ "'$PATH'])\n```\nCheck for each program in the blank-separated list "
     ++ "PROGS-TO-CHECK-FOR existing in the PATH. If one is found, set VARIABLE to the name "
     ++ "of that program."),
   ("AC_CHECK_SIZEOF",
     "```m4\nAC_CHECK_SIZEOF (TYPE-OR-EXPR, [UNUSED], [INCLUDES])\n```\nDefine "
     ++ "`SIZEOF_TYPE-OR-EXPR` to be the size in bytes of TYPE-OR-EXPR, which may be either a "
     ++ "type or an expression returning a value that has a size. If the expression `sizeof "
     ++ "(TYPE-OR-EXPR)` is invalid, the result is 0."),
   ("AC_CHECK_TOOL",
     "```m4\nAC_CHECK_TOOL (VARIABLE, PROG-TO-CHECK-FOR, [VALUE-IF-NOT-FOUND], [PATH = "
     ++ "'$PATH'])\n```\nLike `AC_CHECK_PROG`, but first looks for PROG-TO-CHECK-FOR with a "
     ++ "prefix of the host type as determined by `AC_CANONICAL_HOST`, followed by a dash."),
   ("AC_CHECK_TOOLS",
     "```m4\nAC_CHECK_TOOLS (VARIABLE, PROGS-TO-CHECK-FOR, [VALUE-IF-NOT-FOUND], [PATH = "
     ++ "'$PATH'])\n```\nLike `AC_CHECK_TOOL`, each of the tools in the list "
     ++ "PROGS-TO-CHECK-FOR are checked with a prefix of the host type. If none of the "
     ++ "prefixed tools is found, the unprefixed ones are tried."),
   ("AC_CHECK_TYPE",
     "```m4\nAC_CHECK_TYPE (TYPE, [ACTION-IF-FOUND], [ACTION-IF-NOT-FOUND], "
     ++ "[INCLUDES])\n```\nCheck whether TYPE is defined. It may be a compiler builtin type "
     ++ "or defined by the INCLUDES."),
   ("AC_CHECK_TYPES",
     "```m4\nAC_CHECK_TYPES (TYPES, [ACTION-IF-FOUND], [ACTION-IF-NOT-FOUND], [INCLUDES = "
     ++ "'AC_INCLUDES_DEFAULT'])\n```\nFor each TYPE of the TYPES that is defined, define "
     ++ "`HAVE_TYPE` (in all capitals)."),
   ("AC_COMPILE_IFELSE",
     "```m4\nAC_COMPILE_IFELSE (INPUT, [ACTION-IF-TRUE], [ACTION-IF-FALSE])\n```\nRun the "
     ++ "compiler and compilation flags of the current language on the INPUT, run the shell "
     ++ "commands ACTION-IF-TRUE on success, ACTION-IF-FALSE otherwise."),
   ("AC_CONFIG_AUX_DIR",
     "```m4\nAC_CONFIG_AUX_DIR (DIR)\n```\nUse the auxiliary build tools (e.g., `install-sh`, "
     ++ "`config.sub`, `config.guess`, Cygnus `configure`, Automake and Libtool scripts, "
     ++ "etc.) that are in directory DIR."),
   ("AC_CONFIG_COMMANDS",
     "```m4\nAC_CONFIG_COMMANDS (TAG..., [CMDS], [INIT-CMDS])\n```\nSpecify additional shell "
     ++ "commands to run at the end of `config.status`, and shell commands to initialize any "
     ++ "variables from `configure`."),
   ("AC_CONFIG_FILES",
     "```m4\nAC_CONFIG_FILES (FILE ..., [CMDS], [INIT-CMDS])\n```\nMake `AC_OUTPUT` create "
     ++ "each `FILE` by copying an input file (by default `FILE.in`), substituting the output "
     ++ "variable values."),
   ("AC_CONFIG_HEADERS",
     "```m4\nAC_CONFIG_HEADERS (HEADER ..., [CMDS], [INIT-CMDS])\n```\nThis macro is one of "
     ++ "the instantiating macros. Make `AC_OUTPUT` create the file(s) in the "
     ++ "blank-or-newline-separated list HEADER containing C preprocessor `#define` "
     ++ "statements, and replace `@DEFS@` in generated files with `-DHAVE_CONFIG_H` instead "
     ++ "of the value of `DEFS`."),
   ("AC_CONFIG_LINKS",
     "```m4\nAC_CONFIG_LINKS (DEST:SOURCE..., [CMDS], [INIT-CMDS])\n```\nMake `AC_OUTPUT` "
     ++ "link each of the existing files SOURCE to the corresponding link name DEST."),
   ("AC_CONFIG_MACRO_DIR",
     "```m4\nAC_CONFIG_MACRO_DIRS (DIR1 [DIR2 ... DIRN])\nAC_CONFIG_MACRO_DIR "
     ++ "(DIR)\n```\nSpecify the given directories as the location of additional local "
     ++ "Autoconf macros. These macros are intended for use by commands like `autoreconf` or "
     ++ "`aclocal` that trace macro calls."),
   ("AC_CONFIG_MACRO_DIRS",
     "```m4\nAC_CONFIG_MACRO_DIRS (DIR1 [DIR2 ... DIRN])\nAC_CONFIG_MACRO_DIR "
     ++ "(DIR)\n```\nSpecify the given directories as the location of additional local "
     ++ "Autoconf macros. These macros are intended for use by commands like `autoreconf` or "
     ++ "`aclocal` that trace macro calls."),
   ("AC_CONFIG_SRCDIR",
     "```m4\nAC_CONFIG_SRCDIR (UNIQUE-FILE-IN-SOURCE-DIR)\n```\nUNIQUE-FILE-IN-SOURCE-DIR is "
     ++ "some file that is in the package's source directory; `configure` checks for this "
     ++ "file's existence to make sure that the directory that it is told contains the source "
     ++ "code in fact does."),
   ("AC_CONFIG_SUBDIRS",
     "```m4\nAC_CONFIG_SUBDIRS (DIR ...)\n```\nMake `AC_OUTPUT` run `configure` in each "
     ++ "subdirectory DIR in the given blank-or-newline-separated list."),
   ("AC_CONFIG_TESTDIR",
     "```m4\nAC_CONFIG_TESTDIR (DIRECTORY, [AUTOTEST-PATH = 'DIRECTORY'])\n```\nAn Autotest "
     ++ "test suite is to be configured in DIRECTORY."),
   ("AC_COPYRIGHT",
     "```m4\nAC_COPYRIGHT (COPYRIGHT-NOTICE)\n```\nState that, in addition to the Free "
     ++ "Software Foundation's copyright on the Autoconf macros, parts of your `configure` "
     ++ "are covered by the COPYRIGHT-NOTICE."),
   ("AC_C_BIGENDIAN",
     "```m4\nAC_C_BIGENDIAN ([ACTION-IF-TRUE], [ACTION-IF-FALSE], [ACTION-IF-UNKNOWN], "
     ++ "[ACTION-IF-UNIVERSAL])\n```\nIf words are stored with the most significant byte "
     ++ "first (like Motorola and SPARC CPUs), execute ACTION-IF-TRUE. If words are stored "
     ++ "with the least significant byte first (like Intel and VAX CPUs), execute "
     ++ "ACTION-IF-FALSE."),
   ("AC_C_CONST",
     "```m4\nAC_C_CONST\n```\nIf the C compiler does not fully support the `const` keyword, "
     ++ "define `const` to be empty."),
   ("AC_C_INLINE",
     "```m4\nAC_C_INLINE\n```\nIf the C compiler supports the keyword `inline`, do nothing. "
     ++ "Otherwise define `inline` to `__inline__` or `__inline` if it accepts one of those, "
     ++ "otherwise define `inline` to be empty."),
   ("AC_C_RESTRICT",
     "```m4\nAC_C_RESTRICT\n```\nIf the C compiler recognizes a variant spelling for the "
     ++ "`restrict` keyword (`__restrict`, `__restrict__`, or `_Restrict`), then define "
     ++ "`restrict` to that."),
   ("AC_DEFINE",
     "```m4\nAC_DEFINE (VARIABLE, VALUE, [DESCRIPTION])\nAC_DEFINE (VARIABLE)\n```\nDefine "
     ++ "VARIABLE to VALUE (verbatim), by defining a C preprocessor macro for VARIABLE. "
     ++ "VARIABLE should be a C identifier, optionally suffixed by a parenthesized argument "
     ++ "list to define a C preprocessor macro with arguments."),
   ("AC_DEFINE_UNQUOTED",
     "```m4\nAC_DEFINE_UNQUOTED (VARIABLE, VALUE, [DESCRIPTION])\nAC_DEFINE_UNQUOTED "
     ++ "(VARIABLE)\n```\nLike `AC_DEFINE`, but three shell expansions are performed, once, "
     ++ "on VARIABLE and VALUE: variable expansion, command substitution, and backslash "
     ++ "escaping."),
   ("AC_DEFUN",
     "```m4\nAC_DEFUN (NAME, [BODY])\n```\nDefine NAME as a macro that can be used with "
     ++ "`AC_REQUIRE`, and which emits the appropriate help and dependency handling."),
   ("AC_EGREP_CPP",
     "```m4\nAC_EGREP_CPP (PATTERN, PROGRAM, [ACTION-IF-FOUND], "
     ++ "[ACTION-IF-NOT-FOUND])\n```\nPROGRAM is the text of a C or C++ program. If the "
     ++ "output of running the preprocessor on PROGRAM matches the extended regular "
     ++ "expression PATTERN, execute shell commands ACTION-IF-FOUND, otherwise execute "
     ++ "ACTION-IF-NOT-FOUND."),
   ("AC_EGREP_HEADER",
     "```m4\nAC_EGREP_HEADER (PATTERN, HEADER-FILE, ACTION-IF-FOUND, "
     ++ "[ACTION-IF-NOT-FOUND])\n```\nIf the output of running the preprocessor on the system "
     ++ "header file HEADER-FILE matches the extended regular expression PATTERN, execute "
     ++ "shell commands ACTION-IF-FOUND, otherwise execute ACTION-IF-NOT-FOUND."),
   ("AC_FUNC_FORK",
     "```m4\nAC_FUNC_FORK\n```\nThis macro checks for the `fork` and `vfork` functions. If a "
     ++ "working `fork` is found, define `HAVE_WORKING_FORK`."),
   ("AC_FUNC_MALLOC",
     "```m4\nAC_FUNC_MALLOC\n```\nIf the `malloc` function is compatible with the GNU C "
     ++ "library `malloc` (i.e., `malloc (0)` returns a valid pointer), define `HAVE_MALLOC` "
     ++ "to 1. Otherwise define `HAVE_MALLOC` to 0, ask for an `AC_LIBOBJ` replacement for "
     ++ "`malloc`, and define `malloc` to `rpl_malloc`."),
   ("AC_FUNC_MMAP",
     "```m4\nAC_FUNC_MMAP\n```\nIf the `mmap` function exists and works correctly, define "
     ++ "`HAVE_MMAP`."),
   ("AC_HEADER_STDBOOL",
     "```m4\nAC_HEADER_STDBOOL\n```\nIf `stdbool.h` exists and conforms to C99 or later, "
     ++ "define `HAVE_STDBOOL_H` to 1; if the type `_Bool` is defined, define `HAVE__BOOL` to "
     ++ "1."),
   ("AC_HEADER_SYS_WAIT",
     "```m4\nAC_HEADER_SYS_WAIT\n```\nIf `sys/wait.h` exists and is compatible with Posix, "
     ++ "define `HAVE_SYS_WAIT_H`."),
   ("AC_INIT",
     "```m4\nAC_INIT (PACKAGE, VERSION, [BUG-REPORT], [TARNAME], [URL])\n```\nProcess any "
     ++ "command-line arguments and perform initialization and verification.\n\nSet the name "
     ++ "of the PACKAGE and its VERSION. These are typically used in `--version` support, "
     ++ "including that of `configure`."),
   ("AC_LANG",
     "```m4\nAC_LANG (LANGUAGE)\n```\nDo compilation tests using the compiler, preprocessor, "
     ++ "and file extensions for the specified LANGUAGE."),
   ("AC_LANG_POP",
     "```m4\nAC_LANG_POP ([LANGUAGE])\n```\nSelect the language that is saved on the top of "
     ++ "the stack, as set by `AC_LANG_PUSH`, and remove it from the stack."),
   ("AC_LANG_PROGRAM",
     "```m4\nAC_LANG_PROGRAM (PROLOGUE, BODY)\n```\nExpands into a source file which consists "
     ++ "of the PROLOGUE, and then BODY as body of the main function (e.g., `main` in C)."),
   ("AC_LANG_PUSH",
     "```m4\nAC_LANG_PUSH (LANGUAGE)\n```\nRemember the current language (as set by "
     ++ "`AC_LANG`) on a stack, and then select the LANGUAGE."),
   ("AC_LANG_SOURCE",
     "```m4\nAC_LANG_SOURCE (SOURCE)\n```\nExpands into the SOURCE, with the definition of "
     ++ "all the `AC_DEFINE` performed so far."),
   ("AC_LIBOBJ",
     "```m4\nAC_LIBOBJ (FUNCTION)\n```\nSpecify that `FUNCTION.c` must be included in the "
     ++ "executables to replace a missing or broken implementation of FUNCTION."),
   ("AC_LINK_IFELSE",
     "```m4\nAC_LINK_IFELSE (INPUT, [ACTION-IF-TRUE], [ACTION-IF-FALSE])\n```\nRun the "
     ++ "compiler (and compilation flags) and the linker of the current language on the "
     ++ "INPUT, run the shell commands ACTION-IF-TRUE on success, ACTION-IF-FALSE otherwise."),
   ("AC_MSG_CHECKING",
     "```m4\nAC_MSG_CHECKING (FEATURE-DESCRIPTION)\n```\nNotify the user that `configure` is "
     ++ "checking for a particular feature."),
   ("AC_MSG_ERROR",
     "```m4\nAC_MSG_ERROR (ERROR-DESCRIPTION, [EXIT-STATUS = '$?/1'])\n```\nNotify the user "
     ++ "of an error that prevents `configure` from completing. This macro prints an error "
     ++ "message to the standard error output and exits `configure` with EXIT-STATUS."),
   ("AC_MSG_FAILURE",
     "```m4\nAC_MSG_FAILURE (ERROR-DESCRIPTION, [EXIT-STATUS = '$?/1'])\n```\nThis "
     ++ "`AC_MSG_ERROR` wrapper notifies the user of an error that prevents `configure` from "
     ++ "completing and that additional details are provided in `config.log`."),
   ("AC_MSG_NOTICE",
     "```m4\nAC_MSG_NOTICE (MESSAGE)\n```\nDeliver the MESSAGE to the user. It is useful "
     ++ "mainly to print a general description of the overall purpose of a group of feature "
     ++ "checks."),
   ("AC_MSG_RESULT",
     "```m4\nAC_MSG_RESULT (RESULT-DESCRIPTION)\n```\nNotify the user of the results of a "
     ++ "check. RESULT-DESCRIPTION is almost always the value of the cache variable for the "
     ++ "check, typically `yes`, `no`, or a file name."),
   ("AC_MSG_WARN",
     "```m4\nAC_MSG_WARN (PROBLEM-DESCRIPTION)\n```\nNotify the `configure` user of a "
     ++ "possible problem. This macro prints the message to the standard error output; "
     ++ "`configure` continues running afterward."),
   ("AC_OPENMP",
     "```m4\nAC_OPENMP\n```\nFind out how to compile programs that use OpenMP, and set the "
     ++ "output variable `OPENMP_CFLAGS`, `OPENMP_CXXFLAGS`, `OPENMP_FFLAGS` or "
     ++ "`OPENMP_FCFLAGS` for the current language."),
   ("AC_OUTPUT",
     "```m4\nAC_OUTPUT\n```\nGenerate `config.status` and launch it. Call this macro once, at "
     ++ "the end of `configure.ac`."),
   ("AC_PATH_PROG",
     "```m4\nAC_PATH_PROG (VARIABLE, PROG-TO-CHECK-FOR, [VALUE-IF-NOT-FOUND], [PATH = "
     ++ "'$PATH'])\n```\nLike `AC_CHECK_PROG`, but set VARIABLE to the absolute name of "
     ++ "PROG-TO-CHECK-FOR if found."),
   ("AC_PATH_PROGS",
     "```m4\nAC_PATH_PROGS (VARIABLE, PROGS-TO-CHECK-FOR, [VALUE-IF-NOT-FOUND], [PATH = "
     ++ "'$PATH'])\n```\nLike `AC_CHECK_PROGS`, but if any of PROGS-TO-CHECK-FOR are found, "
     ++ "set VARIABLE to the absolute name of the program found."),
   ("AC_PATH_TOOL",
     "```m4\nAC_PATH_TOOL (VARIABLE, PROG-TO-CHECK-FOR, [VALUE-IF-NOT-FOUND], [PATH = "
     ++ "'$PATH'])\n```\nLike `AC_CHECK_TOOL`, but set VARIABLE to the absolute name of the "
     ++ "program if it is found."),
   ("AC_PATH_X",
     "```m4\nAC_PATH_X\n```\nTry to locate the X Window System include files and libraries."),
   ("AC_PREPROC_IFELSE",
     "```m4\nAC_PREPROC_IFELSE (INPUT, [ACTION-IF-TRUE], [ACTION-IF-FALSE])\n```\nRun the "
     ++ "preprocessor of the current language on the INPUT, run the shell commands "
     ++ "ACTION-IF-TRUE on success, ACTION-IF-FALSE otherwise."),
   ("AC_PREREQ",
     "```m4\nAC_PREREQ (VERSION)\n```\nEnsure that a recent enough version of Autoconf is "
     ++ "being used. If the version of Autoconf being used to create `configure` is earlier "
     ++ "than VERSION, print an error message to the standard error output and exit with "
     ++ "failure."),
   ("AC_PROG_AWK",
     "```m4\nAC_PROG_AWK\n```\nCheck for `gawk`, `mawk`, `nawk`, and `awk`, in that order, "
     ++ "and set output variable `AWK` to the first one that is found."),
   ("AC_PROG_CC",
     "```m4\nAC_PROG_CC ([COMPILER-SEARCH-LIST])\n```\nDetermine a C compiler to use.\n\nIf "
     ++ "the environment variable `CC` is set, use its value. Otherwise search for a C "
     ++ "compiler under a series of likely names, trying `gcc` and `cc` first."),
   ("AC_PROG_CC_C_O",
     "```m4\nAC_PROG_CC_C_O\n```\nIf the C compiler does not accept the `-c` and `-o` options "
     ++ "simultaneously, define `NO_MINUS_C_MINUS_O`."),
   ("AC_PROG_CPP",
     "```m4\nAC_PROG_CPP\n```\nSet output variable `CPP` to a command that runs the C "
     ++ "preprocessor."),
   ("AC_PROG_CXX",
     "```m4\nAC_PROG_CXX ([COMPILER-SEARCH-LIST])\n```\nDetermine a C++ compiler to use. If "
     ++ "either the environment variable `CXX` or `CCC` is set, use its value."),
   ("AC_PROG_CXXCPP",
     "```m4\nAC_PROG_CXXCPP\n```\nSet output variable `CXXCPP` to a command that runs the C++ "
     ++ "preprocessor."),
   ("AC_PROG_EGREP",
     "```m4\nAC_PROG_EGREP\n```\nCheck for `grep -E` and `egrep`, in that order, and set "
     ++ "output variable `EGREP` to the first one that is found."),
   ("AC_PROG_FC",
     "```m4\nAC_PROG_FC ([COMPILER-SEARCH-LIST], [DIALECT])\n```\nDetermine a Fortran "
     ++ "compiler to use. If `FC` is not already set in the environment, then DIALECT is a "
     ++ "hint to indicate what Fortran dialect to search for."),
   ("AC_PROG_FGREP",
     "```m4\nAC_PROG_FGREP\n```\nCheck for `grep -F` and `fgrep`, in that order, and set "
     ++ "output variable `FGREP` to the first one that is found."),
   ("AC_PROG_GREP",
     "```m4\nAC_PROG_GREP\n```\nLook for the best available `grep` or `ggrep` that accepts "
     ++ "the longest input lines possible, and that supports multiple `-e` options."),
   ("AC_PROG_INSTALL",
     "```m4\nAC_PROG_INSTALL\n```\nSet output variable `INSTALL` to the name of a "
     ++ "BSD-compatible `install` program, if one is found in the current `PATH`. Otherwise, "
     ++ "set `INSTALL` to `DIR/install-sh -c`."),
   ("AC_PROG_LEX",
     "```m4\nAC_PROG_LEX (OPTIONS)\n```\nIf `flex` is found, set output variable `LEX` to "
     ++ "`flex` and `LEXLIB` to `-lfl`, if that library is in a standard place. Otherwise set "
     ++ "`LEX` to `lex` and `LEXLIB` to `-ll`, if found."),
   ("AC_PROG_LN_S",
     "```m4\nAC_PROG_LN_S\n```\nIf `ln -s` works on the current file system (the operating "
     ++ "system and file system support symbolic links), set the output variable `LN_S` to "
     ++ "`ln -s`."),
   ("AC_PROG_MAKE_SET",
     "```m4\nAC_PROG_MAKE_SET\n```\nIf the Make command, `$MAKE` if set or else `make`, "
     ++ "predefines `$(MAKE)`, define output variable `SET_MAKE` to be empty. Otherwise, "
     ++ "define `SET_MAKE` to a macro definition that sets `$(MAKE)`."),
   ("AC_PROG_MKDIR_P",
     "```m4\nAC_PROG_MKDIR_P\n```\nSet output variable `MKDIR_P` to a program that ensures "
     ++ "that for each argument, a directory named by this argument exists, creating it and "
     ++ "its parent directories if needed."),
   ("AC_PROG_OBJC",
     "```m4\nAC_PROG_OBJC ([COMPILER-SEARCH-LIST])\n```\nDetermine an Objective C compiler to "
     ++ "use. If `OBJC` is not already set in the environment, check for Objective C "
     ++ "compilers."),
   ("AC_PROG_RANLIB",
     "```m4\nAC_PROG_RANLIB\n```\nSet output variable `RANLIB` to `ranlib` if `ranlib` is "
     ++ "found, and otherwise to `:` (do nothing)."),
   ("AC_PROG_SED",
     "```m4\nAC_PROG_SED\n```\nSet output variable `SED` to a Sed implementation that "
     ++ "conforms to Posix and does not have arbitrary length limits."),
   ("AC_PROG_YACC",
     "```m4\nAC_PROG_YACC\n```\nIf `bison` is found, set output variable `YACC` to `bison "
     ++ "-y`. Otherwise, if `byacc` is found, set `YACC` to `byacc`. Otherwise set `YACC` to "
     ++ "`yacc`."),
   ("AC_REPLACE_FUNCS",
     "```m4\nAC_REPLACE_FUNCS (FUNCTION...)\n```\nLike `AC_CHECK_FUNCS`, but uses "
     ++ "`AC_LIBOBJ(FUNCTION)` as ACTION-IF-NOT-FOUND."),
   ("AC_REQUIRE",
     "```m4\nAC_REQUIRE (MACRO-NAME)\n```\nIf the M4 macro MACRO-NAME has not already been "
     ++ "called, call it (without any arguments)."),
   ("AC_REVISION",
     "```m4\nAC_REVISION (REVISION-INFO)\n```\nCopy revision stamp REVISION-INFO into the "
     ++ "`configure` script, with any dollar signs or double-quotes removed."),
   ("AC_RUN_IFELSE",
     "```m4\nAC_RUN_IFELSE (INPUT, [ACTION-IF-TRUE], [ACTION-IF-FALSE], "
     ++ "[ACTION-IF-CROSS-COMPILING = 'AC_MSG_FAILURE'])\n```\nRun the compiler and the "
     ++ "linker of the current language on the INPUT, then execute the resulting program. If "
     ++ "the program returns an exit status of 0 when executed, run shell commands "
     ++ "ACTION-IF-TRUE. Otherwise, run shell commands ACTION-IF-FALSE."),
   ("AC_SEARCH_LIBS",
     "```m4\nAC_SEARCH_LIBS (FUNCTION, SEARCH-LIBS, [ACTION-IF-FOUND], [ACTION-IF-NOT-FOUND], "
     ++ "[OTHER-LIBRARIES])\n```\nSearch for a library defining FUNCTION if it's not already "
     ++ "available. This equates to calling `AC_LINK_IFELSE([AC_LANG_CALL([], [FUNCTION])])` "
     ++ "first with no libraries, then for each library listed in SEARCH-LIBS."),
   ("AC_SUBST",
     "```m4\nAC_SUBST (VARIABLE, [VALUE])\n```\nCreate an output variable from a shell "
     ++ "variable. Make `AC_OUTPUT` substitute the variable VARIABLE into output files "
     ++ "(typically one or more makefiles)."),
   ("AC_SUBST_FILE",
     "```m4\nAC_SUBST_FILE (VARIABLE)\n```\nMake `AC_OUTPUT` insert (without substitutions) "
     ++ "the contents of the file named by shell variable VARIABLE into output files."),
   ("AC_SYS_LARGEFILE",
     "```m4\nAC_SYS_LARGEFILE\n```\nArrange for 64-bit file offsets, known as large-file "
     ++ "support."),
   ("AC_TYPE_OFF_T",
     "```m4\nAC_TYPE_OFF_T\n```\nDefine `off_t` to a suitable type, if standard headers do "
     ++ "not define it."),
   ("AC_TYPE_PID_T",
     "```m4\nAC_TYPE_PID_T\n```\nDefine `pid_t` to a suitable type, if standard headers do "
     ++ "not define it."),
   ("AC_TYPE_SIZE_T",
     "```m4\nAC_TYPE_SIZE_T\n```\nDefine `size_t` to a suitable type, if standard headers do "
     ++ "not define it."),
   ("AC_TYPE_SSIZE_T",
     "```m4\nAC_TYPE_SSIZE_T\n```\nDefine `ssize_t` to a suitable type, if standard headers "
     ++ "do not define it."),
   ("AC_TYPE_UINT32_T",
     "```m4\nAC_TYPE_UINT32_T\n```\nIf `stdint.h` or `inttypes.h` does not define the type "
     ++ "`uint32_t`, define `uint32_t` to an unsigned integer type that is exactly 32 bits "
     ++ "wide, if such a type exists."),
   ("AC_USE_SYSTEM_EXTENSIONS",
     "```m4\nAC_USE_SYSTEM_EXTENSIONS\n```\nIf possible, enable extensions to C or Posix on "
     ++ "hosts that normally disable the extensions, typically due to standards-conformance "
     ++ "namespace issues."),
   ("AM_CONDITIONAL",
     "```m4\nAM_CONDITIONAL (CONDITIONAL, CONDITION)\n```\nThe conditional name, CONDITIONAL, "
     ++ "should be a simple string starting with a letter and containing only letters, "
     ++ "digits, and underscores. It must be different from `TRUE` and `FALSE`."),
   ("AM_INIT_AUTOMAKE",
     "```m4\nAM_INIT_AUTOMAKE ([OPTIONS])\n```\nRuns many macros required for proper "
     ++ "operation of the generated Makefiles. OPTIONS is a space-separated list of Automake "
     ++ "options to apply to every `Makefile.am` in the tree."),
   ("AM_MAINTAINER_MODE",
     "```m4\nAM_MAINTAINER_MODE ([DEFAULT-MODE])\n```\nThis macro adds an "
     ++ "`--enable-maintainer-mode` option to `configure`. If this is used, `automake` will "
     ++ "cause maintainer-only rules to be turned off by default in the generated "
     ++ "`Makefile.in`s, unless DEFAULT-MODE is `enable`."),
   ("AM_PROG_AR",
     "```m4\nAM_PROG_AR ([ACT-IF-FAIL])\n```\nYou must use this macro when you use the "
     ++ "archiver in your project, if you want support for unusual archivers such as "
     ++ "Microsoft `lib`."),
   ("AM_SILENT_RULES",
     "```m4\nAM_SILENT_RULES ([DEFAULT])\n```\nControl the machinery for less verbose build "
     ++ "output. DEFAULT is `yes` or `no` and selects the default verbosity."),
   ("AS_CASE",
     "```m4\nAS_CASE (WORD, [PATTERN1], [IF-MATCHED1], ..., [DEFAULT])\n```\nExpand into a "
     ++ "shell `case` statement, where WORD is matched against one or more patterns."),
   ("AS_ECHO",
     "```m4\nAS_ECHO (WORD)\n```\nEmits WORD to the standard output, followed by a newline."),
   ("AS_HELP_STRING",
     "```m4\nAS_HELP_STRING (LEFT-HAND-SIDE, RIGHT-HAND-SIDE, [INDENT-COLUMN = '26'], "
     ++ "[WRAP-COLUMN = '79'])\n```\nExpands into a help string that looks pretty when the "
     ++ "user executes `configure --help`."),
   ("AS_IF",
     "```m4\nAS_IF (TEST1, [RUN-IF-TRUE1], ..., [RUN-IF-FALSE])\n```\nRun shell code TEST1. "
     ++ "If TEST1 exits with a zero status then run shell code RUN-IF-TRUE1, else examine "
     ++ "further tests. If no test exits with a zero status, run shell code RUN-IF-FALSE."),
   ("LT_INIT",
     "```m4\nLT_INIT ([OPTIONS])\n```\nEnable checks for Libtool support. OPTIONS is a "
     ++ "space-separated list of Libtool options such as `disable-shared` or `win32-dll`.")]

end Autotools.Builtin
