import TypeExpr.CommandLine.Flag
import TypeExpr.Text.Quoted

/-!
# `TypeExpr.CommandLine.Usage`: what the command line says about itself

The texts that explain how the command is called, and the errors of a call that is not understood.
-/

namespace TypeExpr.CommandLine

/-- Lines with their line ends. -/
def unlines (ls : List String) : Text := ls.flatMap fun l => l.toList ++ ['\n']

/-- How the command is called. -/
def usage : Text := unlines
  ["usage: hintalgebra [-h] [-d] [-c] [-t] [-m MAX_ISSUES]",
   "                   expressions [expressions ...]"]

/-- How the command is called, and what each argument means. -/
def helpText : Text := usage ++ unlines
  ["",
   "Canonicalize union and intersection type expressions.",
   "",
   "positional arguments:",
   "  expressions           try \"Foo&Bar|null\" for example.",
   "",
   "options:",
   "  -h, --help            show this help message and exit",
   "  -d, --doc             Print the documentation form (bare class names)",
   "                        instead of the declaration form.",
   "  -c, --check           Check the expressions but print nothing on success.",
   "                        Repeat for more chatter.",
   "  -t, --tree            Also print the structure of each expression.",
   "  -m MAX_ISSUES, --max-issues MAX_ISSUES",
   "                        Give up after this many bad expressions."]

/-- What the command says when it is called without arguments. -/
def introduction : Text :=
  unlines
    ["This puts type expressions into canonical form, or else explains why it cannot.",
     ""] ++
  usage ++
  unlines
    ["",
     "",
     "For example:",
     "",
     "    hintalgebra \"string|Foo&Bar|int\"",
     "",
     "will print \"int|string|(\\Bar&\\Foo)\", because nested intersections",
     "sort after the plain types, and always get parentheses.",
     "",
     "    hintalgebra -h",
     "",
     "will explain all the arguments."]

/-- Why a call is not understood. -/
inductive UsageError where
  /-- A long option is cut so short that it might be any of several. -/
  | ambiguous (argument : Text) (matching : List Flag)
  /-- An option stands without its value. -/
  | missingValue (flag : Flag)
  /-- An option that has no value is given one. -/
  | ignoredValue (flag : Flag) (value : Text)
  /-- The value of an option is no whole number. -/
  | invalidNumber (flag : Flag) (value : Text)
  /-- There is nothing to work on. -/
  | missingExpressions
  /-- There are arguments that fit nowhere. -/
  | unrecognized (arguments : List Text)
deriving DecidableEq, Repr

namespace UsageError

/-- The error in words. -/
def message : UsageError → Text
  | ambiguous argument matching =>
    "ambiguous option: ".toList ++ argument ++ " could match ".toList ++
      ", ".toList.intercalate (matching.map Flag.long)
  | missingValue flag =>
    "argument ".toList ++ flag.display ++ ": expected one argument".toList
  | ignoredValue flag value =>
    "argument ".toList ++ flag.display ++ ": ignored explicit argument ".toList ++ Text.quoted value
  | invalidNumber flag value =>
    "argument ".toList ++ flag.display ++ ": invalid int value: ".toList ++ Text.quoted value
  | missingExpressions => "the following arguments are required: expressions".toList
  | unrecognized arguments =>
    "unrecognized arguments: ".toList ++ [' '].intercalate arguments

/-- What is printed about the error: how the command is called, and what went wrong. -/
def report (e : UsageError) : Text :=
  usage ++ "hintalgebra: error: ".toList ++ e.message ++ ['\n']

end UsageError
end TypeExpr.CommandLine
