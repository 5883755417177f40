import ItemAppraisal.Decimal.Reading

/-!
# The grammar of command lines

Which options a command has, what their values look like, and what can be wrong with a command line.
-/

namespace ItemAppraisal.CommandLine

/-- Why the words of a command line are not a request. -/
inductive UsageError where
  /-- An option that the command does not have, or a word too many. -/
  | unknownArgument
  | unknownCommand
  /-- A value that is missing or is none of those that are allowed. -/
  | invalidValue
  /-- A value that is no number. -/
  | notANumber
  | missingArgument
  /-- Two options that exclude each other, or one that is given twice. -/
  | conflict
  /-- A value for an option that takes none. -/
  | surplusValue
  /-- A request for help. -/
  | help
  /-- A request for the version. -/
  | version
  deriving DecidableEq, Repr

/-- What the value of an option may be. -/
inductive ValueRule where
  | text
  /-- A text that is not empty. -/
  | path
  | number
  /-- One of a list of words. -/
  | choice (words : List String)
  deriving DecidableEq, Repr

/-- What an option does. -/
inductive OptionRole where
  | value (rule : ValueRule)
  /-- Is given or is not. -/
  | flag
  /-- May be given any number of times. -/
  | counter
  | help
  | version
  deriving DecidableEq, Repr

/-- An option with its names. -/
structure OptionRule where
  /-- The name after two dashes. -/
  name : String
  /-- The letter after one dash. -/
  letter : Option Char := none
  role : OptionRole
  deriving DecidableEq, Repr

/-- The options of a command and the number of words it takes besides. -/
structure Grammar where
  options : List OptionRule
  positions : Nat := 0
  deriving DecidableEq, Repr

/-- What is wrong with a value. -/
def ValueRule.problem? (rule : ValueRule) (value : String) : Option UsageError :=
  match rule with
  | text => none
  | path => if value.isEmpty then some .invalidValue else none
  | number => if (Decimal.double? value.toList).isSome then none else some .notANumber
  | choice words => if words.contains value then none else some .invalidValue

namespace Grammar

/-- The option with a name. -/
def named? (g : Grammar) (name : String) : Option OptionRule :=
  g.options.find? (·.name == name)

/-- The option with a letter. -/
def lettered? (g : Grammar) (letter : Char) : Option OptionRule :=
  g.options.find? (·.letter == some letter)

end Grammar

end ItemAppraisal.CommandLine
