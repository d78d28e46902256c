import ScriptTree.File.Path

/-! # Commands — what the program is asked to do -/

namespace ScriptTree

/-- A command with the files it works on. -/
inductive Command where
  /-- Parse a file; show how large it is, or its whole tree. -/
  | parse (file : FilePath) (json : Bool)
  /-- List the tokens of a file. -/
  | tokens (file : FilePath)
  /-- List the modules a file loads and the environments it is made for. -/
  | dependencies (file : FilePath)
  /-- Look for errors and findings in files. -/
  | lint (files : List FilePath) (compact : Bool)
deriving DecidableEq, Repr, Inhabited

/-- A command line that was understood. -/
structure Invocation where
  command : Command
  /-- How many trees are kept. -/
  capacity : Nat
deriving DecidableEq, Repr, Inhabited

/-- Why a command line leads to no command. -/
inductive UsageError where
  | helpRequested
  | versionRequested
  /-- Nothing was given at all, so help is due. -/
  | nothingGiven
  | missingSubcommand
  | unknownSubcommand
  | unknownArgument
  /-- A value is missing or empty. -/
  | emptyValue
  /-- A value is not of the right form. -/
  | malformedValue
  /-- A flag that takes no value has one. -/
  | unexpectedValue
  | missingFile
  /-- What can be given once is given twice. -/
  | repeated
deriving DecidableEq, Repr, Inhabited

/-- What kind of error it is. -/
def UsageError.name : UsageError → String
  | .helpRequested => "DisplayHelp"
  | .versionRequested => "DisplayVersion"
  | .nothingGiven => "DisplayHelpOnMissingArgumentOrSubcommand"
  | .missingSubcommand => "MissingSubcommand"
  | .unknownSubcommand => "InvalidSubcommand"
  | .unknownArgument => "UnknownArgument"
  | .emptyValue => "InvalidValue"
  | .malformedValue => "ValueValidation"
  | .unexpectedValue => "TooManyValues"
  | .missingFile => "MissingRequiredArgument"
  | .repeated => "ArgumentConflict"

end ScriptTree
