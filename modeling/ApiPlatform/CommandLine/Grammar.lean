import ApiPlatform.Failure
/-!
# Command lines

What may stand on a command line: options with a long or a short name, arguments that are known by
their place, and the commands that they belong to.
-/

namespace ApiPlatform.CommandLine

/-- What an option does. -/
inductive SettingRole where
  /-- Takes one value and may stand once. -/
  | single
  /-- Takes one value each time that it stands. -/
  | repeated
  /-- Takes no value and may stand once. -/
  | flag
  /-- Asks for the usage. -/
  | help
  /-- Asks for the version. -/
  | version
  deriving DecidableEq, Repr

/-- An option, or an argument that is known by its place. -/
structure Setting where
  name : String
  /-- One line about it. -/
  summary : String := ""
  /-- The name behind two dashes. -/
  long : Option String := none
  /-- The name behind one dash. -/
  short : Option Char := none
  role : SettingRole := .single
  /-- The variable of the environment that stands in for it. -/
  environment : Option String := none
  /-- Whether a value is allowed. -/
  accepts : String → Bool := fun _ => true
  /-- The settings that have to be given with it. -/
  needs : List String := []

/-- Whether an option takes values. -/
def Setting.takesValue (s : Setting) : Bool := s.role = .single || s.role = .repeated

structure Command where
  name : String
  /-- One line about it. -/
  summary : String := ""
  options : List Setting := []
  /-- The arguments that are known by their place; each has to be given. -/
  arguments : List Setting := []

namespace Command

def long? (c : Command) (name : String) : Option Setting :=
  c.options.find? (·.long = some name)

/-- The option of a short name. -/
def short? (c : Command) (letter : Char) : Option Setting :=
  c.options.find? (·.short = some letter)

end Command

/-- What stands before the name of a command, and the commands. -/
structure Grammar where
  root : Command
  commands : List Command

/-- The command that shows the usage of the others. -/
def helpCommand : String := "help"

namespace Grammar

def names (g : Grammar) : List String := g.commands.map (·.name) ++ [helpCommand]

def command? (g : Grammar) (name : String) : Option Command := g.commands.find? (·.name = name)

end Grammar

/-- Why a command line is not carried out. -/
inductive UsageError where
  | helpRequested
  | versionRequested
  | nothingGiven
  | missingCommand
  | unknownCommand
  | unknownArgument
  | missingArgument
  /-- A setting that may stand once stands again. -/
  | repeatedArgument
  | invalidValue
  /-- An option that takes no value has one. -/
  | unexpectedValue
  deriving DecidableEq, Repr

instance : Failure UsageError where
  label
    | .helpRequested => "DisplayHelp"
    | .versionRequested => "DisplayVersion"
    | .nothingGiven => "DisplayHelpOnMissingArgumentOrSubcommand"
    | .missingCommand => "MissingSubcommand"
    | .unknownCommand => "InvalidSubcommand"
    | .unknownArgument => "UnknownArgument"
    | .missingArgument => "MissingRequiredArgument"
    | .repeatedArgument => "ArgumentConflict"
    | .invalidValue => "InvalidValue"
    | .unexpectedValue => "TooManyValues"
  message
    | .helpRequested => "the usage was asked for"
    | .versionRequested => "the version was asked for"
    | .nothingGiven => "there is nothing to do"
    | .missingCommand => "a command is missing"
    | .unknownCommand => "there is no such command"
    | .unknownArgument => "there is no such argument"
    | .missingArgument => "an argument is missing"
    | .repeatedArgument => "an argument stands more than once"
    | .invalidValue => "a value is missing or not allowed"
    | .unexpectedValue => "a value stands where none is expected"

end ApiPlatform.CommandLine
