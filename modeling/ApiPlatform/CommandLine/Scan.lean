import ApiPlatform.CommandLine.Grammar
/-!
# Reading a command line

Words are taken from left to right.  The value of a setting is looked at when the next setting
begins or the words end, so a word that is not understood at all is reported before it.  What is
not on the command line may come from the environment, and what is missing is reported last.
-/

namespace ApiPlatform.CommandLine

/-- What a word looks like. -/
inductive Word where
  /-- Two dashes: only arguments follow. -/
  | separator
  /-- A long name, perhaps with a value behind an equals sign. -/
  | long (name : String) (value : Option String)
  /-- Short names, the last of them perhaps with a value. -/
  | short (letters : List Char)
  | plain
  deriving DecidableEq, Repr

def Word.ofText (s : String) : Word :=
  match s.toList with
  | ['-', '-'] => .separator
  | '-' :: '-' :: rest =>
    let name := rest.takeWhile (· ≠ '=')
    let value := match rest.drop name.length with
      | _ :: value => some (String.ofList value)
      | [] => none
    .long (String.ofList name) value
  | '-' :: letter :: rest => .short (letter :: rest)
  | _ => .plain

/-- Where a value comes from; the command line is stronger. -/
inductive Origin where
  | environment
  | commandLine
  deriving DecidableEq, Repr

/-- A value of a setting. -/
structure Occurrence where
  setting : String
  value : String
  origin : Origin
  deriving DecidableEq, Repr

/-- The values that settings were given, first to last. -/
abbrev Given := List Occurrence

namespace Given

def has (g : Given) (name : String) : Bool := g.any (·.setting = name)

def values (g : Given) (name : String) : List String :=
  (g.filter (·.setting = name)).map (·.value)

def first? (g : Given) (name : String) : Option Occurrence := g.find? (·.setting = name)

/-- The first value of a setting. -/
def value? (g : Given) (name : String) : Option String := (g.first? name).map (·.value)

def flag (g : Given) (name : String) : Bool := g.value? name = some "true"

/-- Adds a value of a setting. -/
def record (g : Given) (s : Setting) (value : String) (origin : Origin) :
    Except UsageError Given :=
  if s.role ≠ .repeated && g.has s.name then .error .repeatedArgument
  else if s.accepts value then .ok (g ++ [⟨s.name, value, origin⟩])
  else .error .invalidValue

end Given

/-- How far a command line has been read. -/
structure Scan where
  given : Given := []
  /-- The setting that began last, with its value if that is there. -/
  pending : Option (Setting × Option String) := none
  /-- The arguments whose places are not taken yet. -/
  vacant : List Setting := []
  /-- Whether only arguments follow. -/
  argumentsOnly : Bool := false

namespace Scan

/-- Whether the next word is a value. -/
def awaitsValue (s : Scan) : Bool := s.pending.any (·.2.isNone)

/-- Looks at the value of the setting that began last. -/
def settle (s : Scan) : Except UsageError Scan :=
  match s.pending with
  | none => .ok s
  | some (_, none) => .error .invalidValue
  | some (setting, some value) => do
    let given ← s.given.record setting value .commandLine
    .ok { s with given, pending := none }

/-- Begins an option, perhaps with its value. -/
def startOption (s : Scan) (setting : Setting) (attached : Option String) :
    Except UsageError Scan := do
  let s ← s.settle
  match setting.role, attached with
  | .help, _ => .error .helpRequested
  | .version, _ => .error .versionRequested
  | .flag, _ =>
    let given ← s.given.record setting "true" .commandLine
    .ok { s with given }
  | _, some value =>
    let given ← s.given.record setting value .commandLine
    .ok { s with given }
  | _, none => .ok { s with pending := some (setting, none) }

/-- Puts a word in the next place. -/
def place (s : Scan) (word : String) (misfit : UsageError) : Except UsageError Scan :=
  match s.vacant with
  | [] => .error misfit
  | setting :: vacant => do
    let s ← s.settle
    .ok { s with pending := some (setting, some word), vacant }

end Scan

namespace Command

/-- The value that follows short names. -/
def attached? : List Char → Option String
  | [] => none
  | '=' :: value => some (String.ofList value)
  | value => some (String.ofList value)

/-- Takes the short names of one word. -/
def takeLetters (c : Command) (s : Scan) : List Char → Except UsageError Scan
  | [] => .ok s
  | letter :: rest =>
    match c.short? letter with
    | none => .error .unknownArgument
    | some setting =>
      if setting.takesValue then s.startOption setting (attached? rest)
      else do
        let s ← s.startOption setting none
        c.takeLetters s rest

/-- What is wrong with a word for which there is no place. -/
def misfit (commands : List String) (s : Scan) (word : String) : UsageError :=
  if commands.isEmpty || (s.argumentsOnly && commands.contains word) then .unknownArgument
  else .unknownCommand

def take (c : Command) (commands : List String) (s : Scan) (word : String) :
    Except UsageError Scan :=
  if s.argumentsOnly then s.place word (misfit commands s word)
  else
    match Word.ofText word with
    | .separator => .ok { s with argumentsOnly := true }
    | .long name value =>
      match c.long? name with
      | none => .error .unknownArgument
      | some setting =>
        if !setting.takesValue && value.isSome then .error .unexpectedValue
        else s.startOption setting value
    | .short letters => c.takeLetters s letters
    | .plain =>
      match s.pending with
      | some (setting, none) => .ok { s with pending := some (setting, some word) }
      | _ => s.place word (misfit commands s word)

/-- Takes words up to the name of a command; gives that name and the words behind it too. -/
def scan (c : Command) (commands : List String) :
    Scan → List String → Except UsageError (Scan × Option (String × List String))
  | s, [] => .ok (s, none)
  | s, word :: rest =>
    if !s.argumentsOnly && !s.awaitsValue && commands.contains word then
      .ok (s, some (word, rest))
    else do
      let s ← c.take commands s word
      c.scan commands s rest

/-- What was given when the words have ended; the environment stands in for what is missing. -/
def conclude (c : Command) (environment : String → Option String) (s : Scan) :
    Except UsageError Given := do
  let s ← s.settle
  c.options.foldlM
    (fun given setting =>
      match setting.environment.bind environment with
      | some value =>
        if given.has setting.name then .ok given else given.record setting value .environment
      | none => .ok given)
    s.given

/-- Whether nothing is missing from what was given. -/
def isComplete (c : Command) (given : Given) : Bool :=
  c.arguments.all (given.has ·.name) &&
    c.options.all fun s => !given.has s.name || s.needs.all given.has

/-- Reads the words behind the name of a command. -/
def parse (c : Command) (environment : String → Option String) (words : List String) :
    Except UsageError Given := do
  let (s, _) ← c.scan [] { vacant := c.arguments } words
  let given ← c.conclude environment s
  if c.isComplete given then .ok given else .error .missingArgument

end Command

/-- A command line that was understood: what stood before the name of the command, the command,
and what stood behind its name. -/
structure Parsed where
  before : Given
  command : String
  behind : Given

namespace Parsed

/-- The value of a setting that may stand on both sides of the name: the stronger one, and of two
that are as strong the one behind. -/
def shared? (p : Parsed) (name : String) : Option String :=
  match p.before.first? name, p.behind.first? name with
  | some b, some a =>
    some (if b.origin = .commandLine && a.origin = .environment then b.value else a.value)
  | b, a => (a.or b).map (·.value)

end Parsed

namespace Grammar

/-- The answer to the words behind the name of the help command. -/
def helpFor (g : Grammar) : List String → UsageError
  | [] => .helpRequested
  | [name] => if g.names.contains name then .helpRequested else .unknownCommand
  | _ => .unknownCommand

def parse (g : Grammar) (environment : String → Option String) (words : List String) :
    Except UsageError Parsed := do
  let (s, found) ← g.root.scan g.names {} words
  match found with
  | none =>
    let given ← g.root.conclude environment s
    .error (if given.isEmpty then .nothingGiven else .missingCommand)
  | some (name, rest) =>
    match g.command? name with
    | none => .error (g.helpFor rest)
    | some c =>
      let behind ← c.parse environment rest
      let before ← g.root.conclude environment s
      .ok ⟨before, name, behind⟩

end Grammar

end ApiPlatform.CommandLine
