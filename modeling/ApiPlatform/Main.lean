import ApiPlatform.CommandLine.Invocation
import ApiPlatform.CommandLine.Usage
import ApiPlatform.Gateway.Definition
/-!
# The program

Reads the command line and the environment, and shows or writes what is asked for.
-/

namespace ApiPlatform.CommandLine

def programVersion : String := "0.1.0"

/-- The variables of the environment that options may come from. -/
def readEnvironment : IO (String → Option String) := do
  let settings := (grammar.root :: grammar.commands).flatMap (·.options)
  let values ← (settings.filterMap (·.environment)).mapM fun name => do
    return (name, ← IO.getEnv name)
  return fun name => (values.lookup name).join

/-- Shows an error and what lies beneath it. -/
def report {ε : Type} [Failure ε] (e : ε) : IO UInt32 := do
  for line in Failure.trace e do
    IO.eprintln line
  return 1

def writeTemplate (request : TemplateRequest) : IO UInt32 := do
  let bytes ← IO.getRandomBytes (4096 * 8)
  let (refusal, target) ← match request.output with
    | none => do pure (none, some (← IO.getStdout))
    | some path =>
      try
        let handle ← IO.FS.Handle.mk path .write
        pure (none, some (IO.FS.Stream.ofHandle handle))
      catch e => pure (some (toString e), none)
  match request.emit refusal (Draws.ofBytes bytes), target with
  | .error e, _ => report e
  | .ok text, some stream => do
    stream.putStr text
    stream.flush
    return 0
  | .ok _, none => return 1

end ApiPlatform.CommandLine

open ApiPlatform ApiPlatform.CommandLine

/-- Does what a command line asks for. -/
def main (words : List String) : IO UInt32 := do
  match Invocation.parse (← readEnvironment) words with
  | .error .helpRequested => do
    IO.print grammar.usage
    return 0
  | .error .versionRequested => do
    IO.println (applicationName ++ " " ++ programVersion)
    return 0
  | .error e => do
    IO.eprintln (Failure.message e)
    IO.eprint grammar.usage
    return 2
  | .ok { task := .showDefinition, .. } => do
    IO.print (Yaml.document true Gateway.definition)
    return 0
  | .ok { task := .template request, .. } => writeTemplate request
  | .ok { task := .run _, .. } => do
    IO.eprintln "there is no connection to a cluster"
    return 1
