import ApiPlatform.Failure
/-!
# YAML files

What is said when a document cannot be written to a file.
-/

namespace ApiPlatform.Yaml

/-- Why a document is not written to a file. -/
inductive FileError where
  | writeToFile (reason : String)
  deriving DecidableEq

instance : Failure FileError where
  label
    | .writeToFile _ => "WriteToFile"
  message
    | .writeToFile _ => "failed to write YAML to file"
  causes
    | .writeToFile reason => [reason]

/-- A text that is written to a file, once it is known whether the file cannot be written, and
why. -/
def written (refusal : Option String) (text : String) : Except FileError String :=
  match refusal with
  | some reason => .error (.writeToFile reason)
  | none => .ok text

end ApiPlatform.Yaml
