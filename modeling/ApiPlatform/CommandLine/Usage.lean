import ApiPlatform.CommandLine.Grammar
/-!
# Usage

The text that says what a command line may hold.
-/

namespace ApiPlatform.CommandLine

/-- How an option is named. -/
def Setting.label (s : Setting) : String :=
  let names :=
    (s.short.map fun c => s!"-{c}").toList ++ (s.long.map fun name => s!"--{name}").toList
  ", ".intercalate (if names.isEmpty then [s!"<{s.name}>"] else names)

def block (lines : List String) : String :=
  String.join (lines.map fun line => "  " ++ line ++ "\n")

/-- The line about a setting. -/
def Setting.usage (s : Setting) : String := s!"{s.label}  {s.summary}"

def Command.usage (c : Command) : String :=
  s!"{c.name}  {c.summary}\n" ++ block ((c.arguments ++ c.options).map Setting.usage)

def Grammar.usage (g : Grammar) : String :=
  String.join ((g.root :: g.commands).map Command.usage)

end ApiPlatform.CommandLine
