/-!
# Switches

What can stand on the command line.

- `CommandLine.Setting`: a switch that takes a value.
- `CommandLine.Inquiry`: a switch that asks for information in place of the program's work.
- `CommandLine.Switch`: either of them.
- `CommandLine.usage`: the line that shows how the program is called.
- `CommandLine.help`: the text that explains all switches.
-/

namespace ClusterWatch.CommandLine

/-- The name of the program. -/
def program : String := "k8swatch"

/-- The version of the program. -/
def version : String := "0.1.0"

/-- A switch that takes a value. -/
inductive Setting where
  | config
  | workers
  | httpPort
  deriving DecidableEq, Repr

namespace Setting

/-- The name of a setting. -/
def name : Setting → String
  | config => "config"
  | workers => "threadiness"
  | httpPort => "http-port"

/-- What stands for the value of a setting in messages. -/
def placeholder : Setting → String
  | config => "CONFIG"
  | workers => "THREADINESS"
  | httpPort => "HTTP_PORT"

/-- What a setting is good for. -/
def description : Setting → String
  | config => "Path to the YAML configuration file"
  | workers => "Workers per resource controller (overrides settings.threadiness)"
  | httpPort => "Query API port (overrides settings.httpPort)"

end Setting

/-- A switch that asks for information. -/
inductive Inquiry where
  | help
  | version
  deriving DecidableEq, Repr

namespace Inquiry

/-- The name of an inquiry. -/
def name : Inquiry → String
  | help => "help"
  | version => "version"

/-- What an inquiry is good for. -/
def description : Inquiry → String
  | help => "Print help"
  | version => "Print version"

end Inquiry

/-- A switch of either sort. -/
inductive Switch where
  | setting (s : Setting)
  | inquiry (i : Inquiry)
  deriving DecidableEq, Repr

namespace Switch

/-- All switches. -/
def all : List Switch :=
  [setting .config, setting .workers, setting .httpPort, inquiry .help, inquiry .version]

/-- The name of a switch. -/
def name : Switch → String
  | setting s => s.name
  | inquiry i => i.name

/-- The letter that stands for a switch, if there is one. -/
def letter? : Switch → Option Char
  | setting .config => some 'c'
  | inquiry .help => some 'h'
  | inquiry .version => some 'V'
  | _ => none

/-- What a switch is good for. -/
def description : Switch → String
  | setting s => s.description
  | inquiry i => i.description

/-- How messages show a switch. -/
def text : Switch → String
  | setting s => "--" ++ s.name ++ " <" ++ s.placeholder ++ ">"
  | inquiry i => "--" ++ i.name

/-- The switch of a name. -/
def named? (name : String) : Option Switch :=
  all.find? (·.name == name)

/-- The switch of a letter. -/
def lettered? (letter : Char) : Option Switch :=
  all.find? (·.letter? == some letter)

end Switch

/-- How the program is called with the given switches, or in general if there are none. -/
def usage (switches : List Switch) : String :=
  let arguments := if switches.isEmpty then ["[OPTIONS]"] else switches.map Switch.text
  "Usage: " ++ " ".intercalate (program :: arguments)

/-! ### Help -/

/-- A text with blanks after it up to a width. -/
def padRight (width : Nat) (text : String) : String :=
  text ++ String.ofList (List.replicate (width - text.length) ' ')

/-- A switch with its letter, if it has one. -/
def helpEntry (s : Switch) : String :=
  match s.letter? with
  | some letter => "-" ++ String.ofList [letter] ++ ", " ++ s.text
  | none => "    " ++ s.text

/-- What the help says about a switch. The value that the environment gives to the path of the
configuration is shown. -/
def helpText (pathVariable path : String) (s : Switch) : String :=
  if s = .setting .config then s.description ++ " [env: " ++ pathVariable ++ "=" ++ path ++ "]"
  else s.description

/-- The text that explains all switches. `path` is what the environment variable `pathVariable`
holds, which gives the path of the configuration. -/
def help (pathVariable path : String) : String :=
  let width := (Switch.all.map fun s => (helpEntry s).length).foldl max 0
  let line (s : Switch) :=
    "  " ++ padRight (width + 2) (helpEntry s) ++ helpText pathVariable path s ++ "\n"
  "Watches Kubernetes resources, normalizes change events and fans them out to alerting, " ++
    "storage and messaging sinks\n\n" ++ usage [] ++ "\n\nOptions:\n" ++
    String.join (Switch.all.map line)

end ClusterWatch.CommandLine
