import DependencyAudit.Config

/-!
What can be written on the command line: the commands, and the switches that each of them
takes. A switch has one or two names; a short name is a dash and one character, a long name
starts with two dashes. What the command line says about its own use follows from that: the usage
line of a command, and its help.

The commands, the switches and their purposes are the program's own. How usage and help are laid out
is left to the library that reads the command line, and is assumed here as it is in one release.
-/

namespace DependencyAudit.CommandLine

inductive Switch where
  | verbose
  | help
  | target
  | config
  | resolution
  | project
  | bucket
  | output
  | buildFile
  | ignore
  | suggestInto
  deriving DecidableEq

namespace Switch

/-- The names of a switch, a short one first. -/
def names : Switch → List String
  | verbose => ["-v", "--verbose"]
  | help => ["--help"]
  | target => ["-o", "--output"]
  | config => ["-c", "--config"]
  | resolution => ["--resolution"]
  | project => ["--project"]
  | bucket => ["--bucket"]
  | output => ["--output"]
  | buildFile => ["--build-file"]
  | ignore => ["--ignore"]
  | suggestInto => ["--suggest-into"]

def takesValue : Switch → Bool
  | verbose => false
  | help => false
  | _ => true

def purpose : Switch → String
  | verbose => "Verbose logging"
  | help => "Show this message and exit."
  | target => "Output file path"
  | config => "Config file (TOML)"
  | resolution => "Resolution report (JSON)"
  | project => "Path of the project being checked, e.g. ':app'"
  | bucket => "Dependency bucket counted as declared"
  | output => "Compiled-output reference listing (file or directory)"
  | buildFile => "Build file named in the report"
  | ignore => "Module to ignore (group:name)"
  | suggestInto => "Bucket used in suggested declarations"

def isLong (name : String) : Bool := (Text.after? ['-', '-'] name.toList).isSome

def ofName? (switches : List Switch) (name : String) : Option Switch :=
  switches.find? fun s => s.names.contains name

def longNames (switches : List Switch) : List String := (switches.flatMap names).filter isLong

end Switch

inductive Command where
  | createConfig
  | check
  | providers
  | references
  deriving DecidableEq

namespace Command

def all : List Command := [check, createConfig, providers, references]

def name : Command → String
  | createConfig => "create-config"
  | check => "check"
  | providers => "providers"
  | references => "references"

def ofName? (written : String) : Option Command := all.find? (·.name = written)

def purpose : Command → String
  | createConfig => "Generate a configuration template."
  | check => "Fail if compiled code uses classes from undeclared dependencies."
  | providers => "Show which resolved artifacts provide CLASS_NAME."
  | references => "List the classes referenced by the compiled output."

/-- The switches that say which configuration is meant. -/
def configSwitches : List Switch := [.config, .resolution, .project, .bucket, .output]

def switches : Command → List Switch
  | createConfig => [.target, .help]
  | check => configSwitches ++ [.buildFile, .ignore, .suggestInto, .help]
  | providers => configSwitches ++ [.help]
  | references => configSwitches ++ [.help]

/-- The name of the argument that a command needs. -/
def argument? : Command → Option String
  | providers => some "CLASS_NAME"
  | _ => none

end Command

/-- The switches that stand before a command. -/
def leadingSwitches : List Switch := [.verbose, .help]

/-! ## Usage -/

/-- The name under which the program speaks of itself. -/
def programName : String := "main"

/-- How a command is called; without a command, the program. -/
def callOf : Option Command → String
  | none => programName
  | some c => programName ++ " " ++ c.name

/-- What can follow the call. -/
def synopsis : Option Command → String
  | none => "[OPTIONS] COMMAND [ARGS]..."
  | some c => "[OPTIONS]" ++ ((c.argument?.map (" " ++ ·)).getD "")

def usageLine (c : Option Command) : String := "Usage: " ++ callOf c ++ " " ++ synopsis c ++ "\n"

/-- The usage line, and where to find more. -/
def usage (c : Option Command) : String :=
  usageLine c ++ "Try '" ++ callOf c ++ " --help' for help.\n"

/-- A table of two columns, indented. -/
def table (rows : List (String × String)) : String :=
  let width := ((rows.map (·.1.length)).max?).getD 0
  String.join (rows.map fun r =>
    "  " ++ r.1 ++ String.ofList (List.replicate (width - r.1.length + 2) ' ') ++ r.2 ++ "\n")

/-- The rows of a table of switches. -/
def switchRows (switches : List Switch) : List (String × String) :=
  switches.map fun s =>
    (", ".intercalate s.names ++ (if s.takesValue then " TEXT" else ""), s.purpose)

/-- The help of a command, or of the program. -/
def help : Option Command → String
  | none =>
    usageLine none
      ++ "\n  implicit-deps: require every used dependency to be declared explicitly.\n"
      ++ "\nOptions:\n" ++ table (switchRows leadingSwitches)
      ++ "\nCommands:\n" ++ table (Command.all.map fun c => (c.name, c.purpose))
  | some c =>
    usageLine (some c) ++ "\n  " ++ c.purpose ++ "\n\nOptions:\n" ++ table (switchRows c.switches)

end DependencyAudit.CommandLine
