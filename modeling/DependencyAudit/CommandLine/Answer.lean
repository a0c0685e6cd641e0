import DependencyAudit.CommandLine.Configuration
import DependencyAudit.CommandLine.Ending
import DependencyAudit.Config

/-!
The answers of the commands. A command only inspects files; the one file that a command may
write is part of its answer, and is written by whoever runs the command.

Failures that are reported become endings. The others stay failures and stop the program.
-/

namespace DependencyAudit.CommandLine

/-- A file to write, and how the command ends once it is written. -/
structure Answer where
  file : Option (Path × String) := none
  ending : Ending

/-- An inspection in which failures that are reported become endings. -/
def reporting (x : Inspection Ending) : Inspection Ending :=
  x.recover fun f => if f.isReported then .done (.failure f) else .fail f

/-- Carries out something that needs a configuration. -/
def withConfig (command : Command) (a : Arguments) (work : Config → Inspection Ending) :
    Inspection Ending :=
  reporting do
    match ← configure? a with
    | none => return .misuse (some command) .configMissing
    | some c => work c

def check (a : Arguments) : Inspection Ending :=
  withConfig .check a fun c => do
    let c ← Inspection.ofExcept (ignoring c (a.values .ignore))
    match ← Audit.run c with
    | .violated violation => return .violation violation
    | .passed _ => return .lines []

def providerLine (declared : List Artifact) (a : Artifact) : String :=
  let standing := if declared.contains a then "declared" else "transitive"
  "  " ++ a.displayName ++ "  (" ++ standing ++ ")"

/-- The lines on the artifacts that provide a class. -/
def providerLines (m : Material) (name : String) : List String :=
  match m.index.providers name with
  | [] => ["No resolved artifact provides " ++ name]
  | found => found.map (providerLine m.declared)

/-- Lists the artifacts that provide a class. -/
def providers (a : Arguments) (name : String) : Inspection Ending :=
  withConfig .providers a fun c => do
    let m ← Material.load c
    return .lines (providerLines m name)

/-- Lists the classes that the compiled output refers to. -/
def references (a : Arguments) : Inspection Ending :=
  withConfig .references a fun c => do
    let found ← Reference.classes c.outputs
    return .lines found

/-- Asks for a configuration to start from. -/
def createConfig (a : Arguments) : Answer :=
  let target := (a.value? .target).getD Config.standardName
  { file := some (Path.parse target, Config.template)
    ending := .lines
      ["Config template written to " ++ target,
        "Edit the file, then run: implicit-deps check -c " ++ target] }

/-- Whether something is there under a name as it is written. A name that ends like that of a
directory needs a directory, and a name that is too long as it is written is that of nothing. -/
def doesExist (written : String) : Inspection Bool :=
  let p := Path.parse written
  if written = "" then .done false
  else
    .kind p fun
      | .ok k =>
        .done (written.utf8ByteSize ≤ Disk.maxPathSize
          && (k = .directory || !Path.namesDirectory written))
      | .error .nullCharacter => .fail (.path .nullCharacter p)
      | .error _ => .done false

def isReadable (p : Path) : Inspection Bool :=
  .read p fun
    | .error .denied => .done false
    | _ => .done true

/-- The first misuse of naming an output that is not there or may not be read. -/
def outputMisuse? : List String → Inspection (Option Misuse)
  | [] => return none
  | written :: rest => do
    if ← doesExist written then
      if ← isReadable (Path.parse written) then outputMisuse? rest
      else return some (.unreadable "--output" written)
    else return some (.nothingThere "--output" written)

namespace Command

/-- The misuse of giving a command too few or too many arguments beside its switches. -/
def argumentMisuse? (c : Command) (others : List String) : Option Misuse :=
  match c.argument?, others with
  | none, [] => none
  | none, extra => some (.argumentsLeft extra)
  | some name, [] => some (.argumentMissing name)
  | some _, [_] => none
  | some _, _ :: extra => some (.argumentsLeft extra)

/-- Carries out a command whose arguments are in order. -/
def perform (c : Command) (a : Arguments) : Inspection Answer :=
  match c with
  | createConfig => return CommandLine.createConfig a
  | check => do
    let ending ← CommandLine.check a
    return { ending }
  | providers => do
    let ending ← CommandLine.providers a (a.others.headD "")
    return { ending }
  | references => do
    let ending ← CommandLine.references a
    return { ending }

/-- Carries out a command with the arguments behind its name. -/
def run (c : Command) (arguments : List String) : Inspection Answer :=
  match Arguments.read c.switches true arguments with
  | .error m => return { ending := .misuse (some c) m }
  | .ok a =>
    if a.has .help then return { ending := .help (some c) }
    else do
      match ← outputMisuse? (a.values .output) with
      | some m => return { ending := .misuse (some c) m }
      | none =>
        match c.argumentMisuse? a.others with
        | some m => return { ending := .misuse (some c) m }
        | none => c.perform a

end Command

end DependencyAudit.CommandLine
