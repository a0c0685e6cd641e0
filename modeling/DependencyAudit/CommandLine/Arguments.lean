import DependencyAudit.CommandLine.Switch
import DependencyAudit.Text.Quoted
import DependencyAudit.Text.Similarity

/-!
Reading arguments. Arguments that start with a dash are switches, unless they are a dash alone;
two dashes end the switches. A value stands behind an equals sign, or in the next argument; the
value of a short switch may also follow its character. Short switches without values can share
one dash.

Misuses of the command line are kept as causes. Each has a message, which follows the usage of the
command unless it is about the value of a switch alone.

All of this is left to the library that reads the command line, but for a configuration that is
missing (`Misuse.configMissing`). The order in which misuses are noticed, and their wording, are
assumed here as they are in one release.
-/

namespace DependencyAudit.CommandLine

inductive Misuse where
  | noSuchSwitch (written : String) (close : List String)
  | valueMissing (name : String)
  | valueUnwanted (name : String)
  | noSuchCommand (written : String) (close : List String)
  | commandMissing
  | argumentMissing (name : String)
  | argumentsLeft (arguments : List String)
  | nothingThere (name written : String)
  | unreadable (name written : String)
  | configMissing
  deriving DecidableEq

namespace Misuse

/-- What may have been meant. -/
def proposal : List String → String
  | [] => ""
  | [one] => " Did you mean " ++ Text.quoted one ++ "?"
  | several =>
    " (Did you mean one of: "
      ++ ", ".intercalate ((Ascending.strings several).map Text.quoted) ++ "?)"

def message : Misuse → String
  | noSuchSwitch written close => "No such option " ++ Text.quoted written ++ "." ++ proposal close
  | valueMissing name => "Option " ++ Text.quoted name ++ " requires an argument."
  | valueUnwanted name => "Option " ++ Text.quoted name ++ " does not take a value."
  | noSuchCommand written close =>
    "No such command " ++ Text.quoted written ++ "." ++ proposal close
  | commandMissing => "Missing command."
  | argumentMissing name => "Missing argument '" ++ name ++ "'."
  | argumentsLeft arguments =>
    "Got unexpected extra argument" ++ (if arguments.length = 1 then "" else "s") ++ " ("
      ++ " ".intercalate arguments ++ ")"
  | nothingThere name written =>
    "Invalid value for '" ++ name ++ "': Path " ++ Text.quoted written ++ " does not exist."
  | unreadable name written =>
    "Invalid value for '" ++ name ++ "': Path " ++ Text.quoted written ++ " is not readable."
  | configMissing => "no " ++ Config.standardName ++ " found; pass --config or --resolution"

/-- Whether the usage of the command stands before the message. -/
def showsUsage : Misuse → Bool
  | valueMissing _ => false
  | valueUnwanted _ => false
  | _ => true

end Misuse

/-! ## Reading -/

/-- The switches given, with their values, and the other arguments, each in their order. -/
structure Arguments where
  given : List (Switch × String) := []
  others : List String := []

/-- What one argument gives, and the switch, by its name, that waits for a value. -/
structure Reading where
  given : List (Switch × String) := []
  waiting : Option (Switch × String) := none

namespace Arguments

def has (a : Arguments) (s : Switch) : Bool := a.given.any (·.1 = s)

def values (a : Arguments) (s : Switch) : List String :=
  (a.given.filter (·.1 = s)).map (·.2)

/-- The last value of a switch. -/
def value? (a : Arguments) (s : Switch) : Option String := (a.values s).getLast?

/-- The arguments with switches before them. -/
def after (given : List (Switch × String)) (a : Arguments) : Arguments :=
  { a with given := given ++ a.given }

def isSwitch (argument : String) : Bool :=
  match argument.toList with
  | '-' :: _ :: _ => true
  | _ => false

/-- The name and the value of a switch with an equals sign. -/
def splitValue (argument : String) : String × Option String :=
  match argument.toList.span (· ≠ '=') with
  | (_, []) => (argument, none)
  | (name, _ :: value) => (String.ofList name, some (String.ofList value))

/-- Reads a switch found by its whole name. -/
def readNamed (s : Switch) (name : String) (value : Option String) : Except Misuse Reading :=
  if s.takesValue then
    match value with
    | some v => .ok { given := [(s, v)] }
    | none => .ok { waiting := some (s, name) }
  else
    match value with
    | some _ => .error (.valueUnwanted name)
    | none => .ok { given := [(s, "")] }

/-- Reads the characters behind a single dash. -/
def readShort (switches : List Switch) : List Char → Except Misuse Reading
  | [] => .ok {}
  | c :: rest =>
    let name := String.ofList ['-', c]
    match Switch.ofName? switches name with
    | none => .error (.noSuchSwitch name [])
    | some s =>
      if s.takesValue then
        if rest.isEmpty then .ok { waiting := some (s, name) }
        else .ok { given := [(s, String.ofList rest)] }
      else (readShort switches rest).map fun r => { r with given := (s, "") :: r.given }

/-- Reads an argument that is a switch. -/
def readSwitch (switches : List Switch) (argument : String) : Except Misuse Reading :=
  let (name, value) := splitValue argument
  match (Switch.ofName? switches name).filter fun _ => Switch.isLong name with
  | some s => readNamed s name value
  | none =>
    if Switch.isLong argument then
      .error (.noSuchSwitch name (Text.closest name (Switch.longNames switches)))
    else readShort switches argument.toList.tail

/-- Reads arguments. With `mixed`, switches may follow other arguments; without it the first
other argument ends the switches. -/
def read (switches : List Switch) (mixed : Bool) : List String → Except Misuse Arguments
  | [] => .ok {}
  | argument :: rest =>
    if argument = "--" then .ok { others := rest }
    else if isSwitch argument then
      match readSwitch switches argument with
      | .error m => .error m
      | .ok ⟨given, none⟩ => (read switches mixed rest).map (after given)
      | .ok ⟨given, some (s, name)⟩ =>
        match rest with
        | [] => .error (.valueMissing name)
        | value :: rest => (read switches mixed rest).map (after (given ++ [(s, value)]))
    else if mixed then
      (read switches mixed rest).map fun a => { a with others := argument :: a.others }
    else .ok { others := argument :: rest }

end Arguments

end DependencyAudit.CommandLine
