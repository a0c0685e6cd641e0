import DependencyAudit.CommandLine.Answer

/-!
Sessions: what the program does for a command line. The command is found first, then the log is
set, then the arguments of the command are read and the command is carried out.
-/

namespace DependencyAudit.CommandLine

/-- What a command line comes to before any file is looked at. -/
inductive Session where
  | ended (ending : Ending)
  | stopped (failure : Failure)
  | running (settings : LogSettings) (work : Inspection Answer)

namespace Session

/-- The ending for a word that stands in the place of a command and names none. A word that is a
switch is reported as one. -/
def ofUnknown (written : String) (rest : List String) : Ending :=
  match Arguments.read leadingSwitches false (written :: rest) with
  | .error m => .misuse none m
  | .ok a =>
    if a.has .help then .help none
    else
      .misuse none
        (.noSuchCommand written (Text.closest written (Command.all.map Command.name)))

/-- The session for a command, with the log as the switches before it and the environment say. -/
def ofCommand (environment : List (String × String)) (leading : Arguments) (c : Command)
    (arguments : List String) : Session :=
  match LogSettings.ofEnvironment? environment
      (if leading.has .verbose then "DEBUG" else LogSettings.standardLevel) with
  | none => .stopped .unknownLogLevel
  | some settings => .running settings (c.run arguments)

def start (environment : List (String × String)) (arguments : List String) : Session :=
  if arguments = [] then .ended .nothingAsked
  else
    match Arguments.read leadingSwitches false arguments with
    | .error m => .ended (.misuse none m)
    | .ok leading =>
      if leading.has .help then .ended (.help none)
      else
        match leading.others with
        | [] => .ended (.misuse none .commandMissing)
        | written :: rest =>
          match Command.ofName? written with
          | none => .ended (ofUnknown written rest)
          | some c => ofCommand environment leading c rest

end Session

/-- What a session leaves: the events that show, the ending or the failure that stops the
program, and the disk. -/
structure Aftermath where
  events : List Event := []
  outcome : Except Failure Ending
  disk : Disk

/-- The exit code of a program that a failure stops. -/
def stoppedCode : Nat := 1

def Aftermath.exitCode (a : Aftermath) : Nat :=
  match a.outcome with
  | .ok ending => ending.exitCode
  | .error _ => stoppedCode

/-- Gives an answer: writes its file, if it has one. -/
def Answer.give (a : Answer) (disk : Disk) : Except Failure Ending × Disk :=
  match a.file with
  | none => (.ok a.ending, disk)
  | some (p, content) =>
    match disk.write p content.toUTF8.toList with
    | .error o => (.error (.path o p), disk)
    | .ok changed => (.ok a.ending, changed)

/-- Runs a session against a directory tree. -/
def Session.runOn (disk : Disk) : Session → Aftermath
  | ended ending => { outcome := .ok ending, disk }
  | stopped f => { outcome := .error f, disk }
  | running settings work =>
    let t := work.run disk
    let events := t.events.filter (Event.shows settings.level)
    match t.outcome with
    | .error f => { events, outcome := .error f, disk }
    | .ok answer =>
      let (outcome, disk) := answer.give disk
      { events, outcome, disk }

end DependencyAudit.CommandLine
