import DependencyAudit.CommandLine.Session
import DependencyAudit.Log

/-!
The program. It looks at the files of the machine where an inspection asks about files, logs
events while they happen, writes the file of an answer, and prints the ending.
-/

namespace DependencyAudit.Program

/-- The number of an error of the system. Some calls give it with the opposite sign. -/
def numberOf (code : UInt32) : Nat :=
  if code.toNat < 0x80000000 then code.toNat else 0x100000000 - code.toNat

/-- The obstacle that the number of an error stands for. -/
def obstacleOfNumber? : Nat → Option Obstacle
  | 2 => some .missing
  | 13 => some .denied
  | 20 => some .notDirectory
  | 21 => some .isDirectory
  | 36 => some .nameTooLong
  | _ => none

/-- The obstacle that an error of the system stands for. -/
def obstacle? : IO.Error → Option Obstacle
  | .noFileOrDirectory _ code _ => obstacleOfNumber? (numberOf code)
  | .inappropriateType _ code _ => obstacleOfNumber? (numberOf code)
  | .permissionDenied _ code _ => obstacleOfNumber? (numberOf code)
  | .invalidArgument _ code _ => obstacleOfNumber? (numberOf code)
  | _ => none

/-- Does something with files; an obstacle is a result. -/
def attempt {α : Type} (p : Path) (action : IO α) : IO (Except Obstacle α) := do
  if p.text.toList.contains '\x00' then return .error .nullCharacter
  try
    let a ← action
    return .ok a
  catch e =>
    match obstacle? e with
    | some o => return .error o
    | none => throw e

def kindAt (p : Path) : IO (Except Obstacle Kind) := attempt p do
  let place ← IO.FS.realPath p.text
  let data ← place.metadata
  return if data.type == .dir then .directory else .file

/-- What a search below a directory comes to. A directory whose path is too long is named, but not
entered, and one that may not be listed is passed over. -/
partial def surveyAt (p : Path) : IO (List (List String × Kind)) := do
  let place ← IO.FS.realPath p.text
  let .ok entries ← attempt p place.readDir | return []
  let found ← entries.toList.mapM fun e => do
    let below := p.below [e.fileName]
    match ← attempt below e.path.metadata with
    -- in a directory that is not searchable there are names and nothing else
    | .error .denied => return [([e.fileName], Kind.file)]
    | .error _ => return []
    | .ok data =>
      if data.type != .dir then return [([e.fileName], Kind.file)]
      else if Disk.isTooLong below then return [([e.fileName], Kind.directory)]
      else
        let inner ← surveyAt below
        return ([e.fileName], Kind.directory) :: inner.map fun f => (e.fileName :: f.1, f.2)
  return found.flatten

/-- Everything below a directory; nothing where there is none. -/
def surveyIfThere (p : Path) : IO (List (List String × Kind)) := do
  match ← kindAt p with
  | .ok .directory => surveyAt p
  | _ => return []

/-- Carries out an inspection on the files of the machine. -/
def execute {α : Type} (settings : LogSettings) : Inspection α → IO (Except Failure α)
  | .done a => return .ok a
  | .fail f => return .error f
  | .note e next => do
    if e.shows settings.level then IO.eprintln (e.line settings.format)
    execute settings next
  | .kind p next => do
    let answer ← kindAt p
    execute settings (next answer)
  | .read p next => do
    let answer ← attempt p (IO.FS.readBinFile p.text)
    execute settings (next (answer.map ByteArray.toList))
  | .survey p next => do
    let answer ← surveyIfThere p
    execute settings (next answer)
  | .current next => do
    let here ← IO.currentDir
    execute settings (next (Path.parse here.toString))

def print (stream : IO.FS.Stream) (s : String) : IO Unit := do
  stream.putStr (CommandLine.printed (← stream.isTty) s)

def finish (ending : CommandLine.Ending) : IO UInt32 := do
  print (← IO.getStdout) ending.output
  print (← IO.getStderr) ending.errors
  return UInt32.ofNat ending.exitCode

/-- Prints the failure that stops the program. -/
def stop (f : Failure) : IO UInt32 := do
  IO.eprintln f.message
  return UInt32.ofNat CommandLine.stoppedCode

/-- Gives an answer: writes its file, if it has one, and prints the ending. -/
def give (answer : CommandLine.Answer) : IO UInt32 := do
  match answer.file with
  | none => finish answer.ending
  | some (p, content) =>
    match ← attempt p (IO.FS.writeBinFile p.text content.toUTF8) with
    | .error o => stop (.path o p)
    | .ok _ => finish answer.ending

/-- The variables of the environment that the log depends on. -/
def environment : IO (List (String × String)) := do
  let found ← [LogSettings.levelVariable, LogSettings.formatVariable].mapM fun name => do
    let value ← IO.getEnv name
    return value.toList.map fun v => (name, v)
  return found.flatten

end DependencyAudit.Program

open DependencyAudit in
def main (arguments : List String) : IO UInt32 := do
  let environment ← Program.environment
  match CommandLine.Session.start environment arguments with
  | .ended ending => Program.finish ending
  | .stopped f => Program.stop f
  | .running settings work =>
    match ← Program.execute settings work with
    | .error f => Program.stop f
    | .ok answer => Program.give answer
