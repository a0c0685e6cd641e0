import DependencyAudit.CommandLine.Arguments
import DependencyAudit.Inspection

/-!
The configuration that a command line means: that of a file with what the switches override, or
that of the switches alone. Paths in switches are seen from the current directory, not from the
directory of the file.
-/

namespace DependencyAudit.CommandLine

def absolute (written : String) : Inspection Path := do
  let p := Path.parse written
  if written.toList.contains '\x00' then Inspection.fail (.path .nullCharacter p)
  else
    let here ← Inspection.currentDirectory
    return p.resolve here

def absoluteAll : List String → Inspection (List Path)
  | [] => return []
  | written :: rest => do
    let p ← absolute written
    let others ← absoluteAll rest
    return p :: others

/-- A text as the value of an override; no text overrides nothing. -/
def overrideText : Option String → Data
  | none => .null
  | some s => .text s

/-- Texts as the value of an override. -/
def overrideTexts (texts : List String) : Data := .list (texts.map .text)

/-- The overrides that switches ask for. The compiled outputs are given as absolute paths. -/
def overridesOf (a : Arguments) (outputs : List Path) : Overrides :=
  [("project", overrideText (a.value? .project)),
    ("dependency_buckets", overrideTexts (a.values .bucket)),
    ("compiled_outputs", overrideTexts (outputs.map Path.text)),
    ("build_file", overrideText (a.value? .buildFile)),
    ("suggestion_bucket", overrideText (a.value? .suggestInto))]

/-- The value of a switch, unless it is empty. -/
def filled? (a : Arguments) (s : Switch) : Option String := (a.value? s).filter (· ≠ "")

/-- The configuration file that is meant: the one that is named, or the standard one if it is
there. -/
def configFile? (a : Arguments) : Inspection (Option Path) := do
  match filled? a .config with
  | some written => return some (Path.parse written)
  | none =>
    let standard := Path.parse Config.standardName
    if ← Inspection.isFile standard then return some standard else return none

/-- The absolute path of the report that is named, if one is. -/
def namedReport? (a : Arguments) : Inspection (Option Path) := do
  match filled? a .resolution with
  | none => return none
  | some written =>
    let p ← absolute written
    return some p

/-- The configuration that is meant: that of the file, with what the switches override, or that
of the switches alone if they name a report. -/
def configure? (a : Arguments) : Inspection (Option Config) := do
  let outputs ← absoluteAll (a.values .output)
  let overrides := overridesOf a outputs
  match ← configFile? a with
  | some p =>
    let c ← Config.load p
    let report ← namedReport? a
    let c ← Inspection.ofExcept
      (c.override (("resolution", overrideText (report.map Path.text)) :: overrides))
    return some c
  | none =>
    match ← namedReport? a with
    | none => return none
    | some report =>
      let c ← Inspection.ofExcept (Config.override { resolution := report } overrides)
      return some c

/-- The configuration with more identities ignored. -/
def ignoring (c : Config) (more : List String) : Except Failure Config :=
  if more = [] then .ok c else c.override [("ignore", overrideTexts (c.ignore ++ more))]

end DependencyAudit.CommandLine
