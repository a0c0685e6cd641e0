import DependencyAudit.Json.Token
import DependencyAudit.Text.Characters

/-!
The log: what a check leaves behind about its course. An event has a level and belongs to a
part of the program; an event shows when its level is at least the one that is set. It is logged
in a line that is a JSON table, or a line for reading.

The events and what they tell are the program's own. The order of the parts of a line is assumed
here as the log library in use has it, and the time, padding and colours that it adds are left out.
-/

namespace DependencyAudit

/-- How much an event matters. -/
inductive Level where
  | all
  | debug
  | info
  | warning
  | error
  | critical
  deriving DecidableEq

namespace Level

/-- The rank of a level; higher matters more. -/
def rank : Level → Nat
  | all => 0
  | debug => 10
  | info => 20
  | warning => 30
  | error => 40
  | critical => 50

def name : Level → String
  | all => "NOTSET"
  | debug => "DEBUG"
  | info => "INFO"
  | warning => "WARNING"
  | error => "ERROR"
  | critical => "CRITICAL"

/-- Reads a level's name in upper case; two levels have a second name. -/
def ofName? : String → Option Level
  | "NOTSET" => some all
  | "DEBUG" => some debug
  | "INFO" => some info
  | "WARN" => some warning
  | "WARNING" => some warning
  | "ERROR" => some error
  | "FATAL" => some critical
  | "CRITICAL" => some critical
  | _ => none

/-- Reads a level's name, whatever its case. -/
def parse? (written : String) : Option Level := ofName? (Text.upper written)

end Level

/-- Something that happened during a check. -/
inductive Event where
  | reportLoaded (path : String) (buckets : List String)
  | artifactMissing (artifact file : String)
  | indexBuilt (classes artifacts : Nat)
  | noListings (location : String)
  | referencesExtracted (file format : String) (classes : Nat)
  | checkStarted (project : String) (declared referenced indexed : Nat)
  | reconciled (declared undeclared : Nat)
  | violationFound (project : String) (undeclared : List String)
  | checkPassed (project : String) (unresolved : Nat)
  deriving DecidableEq

inductive Detail where
  | text (value : String)
  | count (value : Nat)
  | texts (values : List String)
  deriving DecidableEq

namespace Event

def name : Event → String
  | reportLoaded .. => "resolution.loaded"
  | artifactMissing .. => "index.artifact_missing"
  | indexBuilt .. => "index.built"
  | noListings .. => "references.no_listings"
  | referencesExtracted .. => "references.extracted"
  | checkStarted .. => "check.start"
  | reconciled .. => "reconcile.done"
  | violationFound .. => "check.violation"
  | checkPassed .. => "check.passed"

/-- The part of the program that the event belongs to. -/
def logger : Event → String
  | reportLoaded .. => "implicit_deps.resolution"
  | artifactMissing .. => "implicit_deps.index"
  | indexBuilt .. => "implicit_deps.index"
  | noListings .. => "implicit_deps.references"
  | referencesExtracted .. => "implicit_deps.references"
  | checkStarted .. => "implicit_deps.checker"
  | reconciled .. => "implicit_deps.reconcile"
  | violationFound .. => "implicit_deps.checker"
  | checkPassed .. => "implicit_deps.checker"

def level : Event → Level
  | reportLoaded .. => .debug
  | artifactMissing .. => .warning
  | indexBuilt .. => .debug
  | noListings .. => .warning
  | referencesExtracted .. => .debug
  | checkStarted .. => .info
  | reconciled .. => .debug
  | violationFound .. => .info
  | checkPassed .. => .info

def details : Event → List (String × Detail)
  | reportLoaded path buckets => [("path", .text path), ("buckets", .texts buckets)]
  | artifactMissing artifact file => [("artifact", .text artifact), ("file", .text file)]
  | indexBuilt classes artifacts => [("classes", .count classes), ("artifacts", .count artifacts)]
  | noListings location => [("location", .text location)]
  | referencesExtracted file format classes =>
    [("file", .text file), ("extractor", .text format), ("classes", .count classes)]
  | checkStarted project declared referenced indexed =>
    [("project", .text project), ("declared", .count declared),
      ("referenced", .count referenced), ("indexed_classes", .count indexed)]
  | reconciled declared undeclared =>
    [("declared", .count declared), ("undeclared", .count undeclared)]
  | violationFound project undeclared =>
    [("project", .text project), ("undeclared", .texts undeclared)]
  | checkPassed project unresolved =>
    [("project", .text project), ("unresolved", .count unresolved)]

def shows (threshold : Level) (e : Event) : Bool := threshold.rank ≤ e.level.rank

end Event

inductive LogFormat where
  | json
  | console
  deriving DecidableEq

structure LogSettings where
  level : Level
  format : LogFormat
  deriving DecidableEq

namespace LogSettings

/-- The environment variable that overrules the level. -/
def levelVariable : String := "IMPLICIT_DEPS_LOG_LEVEL"

/-- The environment variable that says how lines are written. -/
def formatVariable : String := "IMPLICIT_DEPS_LOG_FORMAT"

/-- The level where neither the caller nor the environment says otherwise. -/
def standardLevel : String := "WARNING"

/-- How lines are written for a value of the environment variable. -/
def formatOf (written : String) : LogFormat :=
  if Text.lower written = "json" then .json else .console

/-- The settings for an environment, unless the level has no such name. -/
def ofEnvironment? (environment : List (String × String)) (level : String) :
    Option LogSettings :=
  (Level.parse? ((environment.lookup levelVariable).getD level)).map fun l =>
    ⟨l, formatOf ((environment.lookup formatVariable).getD "console")⟩

end LogSettings

/-! ## Lines -/

namespace Detail

def json : Detail → String
  | text value => Json.quoted value
  | count value => toString value
  | texts values => Json.list (values.map Json.quoted)

/-- The detail in a line for reading. -/
def plain : Detail → String
  | text value => value
  | count value => toString value
  | texts values => Text.quotedList values

end Detail

namespace Event

def jsonLine (e : Event) : String :=
  Json.table ((e.details.map fun d => (d.1, d.2.json))
    ++ [("event", Json.quoted e.name), ("level", Json.quoted (Text.lower e.level.name)),
      ("logger", Json.quoted e.logger)])

/-- The event as a line for reading. -/
def plainLine (e : Event) : String :=
  "[" ++ Text.lower e.level.name ++ "] " ++ e.name ++ " [" ++ e.logger ++ "]"
    ++ String.join (e.details.map fun d => " " ++ d.1 ++ "=" ++ d.2.plain)

def line (format : LogFormat) (e : Event) : String :=
  match format with
  | .json => e.jsonLine
  | .console => e.plainLine

end Event

end DependencyAudit
