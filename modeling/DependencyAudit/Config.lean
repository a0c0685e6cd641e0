import DependencyAudit.Ascending
import DependencyAudit.Inspection
import DependencyAudit.Toml.Document

/-!
The configuration of a check: where the resolution report lies, and what the user says about
the project. Everything but the report's place has a standard value.

A configuration is read from a TOML document, whose relative paths are meant from the directory
that holds it. Options override single fields; a null and an empty list override nothing. What
is read and what is overridden goes through the same check, so it is valid either way.

There is a configuration to start from, with a remark on every field (`Config.template`).
-/

namespace DependencyAudit

open Schema

/-- What the user says about the project, apart from the place of the report. The ignored
identities stand in ascending order. -/
structure Preferences where
  project : Option String := none
  buildFile : Option String := none
  buckets : Option (List String) := none
  outputs : List Path := []
  ignore : List String := []
  bucket : String := "implementation"
  deriving DecidableEq

structure Config extends Preferences where
  resolution : Path
  deriving DecidableEq

/-- Values for fields of a configuration, by the names of the fields. The command line overrides
with paths, fixed sequences and sets. They stand here as the text of the path and as the list of the
members: the checks below take either form alike. -/
abbrev Overrides := List (String × Data)

/-- Whether a value overrides nothing. -/
def Data.isVoid : Data → Bool
  | .null => true
  | .list [] => true
  | _ => false

namespace Config

/-- Where a configuration is looked for when the user names none. -/
def standardName : String := "implicit-deps.toml"

def fieldNames : List String :=
  ["resolution", "project", "build_file", "dependency_buckets", "compiled_outputs", "ignore",
    "suggestion_bucket"]

def path : Data → Checked Path
  | .text written => .ok (Path.parse written)
  | _ => failing .notPath

/-- Whether a text can be an ignored identity: it is not blank and has at most one colon. -/
def isIgnorable (entry : String) : Bool :=
  !Text.isBlankText entry.toList && entry.toList.count ':' ≤ 1

def ignoreRule (entries : List String) : Option Rule :=
  (entries.find? fun entry => !isIgnorable entry).map .ignoreForm

def bucketRule (name : String) : Option Rule :=
  if Text.isBlankText name.toList then some .bucketNamed else none

/-- Checks the fields of a configuration. For fields that are absent, `resolution` and `kept`
are taken. -/
def check (resolution : Checked Path) (kept : Preferences) (fields : List (String × Data)) :
    Checked Config :=
  let place := field fields "resolution" resolution path
  let project := field fields "project" (.ok kept.project) (orNull text)
  let buildFile := field fields "build_file" (.ok kept.buildFile) (orNull text)
  let buckets := field fields "dependency_buckets" (.ok kept.buckets)
    (orNull (listOf .notSequence text))
  let outputs := field fields "compiled_outputs" (.ok kept.outputs) (listOf .notSequence path)
  let ignore := field fields "ignore" (.ok kept.ignore)
    fun d => ensuring ignoreRule (listOf .notSet text d)
  let bucket := field fields "suggestion_bucket" (.ok kept.bucket)
    fun d => ensuring bucketRule (text d)
  alsoReporting (unknownFields fieldNames fields)
    ((both place (both project (both buildFile (both buckets (both outputs
        (both ignore bucket)))))).map
      fun (place, project, buildFile, buckets, outputs, ignore, bucket) =>
        { resolution := place
          project, buildFile, buckets, outputs, bucket
          ignore := Ascending.strings ignore })

/-- The configuration with its paths seen from a base directory. -/
def anchored (c : Config) (base : Path) : Config :=
  { c with
    resolution := c.resolution.under base
    outputs := c.outputs.map fun p => p.under base }

/-- Reads a configuration that lies in the given directory. -/
def parse (d : Data) (base : Path) : Except Failure Config :=
  match d with
  | .table fields =>
    match check (failing .missing) {} fields with
    | .error issues => .error (.config (.invalid issues))
    | .ok c => .ok (c.anchored base)
  | _ => .error (.config (.invalid [⟨[], .notRecord⟩]))

/-- The overrides that have an effect. -/
def effective (o : Overrides) : Overrides := o.filter fun f => !f.2.isVoid

/-- The configuration with fields overridden. -/
def override (c : Config) (o : Overrides) : Except Failure Config :=
  if (effective o).isEmpty then .ok c
  else
    match check (.ok c.resolution) c.toPreferences (effective o) with
    | .error issues => .error (.config (.invalidOption issues))
    | .ok changed => .ok changed

/-- The failure for a file whose document cannot be read. -/
def failureOf (p : Path) : Toml.Trouble → Failure
  | .malformed => .config (.malformed p)
  | .tooManyDigits count => .tooManyDigits count
  | .tooDeep => .tooDeep

def load (p : Path) : Inspection Config := do
  let content ← TextFile.read (.config (.missing p)) p
  match Toml.read content with
  | .error trouble => Inspection.fail (failureOf p trouble)
  | .ok fields => Inspection.ofExcept (parse (.table fields) p.parent)

/-- The lines of the configuration to start from. -/
def templateLines : List String :=
  [ "# Resolution report written by the build tool (JSON).",
    "resolution = \"build/implicit-deps/resolution.json\"",
    "",
    "# Project being checked and its build file, relative to the root project.",
    "# Both default to the values recorded in the resolution report.",
    "# project = \":app\"",
    "# build_file = \"app/build.gradle\"",
    "",
    "# Buckets whose first-level dependencies count as declared.",
    "# Defaults to every bucket in the resolution report.",
    "dependency_buckets = [\"implementation\", \"compileOnly\"]",
    "",
    "# Reference listings for the compiled output (files or directories).",
    "compiled_outputs = [\"build/implicit-deps/main.jdeps\"]",
    "",
    "# Modules that may be used without being declared (group:name).",
    "ignore = []",
    "",
    "# Bucket named in the suggested dependencies block.",
    "suggestion_bucket = \"implementation\""]

def template : String := String.join (templateLines.map (· ++ "\n"))

end Config

end DependencyAudit
