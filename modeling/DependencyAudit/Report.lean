import DependencyAudit.Failure
import DependencyAudit.Json.Reader

/-!
The resolution report: a JSON document of the build tool. It names, for every dependency
bucket, the first-level dependencies, each with its artifacts and its own dependencies.

An entry needs a module or a project. Unknown fields are refused in entries and artifacts, and
pass at the top of the document.

How deep a report may go is not for the program to say. `Report.maxDepth` is the limit of the JSON
reader that is in use, and an assumption here.
-/

namespace DependencyAudit

/-- An artifact as the report lists it. -/
structure ArtifactEntry where
  file : Option String := none
  classifier : Option String := none
  classes : List String := []

/-- A dependency as the report lists it. -/
structure Entry where
  moduleName : Option String := none
  project : Option String := none
  artifacts : List ArtifactEntry := []
  dependencies : List Entry := []

/-- A report. The buckets keep the order of the document, and each has one name. -/
structure Report where
  project : Option String := none
  buildFile : Option String := none
  buckets : List (String × List Entry) := []

open Schema

namespace ArtifactEntry

def check : Data → Checked ArtifactEntry
  | .table fields =>
    let file := field fields "file" (.ok none) (orNull text)
    let classifier := field fields "classifier" (.ok none) (orNull text)
    let classes := field fields "classes" (.ok []) (listOf .notList text)
    alsoReporting (unknownFields ["file", "classifier", "classes"] fields)
      ((both file (both classifier classes)).map fun r => ⟨r.1, r.2.1, r.2.2⟩)
  | _ => failing .notRecord

end ArtifactEntry

namespace Entry

/-- The rule that an entry has a name of some kind. -/
def nameRule (e : Entry) : Option Rule :=
  if e.moduleName.isNone && e.project.isNone then some .entryNamed else none

/-- Puts the checked parts of an entry together. -/
def ofFields (fields : List (String × Data)) (dependencies : Checked (List Entry)) :
    Checked Entry :=
  let moduleName := field fields "module" (.ok none) (orNull text)
  let project := field fields "project" (.ok none) (orNull text)
  let artifacts := field fields "artifacts" (.ok []) (listOf .notList ArtifactEntry.check)
  let dependencies := within (.field "dependencies") dependencies
  ensuring nameRule
    (alsoReporting (unknownFields ["module", "project", "artifacts", "dependencies"] fields)
      ((both moduleName (both project (both artifacts dependencies))).map
        fun r => ⟨r.1, r.2.1, r.2.2.1, r.2.2.2⟩))

mutual

def check : Data → Checked Entry
  | .table fields => ofFields fields ((checkDependencies fields).getD (.ok []))
  | _ => failing .notRecord

def checkList : Data → Checked (List Entry)
  | .list items => checkEach 0 items
  | _ => failing .notList

/-- Checks entries, counted from the given index. -/
def checkEach (index : Nat) : List Data → Checked (List Entry)
  | [] => .ok []
  | d :: l => (both (within (.item index) (check d)) (checkEach (index + 1) l)).map
      fun r => r.1 :: r.2

/-- Checks the last field of an entry that lists its dependencies, if there is one. -/
def checkDependencies : List (String × Data) → Option (Checked (List Entry))
  | [] => none
  | (name, value) :: rest =>
    match checkDependencies rest with
    | some c => some c
    | none => if name = "dependencies" then some (checkList value) else none

end

end Entry

namespace Report

/-- Gives a bucket its entries; a bucket that is there already keeps its place. -/
def put (name : String) (entries : List Entry) :
    List (String × List Entry) → List (String × List Entry)
  | [] => [(name, entries)]
  | (other, old) :: rest =>
    if other = name then (name, entries) :: rest else (other, old) :: put name entries rest

/-- Checks every bucket of the document, whether or not its name comes again. -/
def checkBuckets : List (String × Data) → Checked (List (String × List Entry))
  | [] => .ok []
  | (name, value) :: rest =>
    (both (within (.field name) (Entry.checkList value)) (checkBuckets rest)).map
      fun r => (name, r.1) :: r.2

/-- Checks the table of buckets. Of buckets with one name the last entries count. -/
def checkConfigurations : Data → Checked (List (String × List Entry))
  | .table fields => (checkBuckets fields).map fun all => all.foldl (fun bs b => put b.1 b.2 bs) []
  | _ => failing .notTable

def check : Data → Checked Report
  | .table fields =>
    let project := field fields "project" (.ok none) (orNull text)
    let buildFile := field fields "build_file" (.ok none) (orNull text)
    let buckets := field fields "configurations" (.ok []) checkConfigurations
    (both project (both buildFile buckets)).map fun r => ⟨r.1, r.2.1, r.2.2⟩
  | _ => failing .notRecord

/-- The number of lists and tables that may be open at once in a report, as the reader in use has
it. -/
def maxDepth : Nat := 200

def parse (content : List Char) : Checked Report :=
  match Json.read? maxDepth content with
  | none => failing .malformed
  | some d => check d

end Report

end DependencyAudit
