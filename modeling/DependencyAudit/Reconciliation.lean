import DependencyAudit.Artifact
import DependencyAudit.Ascending
import DependencyAudit.Inspection

/-!
Reconciliation: which artifacts a project uses without declaring them.

Each referenced class has candidates, the artifacts that provide it. A class is excused when one
of its candidates is the output of the project itself, is ignored, or is declared. Every class
that is not excused puts forward one of its candidates: the least one by a key, with the
descriptor deciding between equal keys. What is put forward is reported in that same order.
-/

namespace DependencyAudit

/-- What reconciliation has to know about the project. -/
structure Setting where
  projectPath : String
  buildFile : String := "build.gradle"
  ignore : List String := []
  bucket : String := "implementation"

namespace Setting

/-- Whether an artifact excuses the classes that it provides. -/
def excuses (s : Setting) (declared : List Artifact) (a : Artifact) : Bool :=
  a.isOutputOf s.projectPath || a.isIgnored s.ignore || declared.contains a

end Setting

/-- A use of undeclared artifacts, and how to mend it. -/
structure Violation where
  artifacts : List Artifact
  buildFile : String
  suggestion : String

/-- The declaration that a build file would have for an artifact. -/
def suggestionLine (bucket : String) (a : Artifact) : String :=
  match a with
  | .external c _ => "    " ++ bucket ++ " '" ++ c.identity ++ "'"
  | .project path _ => "    " ++ bucket ++ " project('" ++ path ++ "')"

/-- The declarations for artifacts, in ascending order. -/
def suggestionLines (bucket : String) (artifacts : List Artifact) : List String :=
  Ascending.sort Ascending.stringBefore (artifacts.map (suggestionLine bucket))

/-- A block of declarations. -/
def renderSuggestion (bucket : String) (artifacts : List Artifact) : String :=
  "    dependencies \x7b\n" ++ "\n".intercalate (suggestionLines bucket artifacts)
    ++ "\n    \x7d"

namespace Violation

def message (v : Violation) : String :=
  "Found " ++ toString v.artifacts.length
    ++ " implicit dependencies - consider adding the following explicit dependencies to '"
    ++ v.buildFile ++ "', or avoid using classes from these jars:\n" ++ v.suggestion

/-- The violation by the given artifacts, if there are any. -/
def of? (s : Setting) (artifacts : List Artifact) : Option Violation :=
  if artifacts = [] then none
  else some ⟨artifacts, s.buildFile, renderSuggestion s.bucket artifacts⟩

end Violation

namespace Reconciliation

/-- The distinct lists of candidates of the referenced classes, without empty ones. -/
def candidateLists (classes : List String) (providers : String → List Artifact) :
    List (List Artifact) :=
  ((classes.map providers).filter fun l => !l.isEmpty).eraseDups

def least? (key : Artifact → String) : List Artifact → Option Artifact
  | [] => none
  | a :: rest =>
    match least? key rest with
    | none => some a
    | some b => if Artifact.before key b a then some b else some a

/-- The artifacts that are used without being declared. -/
def undeclared (classes : List String) (providers : String → List Artifact)
    (declared : List Artifact) (s : Setting) (key : Artifact → String) : List Artifact :=
  Ascending.sortSet (Artifact.before key)
    (((candidateLists classes providers).filter fun l => !l.any (s.excuses declared)).filterMap
      (least? key))

/-- Finds the undeclared artifacts and notes their number. -/
def find (classes : List String) (providers : String → List Artifact)
    (declared : List Artifact) (s : Setting) (key : Artifact → String) :
    Inspection (List Artifact) := do
  let found := undeclared classes providers declared s key
  Inspection.log (.reconciled declared.eraseDups.length found.length)
  return found

/-- The violation by the undeclared artifacts, if there are any. -/
def check (classes : List String) (providers : String → List Artifact)
    (declared : List Artifact) (s : Setting) (key : Artifact → String) :
    Inspection (Option Violation) := do
  let found ← find classes providers declared s key
  return Violation.of? s found

end Reconciliation

end DependencyAudit
