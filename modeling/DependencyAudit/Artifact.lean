import DependencyAudit.Coordinate

/-!
Artifacts: the jars and class directories that a dependency contributes. An artifact is either
published by an external module, possibly under a classifier, or the output of a sibling
project of the same build.

Each artifact has a display name for reports, an ignore identity by which a user excuses it,
and a descriptor that shows all of its fields.
-/

namespace DependencyAudit

/-- Something on the class path that provides classes. -/
inductive Artifact where
  | external (coordinate : Coordinate) (classifier : Option String)
  | project (path : String) (coordinate : Coordinate)
  deriving DecidableEq

namespace Artifact

def coordinate : Artifact → Coordinate
  | external c _ => c
  | project _ c => c

/-- Whether the artifact is the output of a project. -/
def isProject : Artifact → Bool
  | external _ _ => false
  | project _ _ => true

/-- The text with a classifier after the mark, unless there is none or it is empty. -/
def withClassifier (base mark : String) : Option String → String
  | none => base
  | some classifier => if classifier = "" then base else base ++ mark ++ classifier

/-- The name in reports. -/
def displayName : Artifact → String
  | external c classifier => withClassifier c.text ":" classifier
  | project path _ => "project " ++ path

/-- The name under which the artifact can be ignored; no version is part of it. -/
def ignoreIdentity : Artifact → String
  | external c classifier => withClassifier c.identity "|" classifier
  | project _ c => c.identity

/-- The classifier between quotes, or the word for its absence. -/
def classifierDescriptor : Option String → String
  | none => "None"
  | some classifier => Text.quoted classifier

/-- A form that shows every field between quotes, so distinct artifacts differ in it. -/
def descriptor : Artifact → String
  | external c classifier =>
    "ExternalArtifact(coordinate=" ++ c.descriptor ++ ", classifier="
      ++ classifierDescriptor classifier ++ ")"
  | project path c =>
    "ProjectArtifact(project_path=" ++ Text.quoted path ++ ", coordinate=" ++ c.descriptor ++ ")"

/-- Whether the artifact is the output of the project with the given path. -/
def isOutputOf (a : Artifact) (projectPath : String) : Bool :=
  match a with
  | external _ _ => false
  | project path _ => path = projectPath

def isIgnored (a : Artifact) (ignore : List String) : Bool := ignore.contains a.ignoreIdentity

/-- The order by a key; the descriptor decides between equal keys. -/
def before (key : Artifact → String) (a b : Artifact) : Bool :=
  key a < key b || (key a = key b && a.descriptor < b.descriptor)

end Artifact

end DependencyAudit
