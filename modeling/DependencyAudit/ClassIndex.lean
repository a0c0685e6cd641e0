import DependencyAudit.Archive
import DependencyAudit.Ascending
import DependencyAudit.ClassName
import DependencyAudit.Dependency
import DependencyAudit.Inspection

/-!
The class index: which artifacts provide which class. The providers of a class stand in the
order in which they were first seen.

An index is made from supplies: an artifact with the classes it provides. The supply of a
source is found by listing its jar or class directory, so it may fail; a file that is not there
is only noted.
-/

namespace DependencyAudit

/-- The classes that one artifact provides, in ascending order. -/
structure Supply where
  artifact : Artifact
  classes : List String

def listClasses (p : Path) : Inspection (List String) := do
  if ← Inspection.isDirectory p then
    let found ← Inspection.descendants p
    return Ascending.strings
      (found.filterMap fun e => ClassName.ofEntry? ("/".intercalate e.1))
  else
    let bytes ← Inspection.bytes p
    match Archive.names bytes with
    | .error f => Inspection.fail (.archive f)
    | .ok names => return Ascending.strings (names.filterMap ClassName.ofEntry?)

def Source.supply (s : Source) : Inspection Supply :=
  match s.file with
  | none => return ⟨s.artifact, Ascending.strings s.classes⟩
  | some p => do
    if ← Inspection.doesExist p then
      let found ← listClasses p
      return ⟨s.artifact, Ascending.strings (s.classes ++ found)⟩
    else
      Inspection.log (.artifactMissing s.artifact.displayName p.text)
      return ⟨s.artifact, Ascending.strings s.classes⟩

/-- Classes with their providers, and the artifacts that were added. -/
structure ClassIndex where
  table : List (String × List Artifact) := []
  added : List Artifact := []

namespace ClassIndex

/-- The list with the element behind it, unless it is there. -/
def appendNew (a : Artifact) (l : List Artifact) : List Artifact :=
  if l.contains a then l else l ++ [a]

def addProvider (name : String) (a : Artifact) :
    List (String × List Artifact) → List (String × List Artifact)
  | [] => [(name, [a])]
  | (other, providers) :: rest =>
    if other = name then (other, appendNew a providers) :: rest
    else (other, providers) :: addProvider name a rest

def addClass (index : ClassIndex) (name : String) (a : Artifact) : ClassIndex :=
  { index with table := addProvider name a index.table }

def add (index : ClassIndex) (s : Supply) : ClassIndex :=
  let filled := s.classes.foldl (fun index name => index.addClass name s.artifact) index
  { filled with added := appendNew s.artifact filled.added }

def addSource (index : ClassIndex) (s : Source) : Inspection ClassIndex := do
  let supply ← s.supply
  return index.add supply

/-- The artifacts that provide a class, in the order in which they were first seen. -/
def providers (index : ClassIndex) (name : String) : List Artifact :=
  (index.table.lookup name).getD []

def contains (index : ClassIndex) (name : String) : Bool := (index.table.lookup name).isSome

def size (index : ClassIndex) : Nat := index.table.length

def addSources (index : ClassIndex) : List Source → Inspection ClassIndex
  | [] => return index
  | s :: rest => do
    let next ← index.addSource s
    next.addSources rest

/-- The index of dependency trees: the sources of the visited nodes, added in the order of the
visit. -/
def build (roots : List Dependency) : Inspection ClassIndex := do
  let index ← addSources {} ((Dependency.visit roots).flatMap Dependency.sources)
  Inspection.log (.indexBuilt index.size index.added.length)
  return index

end ClassIndex

end DependencyAudit
