import DependencyAudit.Dependency
import DependencyAudit.Inspection
import DependencyAudit.Report

/-!
The resolution: the report's entries read as dependency trees, bucket by bucket.

An entry without a module is a project that is not published; its coordinate is the last part
of the project's path. Files are looked for from the directory of the report.
-/

namespace DependencyAudit

/-- A report whose entries are read as dependency trees. -/
structure Resolution where
  projectPath : Option String := none
  buildFile : Option String := none
  buckets : List (String × List Dependency) := []

namespace Entry

/-- The coordinate of a project that is not published: the part of its path behind the last
colon, or the whole path where nothing stands there. -/
def unpublished (path : String) : Coordinate :=
  match (Text.splitAt ':' path.toList).getLast? with
  | none => ⟨"", path, ""⟩
  | some last => ⟨"", if last = [] then path else String.ofList last, ""⟩

def coordinate (e : Entry) : Except Failure Coordinate :=
  match e.moduleName, e.project with
  | none, none => .error .namelessEntry
  | none, some path => .ok (unpublished path)
  | some written, project =>
    if written = "" then
      match project with
      | none => .error .namelessEntry
      | some path => .ok (unpublished path)
    else
      match Coordinate.parse? written with
      | none => .error (.report (.badNotation written))
      | some c => .ok c

def artifactOf (project : Option String) (c : Coordinate) (a : ArtifactEntry) : Artifact :=
  match project with
  | none => .external c a.classifier
  | some path => .project path c

/-- The source that an entry's listing stands for. -/
def sourceOf (base : Path) (project : Option String) (c : Coordinate) (a : ArtifactEntry) :
    Source where
  artifact := artifactOf project c a
  file := a.file.map fun f => (Path.parse f).under base
  classes := a.classes

mutual

/-- The dependency tree of an entry. The entry itself is read before what is below it. -/
def resolve (base : Path) : Entry → Except Failure Dependency
  | ⟨moduleName, project, artifacts, dependencies⟩ =>
    match coordinate ⟨moduleName, project, artifacts, dependencies⟩ with
    | .error f => .error f
    | .ok c =>
      match resolveAll base dependencies with
      | .error f => .error f
      | .ok children =>
        .ok ⟨artifacts.map (sourceOf base project c), children, some c, project⟩

def resolveAll (base : Path) : List Entry → Except Failure (List Dependency)
  | [] => .ok []
  | e :: rest =>
    match resolve base e with
    | .error f => .error f
    | .ok d =>
      match resolveAll base rest with
      | .error f => .error f
      | .ok ds => .ok (d :: ds)

end

end Entry

namespace Resolution

/-- The trees of every bucket, in the order of the report. -/
def resolveBuckets (base : Path) :
    List (String × List Entry) → Except Failure (List (String × List Dependency))
  | [] => .ok []
  | (name, entries) :: rest =>
    match Entry.resolveAll base entries with
    | .error f => .error f
    | .ok trees =>
      match resolveBuckets base rest with
      | .error f => .error f
      | .ok buckets => .ok ((name, trees) :: buckets)

/-- The resolution of a report that lies in the given directory. -/
def ofReport (base : Path) (r : Report) : Except Failure Resolution :=
  match resolveBuckets base r.buckets with
  | .error f => .error f
  | .ok buckets => .ok ⟨r.project, r.buildFile, buckets⟩

/-- Reads a report that lies in the given directory. -/
def parse (content : List Char) (base : Path) : Except Failure Resolution :=
  match Report.parse content with
  | .error issues => .error (.report (.invalid issues))
  | .ok r => ofReport base r

def bucketNames (r : Resolution) : List String := r.buckets.map (·.1)

def bucket (r : Resolution) (name : String) : List Dependency := (r.buckets.lookup name).getD []

/-- The nodes whose identity is not among those seen, each identity once. -/
def firstOfEach (seen : List String) : List Dependency → List Dependency
  | [] => []
  | d :: rest =>
    if seen.contains d.identity then firstOfEach seen rest
    else d :: firstOfEach (d.identity :: seen) rest

/-- The first-level dependencies of the given buckets, or of all buckets. Of nodes with one
identity the first is kept. -/
def firstLevel (r : Resolution) (buckets : Option (List String)) :
    Except Failure (List Dependency) :=
  let names := buckets.getD r.bucketNames
  let unknown := names.filter fun n => !r.bucketNames.contains n
  if unknown = [] then .ok (firstOfEach [] (names.flatMap r.bucket))
  else .error (.report (.unknownBuckets unknown r.bucketNames))

/-- Loads the resolution from a file, and notes the names of its buckets. -/
def load (p : Path) : Inspection Resolution := do
  let content ← TextFile.read (.report (.missing p)) p
  let resolution ← Inspection.ofExcept (parse content p.parent)
  Inspection.log (.reportLoaded p.text resolution.bucketNames)
  return resolution

end Resolution

end DependencyAudit
