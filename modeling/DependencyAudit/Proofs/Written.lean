import DependencyAudit.Archive
import DependencyAudit.Config
import DependencyAudit.Dependency
import DependencyAudit.Disk
import DependencyAudit.Json.Token
import DependencyAudit.Report

/-!
Reports as the documents that hold them: a report is written as a JSON table whose absent fields
are left out. A disk with such a document can then be given by the report itself.

Behind that stand the projects that audits are shown on: the report and the references lie at
the root, and a module provides classes that its entry names, or those in a jar or a directory. A
jar has a directory and nothing before it.
-/

namespace DependencyAudit

namespace Written

/-- A text between quotes. -/
def text (s : String) : List Char := '"' :: s.toList.flatMap Json.escape ++ ['"']

def list (items : List (List Char)) : List Char := '[' :: [','].intercalate items ++ [']']

def table (fields : List (String × List Char)) : List Char :=
  '\x7b' :: [','].intercalate (fields.map fun f => text f.1 ++ ':' :: f.2) ++ ['\x7d']

/-- A field that is left out where there is no text. -/
def textField (name : String) (s : Option String) : List (String × List Char) :=
  (s.map fun s => (name, text s)).toList

end Written

open Written

def ArtifactEntry.written (a : ArtifactEntry) : List Char :=
  table (textField "file" a.file ++ textField "classifier" a.classifier
    ++ [("classes", list (a.classes.map text))])

namespace Entry

mutual

/-- A dependency as the document lists it. -/
def written : Entry → List Char
  | ⟨moduleName, project, artifacts, dependencies⟩ =>
    table (textField "module" moduleName ++ textField "project" project
      ++ [("artifacts", list (artifacts.map ArtifactEntry.written)),
        ("dependencies", list (writtenAll dependencies))])

def writtenAll : List Entry → List (List Char)
  | [] => []
  | e :: rest => written e :: writtenAll rest

end

end Entry

def Report.written (r : Report) : List Char :=
  table (textField "project" r.project ++ textField "build_file" r.buildFile
    ++ [("configurations", table (r.buckets.map fun b => (b.1, list (Entry.writtenAll b.2))))])

/-- A file that holds an ASCII text. -/
def Node.ofText (s : List Char) : Node := .file (s.map fun c => UInt8.ofNat c.toNat)

/-! ## Projects at the root of a disk -/

namespace Written

/-- An entry for a module that provides the given classes. -/
def moduleEntry (written : String) (classes : List String) (below : List Entry) : Entry where
  moduleName := some written
  artifacts := [⟨none, none, classes⟩]
  dependencies := below

def moduleNode (c : Coordinate) (classes : List String) (below : List Dependency) :
    Dependency where
  sources := [⟨.external c none, none, classes⟩]
  children := below
  coordinate := some c

/-- An entry for a module whose classes lie in the directory `out`. -/
def directoryEntry (written : String) : Entry where
  moduleName := some written
  artifacts := [⟨some "out", none, []⟩]

def directorySource (c : Coordinate) : Source where
  artifact := .external c none
  file := some ⟨.root, ["out"]⟩

def directoryNode (c : Coordinate) : Dependency where
  sources := [directorySource c]
  coordinate := some c

/-- An entry of an archive's directory with an ASCII name. -/
def bareEntry (name : String) : List UInt8 :=
  let bytes := name.toList.map fun c => UInt8.ofNat c.toNat
  Archive.entrySignature ++ List.replicate 24 0 ++ [UInt8.ofNat bytes.length, 0] ++
    List.replicate 16 0 ++ bytes

/-- An archive that is nothing but its directory. -/
def bareJar (names : List String) : List UInt8 :=
  let directory := names.flatMap bareEntry
  directory ++ Archive.endSignature ++ List.replicate 8 0 ++
    [UInt8.ofNat directory.length, UInt8.ofNat (directory.length / 256)] ++ List.replicate 8 0

/-- A disk with a report, references and more at its root. -/
def rootDisk (report : Report) (used : List Char) (more : List (String × Node)) : Disk where
  root := .directory
    (("report.json", .ofText report.written) :: ("used.refs", .ofText used) :: more)

/-- A configuration that points to the report and the references at the root. -/
def rootConfig : Config where
  resolution := ⟨.root, ["report.json"]⟩
  outputs := [⟨.root, ["used.refs"]⟩]

end Written

end DependencyAudit
