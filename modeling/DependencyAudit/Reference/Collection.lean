import DependencyAudit.Inspection
import DependencyAudit.Reference.Format

/-!
Collecting the classes that a project refers to. A location is a file in one of the formats, or
a directory, which stands for all files in one of the formats at any depth below it. The files
of a directory come format by format, ending by ending, and under one ending in the order of
their paths, component by component. Whatever has an ending of a format below a directory is
looked up at its path, and passed over if it is no file.
-/

namespace DependencyAudit.Reference

/-- The order of ways below a directory, component by component. -/
def wayBefore (a b : List String) : Bool := Ascending.listBefore Ascending.stringBefore a b

def endsIn (ending : String) (way : List String) : Bool :=
  Format.hasEnding ending (way.getLast?.getD "")

/-- What has an ending of a format among the things below a directory, each with that format. -/
def namedAmong (root : Path) (ways : List (List String)) : List (Format × Path) :=
  Format.all.flatMap fun f => f.endings.flatMap fun ending =>
    (Ascending.sort wayBefore (ways.filter (endsIn ending))).map fun way => (f, root.below way)

/-- Those at whose path a file lies. -/
def filesAmong : List (Format × Path) → Inspection (List (Format × Path))
  | [] => return []
  | (f, p) :: rest => do
    let isListing ← Inspection.isFile p
    let others ← filesAmong rest
    return if isListing then (f, p) :: others else others

/-- The listings below a directory; where there is none, nothing is found. -/
def discover (root : Path) : Inspection (List (Format × Path)) := do
  if ← Inspection.isDirectory root then
    let found ← Inspection.descendants root
    filesAmong (namedAmong root (found.map (·.1)))
  else return []

def ofFile (f : Format) (p : Path) : Inspection (List String) := do
  let content ← TextFile.readLenient p
  let found := f.classes content
  Inspection.log (.referencesExtracted p.text f.name found.length)
  return found

def ofFiles : List (Format × Path) → Inspection (List String)
  | [] => return []
  | (f, p) :: rest => do
    let found ← ofFile f p
    let others ← ofFiles rest
    return found ++ others

/-- The listings that a location stands for. -/
def listingsAt (location : Path) : Inspection (List (Format × Path)) := do
  if ← Inspection.isDirectory location then
    let found ← discover location
    if found.isEmpty then Inspection.log (.noListings location.text)
    return found
  else
    match Format.ofPath? location with
    | none => Inspection.fail (.noExtractor location)
    | some f => return [(f, location)]

/-- The classes that a location refers to. -/
def ofLocation (location : Path) : Inspection (List String) := do
  let listings ← listingsAt location
  ofFiles listings

def ofLocations : List Path → Inspection (List String)
  | [] => return []
  | location :: rest => do
    let found ← ofLocation location
    let others ← ofLocations rest
    return found ++ others

/-- The classes that locations refer to, each once and in ascending order. -/
def classes (locations : List Path) : Inspection (List String) := do
  let found ← ofLocations locations
  return Ascending.strings found

end DependencyAudit.Reference
