import DependencyAudit.Text.Quoted
import DependencyAudit.Text.Split

/-!
Paths. Reading a path drops empty components and components that are a single dot, keeps
components of two dots, and keeps the number of leading slashes if it is one or two; more count
as one. The path without components is the current directory and is written as a dot.
-/

namespace DependencyAudit

/-- Where a path starts. -/
inductive Anchor where
  | here
  | root
  | doubleRoot
  deriving DecidableEq

def Anchor.text : Anchor → String
  | here => ""
  | root => "/"
  | doubleRoot => "//"

/-- A path: where it starts, and the components on the way. -/
structure Path where
  anchor : Anchor
  parts : List String
  deriving DecidableEq

namespace Path

/-- The start of a written path. -/
def anchorOf : List Char → Anchor
  | '/' :: '/' :: '/' :: _ => .root
  | '/' :: '/' :: _ => .doubleRoot
  | '/' :: _ => .root
  | _ => .here

/-- Whether a piece between slashes is a component. -/
def isComponent (piece : List Char) : Bool := piece ≠ [] && piece ≠ ['.']

def parse (written : String) : Path where
  anchor := anchorOf written.toList
  parts := ((Text.splitAt '/' written.toList).filter isComponent).map String.ofList

def text (p : Path) : String :=
  match p.anchor, p.parts with
  | .here, [] => "."
  | anchor, parts => anchor.text ++ "/".intercalate parts

/-- Whether the path does not depend on the current directory. -/
def isAbsolute (p : Path) : Bool := p.anchor ≠ .here

/-- The path seen from a base directory; an absolute path stays as it is. -/
def under (p base : Path) : Path :=
  if p.isAbsolute then p else { base with parts := base.parts ++ p.parts }

/-- The path of a thing below. -/
def below (p : Path) (parts : List String) : Path := { p with parts := p.parts ++ parts }

/-- The directory that holds the path's last component. -/
def parent (p : Path) : Path := { p with parts := p.parts.dropLast }

def name? (p : Path) : Option String := p.parts.getLast?

/-- The components with every pair of dots taken together with the component before it; at the
root there is nothing to take. -/
def climb (done : List String) : List String → List String
  | [] => done.reverse
  | part :: parts => climb (if part = ".." then done.tail else part :: done) parts

/-- The absolute path without components of two dots, seen from the current directory. -/
def resolve (p current : Path) : Path := ⟨.root, climb [] (p.under current).parts⟩

/-- Whether the written form ends in a slash or in a component that is a single dot, and so
names a directory. -/
def namesDirectory (written : String) : Bool :=
  match (Text.splitAt '/' written.toList).getLast? with
  | none => false
  | some last => !isComponent last

end Path

end DependencyAudit
