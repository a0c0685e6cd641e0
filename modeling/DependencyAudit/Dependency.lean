import DependencyAudit.Artifact
import DependencyAudit.Path

/-!
Resolved dependencies: trees of nodes, each with the artifacts that it contributes and the
places where their classes can be listed.

The nodes that wait for a visit stand on a stack; the children of a visited node go on top, in their
order. A node is passed over, with everything below it, when a node of its identity was visited
before.
-/

namespace DependencyAudit

/-- Where the classes of one artifact come from: a jar or class directory, names given
outright, or both. -/
structure Source where
  artifact : Artifact
  file : Option Path := none
  classes : List String := []

/-- A node of a resolved dependency tree. -/
structure Dependency where
  sources : List Source := []
  children : List Dependency := []
  coordinate : Option Coordinate := none
  projectPath : Option String := none

namespace Dependency

/-- The name under which a node counts as visited or as a duplicate. -/
def identity (d : Dependency) : String :=
  match d.projectPath, d.coordinate with
  | some path, _ => "project " ++ path
  | none, some c => c.text
  | none, none => "<anonymous>"

def artifacts (d : Dependency) : List Artifact := d.sources.map Source.artifact

end Dependency

/-! ## Visits -/

namespace Dependency

mutual

def size : Dependency → Nat
  | ⟨_, children, _, _⟩ => 1 + sizeAll children

def sizeAll : List Dependency → Nat
  | [] => 0
  | d :: ds => size d + sizeAll ds

end

theorem sizeAll_append (ds es : List Dependency) :
    sizeAll (ds ++ es) = sizeAll ds + sizeAll es := by
  induction ds with
  | nil => simp [sizeAll]
  | cons d ds ih => simp [sizeAll, ih, Nat.add_assoc]

theorem sizeAll_children_lt (d : Dependency) : sizeAll d.children < size d := by
  cases d
  simp only [size]
  omega

theorem size_pos (d : Dependency) : 0 < size d :=
  Nat.lt_of_le_of_lt (Nat.zero_le _) (sizeAll_children_lt d)

/-- The nodes visited from a stack, first to last, when nodes of the given identities were
visited before. -/
def visitFrom (visited : List String) (stack : List Dependency) : List Dependency :=
  match stack with
  | [] => []
  | d :: rest =>
    if visited.contains d.identity then visitFrom visited rest
    else d :: visitFrom (d.identity :: visited) (d.children ++ rest)
termination_by sizeAll stack
decreasing_by
  · simp only [sizeAll]
    have := size_pos d
    omega
  · simp only [sizeAll, sizeAll_append]
    have := sizeAll_children_lt d
    omega

/-- The visited nodes of the given trees, first to last. -/
def visit (roots : List Dependency) : List Dependency := visitFrom [] roots

end Dependency

end DependencyAudit
