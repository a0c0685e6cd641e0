import DependencyAudit.ClassIndex
import DependencyAudit.Config
import DependencyAudit.Reconciliation
import DependencyAudit.Reference.Collection
import DependencyAudit.Resolution

/-!
The audit of one project, from its configuration to a verdict.

The resolution report gives the first-level dependencies, whose artifacts count as declared,
and the index of the classes that they and everything below them provide. The classes that the
compiled output refers to are reconciled with both.
-/

namespace DependencyAudit

/-- What an audit knows about the dependencies of the project. -/
structure Material where
  resolution : Resolution
  firstLevel : List Dependency
  index : ClassIndex

namespace Material

/-- The distinct artifacts that count as declared. -/
def declared (m : Material) : List Artifact := (m.firstLevel.flatMap Dependency.artifacts).eraseDups

/-- Loads what a configuration refers to, except for the compiled output. -/
def load (c : Config) : Inspection Material := do
  let resolution ← Resolution.load c.resolution
  let firstLevel ← Inspection.ofExcept (resolution.firstLevel c.buckets)
  let index ← ClassIndex.build firstLevel
  return ⟨resolution, firstLevel, index⟩

end Material

/-- The course of an audit that found nothing undeclared. Unresolved classes have no provider;
they stand in ascending order. -/
structure Summary where
  projectPath : String
  declaredCount : Nat
  referencedCount : Nat
  unresolved : List String
  deriving DecidableEq

/-- How an audit ends. -/
inductive Verdict where
  | violated (violation : Violation)
  | passed (summary : Summary)

/-- The first of two texts that is given and not empty. -/
def firstGiven (first second : Option String) : Option String :=
  match first.filter (· ≠ "") with
  | some s => some s
  | none => second.filter (· ≠ "")

namespace Audit

/-- What reconciliation has to know about the project: the configuration's word counts first,
then the report's. -/
def setting (c : Config) (r : Resolution) : Except Failure Setting :=
  match firstGiven c.project r.projectPath with
  | none => .error (.config .noProject)
  | some projectPath =>
    .ok { projectPath
          buildFile := (firstGiven c.buildFile r.buildFile).getD "build.gradle"
          ignore := c.ignore
          bucket := c.bucket }

/-- Reconciles the referenced classes with the dependencies, and notes how it ends. -/
def conclude (s : Setting) (m : Material) (referenced : List String) : Inspection Verdict := do
  Inspection.log
    (.checkStarted s.projectPath m.declared.length referenced.length m.index.size)
  match ← Reconciliation.check referenced m.index.providers m.declared s Artifact.displayName with
  | some violation =>
    Inspection.log (.violationFound s.projectPath (violation.artifacts.map Artifact.displayName))
    return .violated violation
  | none =>
    let unresolved := referenced.filter fun name => !m.index.contains name
    Inspection.log (.checkPassed s.projectPath unresolved.length)
    return .passed ⟨s.projectPath, m.declared.length, referenced.length, unresolved⟩

def run (c : Config) : Inspection Verdict := do
  let m ← Material.load c
  let s ← Inspection.ofExcept (setting c m.resolution)
  let referenced ← Reference.classes c.outputs
  conclude s m referenced

end Audit

end DependencyAudit
