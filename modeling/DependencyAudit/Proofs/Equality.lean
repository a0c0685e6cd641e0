import DependencyAudit.Audit

/-!
Equality of reports, of dependency trees, and of what is made of them can be decided, so that an
audit of a given disk can be evaluated to its end.
-/

namespace DependencyAudit

deriving instance DecidableEq for ArtifactEntry, Source

namespace Entry

mutual

/-- Entries are equal if their own fields are and everything below them is. -/
def decEq : (e f : Entry) → Decidable (e = f)
  | ⟨moduleName, project, artifacts, below⟩, ⟨moduleName', project', artifacts', below'⟩ =>
    haveI := decEqAll below below'
    decidable_of_iff
      (moduleName = moduleName' ∧ project = project' ∧ artifacts = artifacts' ∧ below = below')
      (by simp)

/-- Lists of entries are equal if they are so entry by entry. -/
def decEqAll : (es fs : List Entry) → Decidable (es = fs)
  | [], [] => isTrue rfl
  | [], _ :: _ => isFalse (by simp)
  | _ :: _, [] => isFalse (by simp)
  | e :: es, f :: fs =>
    haveI := decEq e f
    haveI := decEqAll es fs
    decidable_of_iff (e = f ∧ es = fs) (by simp)

end

instance : DecidableEq Entry := decEq

end Entry

namespace Dependency

mutual

/-- Trees are equal if their nodes are and everything below them is. -/
def decEq : (d e : Dependency) → Decidable (d = e)
  | ⟨sources, children, coordinate, path⟩, ⟨sources', children', coordinate', path'⟩ =>
    haveI := decEqAll children children'
    decidable_of_iff
      (sources = sources' ∧ children = children' ∧ coordinate = coordinate' ∧ path = path')
      (by simp)

/-- Lists of trees are equal if they are so tree by tree. -/
def decEqAll : (ds es : List Dependency) → Decidable (ds = es)
  | [], [] => isTrue rfl
  | [], _ :: _ => isFalse (by simp)
  | _ :: _, [] => isFalse (by simp)
  | d :: ds, e :: es =>
    haveI := decEq d e
    haveI := decEqAll ds es
    decidable_of_iff (d = e ∧ ds = es) (by simp)

end

instance : DecidableEq Dependency := decEq

end Dependency

deriving instance DecidableEq for Report, Resolution, ClassIndex, Setting, Violation, Verdict

end DependencyAudit
