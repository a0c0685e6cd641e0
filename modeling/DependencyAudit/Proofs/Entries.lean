import DependencyAudit.Resolution

/-!
The entries of a report at any depth, in the order in which they are read: an entry stands before
those below it, and these before the next one.

Whether a report is resolved, and what stops it otherwise, is a matter of single entries: the
failure is that of the first entry without a coordinate (`failure?_ofReport`).
-/

namespace DependencyAudit

/-- The failure that a computation came to. -/
def failure? {α : Type} : Except Failure α → Option Failure
  | .ok _ => none
  | .error f => some f

theorem failure?_eq_some {α : Type} {x : Except Failure α} {f : Failure} :
    failure? x = some f ↔ x = .error f := by
  cases x <;> simp [failure?]

theorem failure?_eq_none {α : Type} {x : Except Failure α} :
    failure? x = none ↔ ∃ a, x = .ok a := by
  cases x <;> simp [failure?]

namespace Entry

mutual

/-- An entry and all entries below it. -/
def nodes : Entry → List Entry
  | ⟨moduleName, project, artifacts, below⟩ =>
    ⟨moduleName, project, artifacts, below⟩ :: nodesAll below

/-- The given entries and all entries below them. -/
def nodesAll : List Entry → List Entry
  | [] => []
  | e :: es => nodes e ++ nodesAll es

end

theorem nodes_eq (e : Entry) : nodes e = e :: nodesAll e.dependencies := by
  cases e
  rw [nodes]

/-! ## Reading entries -/

mutual

theorem failure?_resolve (base : Path) : ∀ e : Entry,
    failure? (resolve base e) = (nodes e).findSome? fun x => failure? x.coordinate
  | ⟨moduleName, project, artifacts, below⟩ => by
    have ih := failure?_resolveAll base below
    rw [resolve, nodes, List.findSome?_cons, ← ih]
    -- the entry itself comes first, then what is below it
    cases coordinate ⟨moduleName, project, artifacts, below⟩ with
    | error f => rfl
    | ok c => cases resolveAll base below <;> rfl

theorem failure?_resolveAll (base : Path) : ∀ es : List Entry,
    failure? (resolveAll base es) = (nodesAll es).findSome? fun x => failure? x.coordinate
  | [] => rfl
  | e :: es => by
    have hfirst := failure?_resolve base e
    have hrest := failure?_resolveAll base es
    rw [resolveAll, nodesAll, List.findSome?_append, ← hfirst, ← hrest]
    cases resolve base e with
    | error f => rfl
    | ok d => cases resolveAll base es <;> rfl

end

end Entry

/-! ## Reading reports -/

/-- The entries of all buckets at any depth. -/
def Report.entries (r : Report) : List Entry := r.buckets.flatMap fun b => Entry.nodesAll b.2

namespace Resolution

theorem failure?_resolveBuckets (base : Path) : ∀ buckets : List (String × List Entry),
    failure? (resolveBuckets base buckets) =
      (buckets.flatMap fun b => Entry.nodesAll b.2).findSome? fun x => failure? x.coordinate
  | [] => rfl
  | (name, entries) :: rest => by
    have hfirst := Entry.failure?_resolveAll base entries
    have hrest := failure?_resolveBuckets base rest
    rw [resolveBuckets, List.flatMap_cons, List.findSome?_append, ← hfirst, ← hrest]
    cases Entry.resolveAll base entries with
    | error f => rfl
    | ok trees => cases resolveBuckets base rest <;> rfl

theorem failure?_ofReport (base : Path) (r : Report) :
    failure? (ofReport base r) = r.entries.findSome? fun x => failure? x.coordinate := by
  have h := failure?_resolveBuckets base r.buckets
  rw [Report.entries, ← h, ofReport]
  cases resolveBuckets base r.buckets <;> rfl

end Resolution

end DependencyAudit
