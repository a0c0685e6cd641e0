import DependencyAudit.Proofs.Entries
import DependencyAudit.Proofs.Reordering
import DependencyAudit.Proofs.Selection

/-!
Where nodes come from. Every node of the trees of a resolution is what one of the report's entries
is read as (`exists_entry_of_occurs`), and its sources are what that entry lists
(`exists_artifact_of_resolve`).
-/

namespace DependencyAudit

open Dependency

variable {base : Path}

namespace Entry

theorem exists_artifact_of_resolve {x : Entry} {d : Dependency} (h : resolve base x = .ok d)
    {s : Source} (hs : s ∈ d.sources) :
    ∃ c a, x.coordinate = .ok c ∧ a ∈ x.artifacts ∧ s = sourceOf base x.project c a := by
  obtain ⟨moduleName, project, artifacts, below⟩ := x
  obtain ⟨c, _, hc, _, rfl⟩ := resolve_eq_ok_iff.mp h
  obtain ⟨a, ha, rfl⟩ := List.mem_map.mp hs
  exact ⟨c, a, hc, ha, rfl⟩

mutual

theorem exists_node_of_occurs : ∀ {e : Entry} {d y : Dependency}, resolve base e = .ok d →
    y = d ∨ Occurs d.children y → ∃ x ∈ nodes e, resolve base x = .ok y
  | ⟨moduleName, project, artifacts, below⟩, d, y, hd, hy => by
    rw [nodes]
    rcases hy with rfl | hy
    · exact ⟨_, List.mem_cons_self, hd⟩
    · obtain ⟨_, children, _, hchildren, rfl⟩ := resolve_eq_ok_iff.mp hd
      obtain ⟨x, hx, hread⟩ := exists_node_of_occurs_all hchildren hy
      exact ⟨x, List.mem_cons_of_mem _ hx, hread⟩

theorem exists_node_of_occurs_all : ∀ {es : List Entry} {ds : List Dependency} {y : Dependency},
    resolveAll base es = .ok ds → Occurs ds y → ∃ x ∈ nodesAll es, resolve base x = .ok y
  | [], ds, y, hds, hy => by
    obtain rfl := Except.ok.inj hds
    exact absurd (mem_nodesAll.mpr hy) List.not_mem_nil
  | e :: es, ds, y, hds, hy => by
    obtain ⟨d, rest, hd, hrest, rfl⟩ := resolveAll_cons_eq_ok_iff.mp hds
    rw [occurs_cons, ← or_assoc] at hy
    rw [nodesAll]
    rcases hy with hy | hy
    · obtain ⟨x, hx, hread⟩ := exists_node_of_occurs hd hy
      exact ⟨x, List.mem_append_left _ hx, hread⟩
    · obtain ⟨x, hx, hread⟩ := exists_node_of_occurs_all hrest hy
      exact ⟨x, List.mem_append_right _ hx, hread⟩

end

end Entry

namespace Resolution

/-- A node of the selected trees is what an entry of the report is read as. -/
theorem exists_entry_of_occurs {report : Report} {r : Resolution}
    (h : ofReport base report = .ok r) {buckets : Option (List String)} {d : Dependency}
    (hd : Occurs (r.selected buckets) d) : ∃ x ∈ report.entries, Entry.resolve base x = .ok d := by
  obtain ⟨found, hfound, rfl⟩ := ofReport_eq_ok_iff.mp h
  obtain ⟨name, _, hd⟩ := occurs_flatMap.mp hd
  have hread := lookup_resolveBuckets hfound name
  rw [bucket] at hd
  generalize hwritten : report.buckets.lookup name = written at hread
  generalize found.lookup name = trees at hread hd
  cases hread with
  | none => exact absurd (mem_nodesAll.mpr hd) List.not_mem_nil
  | @some entries trees hread =>
    obtain ⟨x, hx, hnode⟩ := Entry.exists_node_of_occurs_all hread hd
    obtain ⟨before, after, hbuckets, _⟩ := List.lookup_eq_some_iff.mp hwritten
    have hmem : (name, entries) ∈ report.buckets := by simp [hbuckets]
    exact ⟨x, List.mem_flatMap.mpr ⟨_, hmem, hx⟩, hnode⟩

end Resolution

end DependencyAudit
