import DependencyAudit.Resolution

/-!
The first-level dependencies that a selection of buckets comes to. A selection succeeds exactly
if every name is that of a bucket (`firstLevel_eq_ok_iff`). Each node it gives is a tree of a
selected bucket, and each tree of a selected bucket has the identity of one it gives.
-/

namespace DependencyAudit.Resolution

/-- The names of the selected buckets: those given, or all of the report. -/
def selection (r : Resolution) (buckets : Option (List String)) : List String :=
  buckets.getD r.bucketNames

/-- The trees of the selected buckets, one bucket after the other. -/
def selected (r : Resolution) (buckets : Option (List String)) : List Dependency :=
  (r.selection buckets).flatMap r.bucket

theorem mem_selected {r : Resolution} {buckets : Option (List String)} {d : Dependency} :
    d ∈ r.selected buckets ↔ ∃ name ∈ r.selection buckets, d ∈ r.bucket name :=
  List.mem_flatMap

/-! ## The first of each identity -/

theorem mem_of_mem_firstOfEach {seen : List String} {ds : List Dependency} {d : Dependency}
    (h : d ∈ firstOfEach seen ds) : d ∈ ds := by
  induction ds generalizing seen with
  | nil => exact h
  | cons e ds ih =>
    simp only [firstOfEach] at h
    split at h
    · exact List.mem_cons_of_mem e (ih h)
    · rcases List.mem_cons.mp h with rfl | h
      · exact List.mem_cons_self
      · exact List.mem_cons_of_mem e (ih h)

/-- A node is passed over only if its identity was seen or a node of that identity is kept. -/
theorem kept_or_seen {seen : List String} {ds : List Dependency} {d : Dependency} (h : d ∈ ds) :
    d.identity ∈ seen ∨ ∃ k ∈ firstOfEach seen ds, k.identity = d.identity := by
  induction ds generalizing seen with
  | nil => exact absurd h List.not_mem_nil
  | cons e ds ih =>
    simp only [firstOfEach]
    split
    · rename_i hseen
      rw [List.contains_iff_mem] at hseen
      rcases List.mem_cons.mp h with rfl | h
      · exact Or.inl hseen
      · exact ih h
    · rcases List.mem_cons.mp h with rfl | h
      · exact Or.inr ⟨d, List.mem_cons_self, rfl⟩
      · -- behind `e` its identity counts as seen
        rcases @ih (e.identity :: seen) h with hid | ⟨k, hk, hid⟩
        · rcases List.mem_cons.mp hid with hid | hid
          · exact Or.inr ⟨e, List.mem_cons_self, hid.symm⟩
          · exact Or.inl hid
        · exact Or.inr ⟨k, List.mem_cons_of_mem e hk, hid⟩

/-! ## Selecting -/

section

variable {r : Resolution} {buckets : Option (List String)} {kept : List Dependency}

theorem firstLevel_eq_ok_iff :
    r.firstLevel buckets = .ok kept ↔
      (∀ name ∈ r.selection buckets, name ∈ r.bucketNames) ∧
        kept = firstOfEach [] (r.selected buckets) := by
  have hknown : ((r.selection buckets).filter fun n => !r.bucketNames.contains n) = [] ↔
      ∀ name ∈ r.selection buckets, name ∈ r.bucketNames := by
    simp [List.filter_eq_nil_iff]
  rw [← hknown]
  unfold firstLevel
  refine ⟨?_, ?_⟩
  · intro h
    dsimp only at h
    split at h
    · rename_i hnone
      exact ⟨hnone, (Except.ok.inj h).symm⟩
    · cases h
  · intro hparts
    obtain ⟨hnone, rfl⟩ := hparts
    exact if_pos hnone

theorem mem_selected_of_mem_firstLevel (h : r.firstLevel buckets = .ok kept) {k : Dependency}
    (hk : k ∈ kept) : k ∈ r.selected buckets := by
  obtain ⟨_, rfl⟩ := firstLevel_eq_ok_iff.mp h
  exact mem_of_mem_firstOfEach hk

theorem exists_kept_of_mem_selected (h : r.firstLevel buckets = .ok kept) {d : Dependency}
    (hd : d ∈ r.selected buckets) : ∃ k ∈ kept, k.identity = d.identity := by
  obtain ⟨_, rfl⟩ := firstLevel_eq_ok_iff.mp h
  exact (kept_or_seen hd).resolve_left List.not_mem_nil

end

end DependencyAudit.Resolution
