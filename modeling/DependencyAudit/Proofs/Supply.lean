import DependencyAudit.ClassIndex
import DependencyAudit.Proofs.Ascending
import DependencyAudit.Proofs.Outcome

/-!
What a source supplies on a disk. A source provides the classes it names and, where its jar or
class directory can be listed, the classes found there (`Provides`). Its supply can be found
exactly if that file is absent or can be listed (`supply_succeeds_iff`), and then holds exactly
what the source provides, under the source's artifact (`mem_supply_iff`).
-/

namespace DependencyAudit

open Inspection

/-- The classes that the jar or class directory at a path holds, if they can be listed. -/
def Disk.Lists (disk : Disk) (p : Path) (names : List String) : Prop :=
  (listClasses p).outcome disk = .ok names

/-- Nothing is at the path. -/
def Disk.Absent (disk : Disk) (p : Path) : Prop := (doesExist p).outcome disk = .ok false

namespace Source

/-- The source names the class, or the listing of its file does. -/
def Provides (s : Source) (disk : Disk) (name : String) : Prop :=
  name ∈ s.classes ∨ ∃ p names, s.file = some p ∧ disk.Lists p names ∧ name ∈ names

/-- The source's file, if it has one, is absent or can be listed. -/
def Listable (s : Source) (disk : Disk) : Prop :=
  ∀ p, s.file = some p → disk.Absent p ∨ ∃ names, disk.Lists p names

end Source

variable {disk : Disk}

/-! ## What can be listed is there -/

theorem Disk.Lists.exists {p : Path} {names : List String} (h : disk.Lists p names) :
    (doesExist p).outcome disk = .ok true := by
  cases hkind : disk.kind p with
  | ok k => exact outcome_isKind_of_ok hkind
  | error o =>
    have hdir : (isDirectory p).outcome disk ≠ .ok true := not_isKind_of_error hkind
    obtain ⟨isDir, hisDir, h⟩ := outcome_bind_eq_ok.mp h
    cases isDir with
    | true => exact absurd hisDir hdir
    | false =>
      -- what is not a directory is read, and only what is there can be
      obtain ⟨content, hcontent, _⟩ := outcome_bind_eq_ok.mp h
      obtain ⟨k, hk⟩ := kind_of_bytes hcontent
      rw [hkind] at hk
      cases hk

theorem Disk.Absent.not_lists {p : Path} {names : List String} (h : disk.Absent p) :
    ¬ disk.Lists p names := by
  intro hlists
  have htrue := hlists.exists
  rw [h] at htrue
  cases htrue

theorem Disk.Lists.unique {p : Path} {names names' : List String} (h : disk.Lists p names)
    (h' : disk.Lists p names') : names = names' :=
  Except.ok.inj (h.symm.trans h')

/-! ## What lies at a path decides what is listed there -/

theorem outcome_listClasses_congr {disk' : Disk} {p : Path} (h : disk.find p = disk'.find p) :
    (listClasses p).outcome disk = (listClasses p).outcome disk' := by
  have hkind : disk.kind p = disk'.kind p := by rw [Disk.kind, Disk.kind, h]
  have hread : disk.read p = disk'.read p := by rw [Disk.read, Disk.read, h]
  have hbelow : disk.below p = disk'.below p := by rw [Disk.below, Disk.below, h]
  have hdir : (isDirectory p).outcome disk = (isDirectory p).outcome disk' :=
    outcome_isKind_congr hkind
  unfold listClasses
  simp only [bind_eq, outcome_bind, hdir]
  cases (isDirectory p).outcome disk' with
  | error e => rfl
  | ok isDir =>
    cases isDir with
    | true =>
      simp only [outcome_bind, outcome_descendants, hbelow, if_true]
      rfl
    | false =>
      simp only [Bool.false_eq_true, if_false, outcome_bind, outcome_bytes, hread]
      cases disk'.read p with
      | error o => rfl
      | ok content => cases hnames : Archive.names content <;> simp [hnames]

theorem Disk.lists_congr {disk' : Disk} {p : Path} (h : disk.find p = disk'.find p)
    {names : List String} : disk.Lists p names ↔ disk'.Lists p names := by
  unfold Disk.Lists
  rw [outcome_listClasses_congr h]

theorem Disk.absent_congr {disk' : Disk} {p : Path} (h : disk.find p = disk'.find p) :
    disk.Absent p ↔ disk'.Absent p := by
  have hkind : disk.kind p = disk'.kind p := by rw [Disk.kind, Disk.kind, h]
  unfold Disk.Absent doesExist
  rw [outcome_isKind_congr hkind]

/-! ## The supply of a source -/

namespace Source

theorem supply_of_no_file {s : Source} (h : s.file = none) :
    s.supply.outcome disk = .ok ⟨s.artifact, Ascending.strings s.classes⟩ := by
  unfold supply
  rw [h]
  rfl

theorem supply_of_absent {s : Source} {p : Path} (h : s.file = some p) (hp : disk.Absent p) :
    s.supply.outcome disk = .ok ⟨s.artifact, Ascending.strings s.classes⟩ := by
  unfold supply
  rw [h]
  exact outcome_bind_of_ok hp _

theorem supply_of_lists {s : Source} {p : Path} {names : List String} (h : s.file = some p)
    (hp : disk.Lists p names) :
    s.supply.outcome disk = .ok ⟨s.artifact, Ascending.strings (s.classes ++ names)⟩ := by
  unfold supply
  rw [h]
  exact (outcome_bind_of_ok hp.exists _).trans (outcome_bind_of_ok hp _)

/-- A file that is neither absent nor listed stops the supply. -/
theorem listable_of_supply {s : Source} {u : Supply} (h : s.supply.outcome disk = .ok u) :
    s.Listable disk := by
  intro p hp
  unfold supply at h
  rw [hp] at h
  obtain ⟨isThere, hthere, h⟩ := outcome_bind_eq_ok.mp h
  cases isThere with
  | false => exact Or.inl hthere
  | true =>
    obtain ⟨names, hnames, _⟩ := outcome_bind_eq_ok.mp h
    exact Or.inr ⟨names, hnames⟩

/-- A supply holds the classes that the source names, and with them the listing if there is one. -/
theorem supply_cases {s : Source} (h : s.Listable disk) :
    (s.supply.outcome disk = .ok ⟨s.artifact, Ascending.strings s.classes⟩ ∧
      ∀ p names, s.file = some p → ¬ disk.Lists p names) ∨
    ∃ p names, s.file = some p ∧ disk.Lists p names ∧
      s.supply.outcome disk = .ok ⟨s.artifact, Ascending.strings (s.classes ++ names)⟩ := by
  cases hfile : s.file with
  | none => exact Or.inl ⟨supply_of_no_file hfile, fun p names hp => by cases hp⟩
  | some p =>
    rcases h p hfile with habsent | ⟨names, hnames⟩
    · refine Or.inl ⟨supply_of_absent hfile habsent, ?_⟩
      intro q names hq
      obtain rfl : p = q := Option.some.inj hq
      exact habsent.not_lists
    · exact Or.inr ⟨p, names, rfl, hnames, supply_of_lists hfile hnames⟩

theorem supply_succeeds_iff {s : Source} :
    (∃ u, s.supply.outcome disk = .ok u) ↔ s.Listable disk := by
  refine ⟨?_, ?_⟩
  · intro hparts
    obtain ⟨u, hu⟩ := hparts
    exact listable_of_supply hu
  · intro h
    rcases supply_cases h with ⟨hu, _⟩ | ⟨_, _, _, _, hu⟩
    · exact ⟨_, hu⟩
    · exact ⟨_, hu⟩

theorem artifact_of_supply {s : Source} {u : Supply} (h : s.supply.outcome disk = .ok u) :
    u.artifact = s.artifact := by
  rcases supply_cases (listable_of_supply h) with ⟨hu, _⟩ | ⟨_, _, _, _, hu⟩
  · rw [← Except.ok.inj (hu.symm.trans h)]
  · rw [← Except.ok.inj (hu.symm.trans h)]

theorem mem_supply_iff {s : Source} {u : Supply} (h : s.supply.outcome disk = .ok u)
    {name : String} : name ∈ u.classes ↔ s.Provides disk name := by
  rcases supply_cases (listable_of_supply h) with ⟨hu, hnone⟩ | ⟨p, names, hp, hnames, hu⟩
  · rw [← Except.ok.inj (hu.symm.trans h), Ascending.mem_strings]
    refine ⟨Or.inl, ?_⟩
    intro hcase
    rcases hcase with hc | ⟨p, names, hp, hnames, _⟩
    · exact hc
    · exact absurd hnames (hnone p names hp)
  · rw [← Except.ok.inj (hu.symm.trans h), Ascending.mem_strings, List.mem_append]
    refine ⟨?_, ?_⟩
    · intro hcase
      rcases hcase with hc | hc
      · exact Or.inl hc
      · exact Or.inr ⟨p, names, hp, hnames, hc⟩
    · intro hcase
      rcases hcase with hc | ⟨q, names', hq, hnames', hc⟩
      · exact Or.inl hc
      · obtain rfl : p = q := Option.some.inj (hp.symm.trans hq)
        obtain rfl := hnames.unique hnames'
        exact Or.inr hc

/-- Whether a file is absent or can be listed is found out by looking for the supply. -/
instance (s : Source) (disk : Disk) : Decidable (s.Listable disk) :=
  match h : s.supply.outcome disk with
  | .ok _ => .isTrue (listable_of_supply h)
  | .error _ => .isFalse fun hl =>
    have ⟨_, hu⟩ := supply_succeeds_iff.mpr hl
    nomatch h.symm.trans hu

/-- The classes found at a source's file, if they can be listed. -/
def listed (s : Source) (disk : Disk) : List String :=
  match s.file with
  | none => []
  | some p =>
    match (listClasses p).outcome disk with
    | .ok names => names
    | .error _ => []

theorem mem_listed {s : Source} {name : String} :
    name ∈ s.listed disk ↔ ∃ p names, s.file = some p ∧ disk.Lists p names ∧ name ∈ names := by
  unfold listed Disk.Lists
  cases s.file with
  | none => simp
  | some p =>
    cases hp : (listClasses p).outcome disk with
    | error e => simp [hp]
    | ok names => simp [hp]

instance (s : Source) (disk : Disk) (name : String) : Decidable (s.Provides disk name) :=
  decidable_of_iff (name ∈ s.classes ∨ name ∈ s.listed disk) (or_congr Iff.rfl mem_listed)

end Source

end DependencyAudit
