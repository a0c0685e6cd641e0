import DependencyAudit.Proofs.Equality
import DependencyAudit.Proofs.Provenance
import DependencyAudit.Proofs.RoundTrip
import DependencyAudit.Proofs.Written
import Mathlib.Data.List.Basic

/-!
What the identity of a node tells about it. Nodes of one identity are duplicates to a selection of
buckets and to a visit, so only the first of them counts. The identity of a project is its path
behind a word, and that of a module is what is written for it; two projects, or two modules, of one
identity are the same (`Named.identity_eq_iff`).

A module may be called like a project, though, since blanks and any other characters may stand in
its name. Then the project is passed over for the module (`module_hides_project`).

Main statement: `told_apart_iff`. In an accepted report nodes of one identity are the same project
or the same module exactly if no module is written like the identity of a project, and then nothing
is passed over but for a node of the same project or module.
-/

namespace DependencyAudit

namespace Dependency

/-- The nodes are projects of one path, or modules of one coordinate. -/
def SameSubject (d e : Dependency) : Prop :=
  (∃ path ∈ d.projectPath, e.projectPath = some path) ∨
    d.projectPath = none ∧ e.projectPath = none ∧ ∃ c ∈ d.coordinate, e.coordinate = some c

/-- The one node is a module that is written like the identity of the other, a project. -/
def Imitates (d e : Dependency) : Prop :=
  d.projectPath = none ∧ ∃ c ∈ d.coordinate, ∃ path ∈ e.projectPath, c.text = "project " ++ path

instance (d e : Dependency) : Decidable (d.SameSubject e) := by
  unfold SameSubject
  infer_instance

instance (d e : Dependency) : Decidable (d.Imitates e) := by
  unfold Imitates
  infer_instance

/-- The node is a project, or a module whose name was read. -/
inductive Named (d : Dependency) : Prop where
  | project {path : String} : d.projectPath = some path → Named d
  | module {written : String} {c : Coordinate} : d.projectPath = none → d.coordinate = some c →
      Coordinate.parse? written = some c → Named d

variable {d e : Dependency}

theorem identity_of_project {path : String} (h : d.projectPath = some path) :
    d.identity = "project " ++ path := by
  rw [identity, h]

theorem identity_of_module {c : Coordinate} (h : d.projectPath = none)
    (hc : d.coordinate = some c) : d.identity = c.text := by
  rw [identity, h, hc]

theorem SameSubject.identity_eq (h : d.SameSubject e) : d.identity = e.identity := by
  rcases h with ⟨path, hd, he⟩ | ⟨hd, he, c, hdc, hec⟩
  · rw [identity_of_project hd, identity_of_project he]
  · rw [identity_of_module hd hdc, identity_of_module he hec]

theorem Imitates.identity_eq (h : d.Imitates e) : d.identity = e.identity := by
  obtain ⟨hd, c, hc, path, hpath, htext⟩ := h
  rw [identity_of_module hd hc, identity_of_project hpath, htext]

theorem Imitates.not_sameSubject (h : d.Imitates e) : ¬ d.SameSubject e := by
  obtain ⟨hd, _, _, path, hpath, _⟩ := h
  rintro (⟨_, hproject, _⟩ | ⟨_, he, _⟩)
  · rw [hd] at hproject
    cases hproject
  · rw [he] at hpath
    cases hpath

/-- Two nodes have one identity exactly if they are the same project or module, or the one is a
module that imitates the other. -/
theorem Named.identity_eq_iff (hd : d.Named) (he : e.Named) :
    d.identity = e.identity ↔ d.SameSubject e ∨ d.Imitates e ∨ e.Imitates d := by
  refine ⟨?_, ?_⟩
  · intro h
    cases hd with
    | @project path hd =>
      rw [identity_of_project hd] at h
      cases he with
      | @project path' he =>
        rw [identity_of_project he, String.append_right_inj] at h
        exact Or.inl (Or.inl ⟨path, hd, h ▸ he⟩)
      | @module _ c' he hc' _ =>
        rw [identity_of_module he hc'] at h
        exact Or.inr (Or.inr ⟨he, c', hc', path, hd, h.symm⟩)
    | @module _ c hd hc hread =>
      rw [identity_of_module hd hc] at h
      cases he with
      | @project path' he =>
        rw [identity_of_project he] at h
        exact Or.inr (Or.inl ⟨hd, c, hc, path', he, h⟩)
      | module he hc' hread' =>
        rw [identity_of_module he hc'] at h
        -- both were read, so what is written for them tells them apart
        rw [← Coordinate.eq_of_text_eq hread hread' h] at hc'
        exact Or.inl (Or.inr ⟨hd, he, c, hc, hc'⟩)
  · rintro (h | h | h)
    · exact h.identity_eq
    · exact h.identity_eq
    · exact h.identity_eq.symm

end Dependency

/-! ## Nodes of accepted reports -/

namespace Entry

variable {base : Path} {x : Entry} {c : Coordinate}

/-- An entry without a project names a module that can be read. -/
theorem exists_parse_of_coordinate (h : x.coordinate = .ok c) (hproject : x.project = none) :
    ∃ written, Coordinate.parse? written = some c := by
  obtain ⟨moduleName, project, artifacts, below⟩ := x
  obtain rfl : project = none := hproject
  cases moduleName with
  | none => cases h
  | some written =>
    simp only [coordinate] at h
    split at h
    · cases h
    · split at h
      · cases h
      · rename_i hparse
        exact ⟨written, hparse.trans (congrArg some (Except.ok.inj h))⟩

theorem named_of_resolve {d : Dependency} (h : resolve base x = .ok d) : d.Named := by
  obtain ⟨moduleName, project, artifacts, below⟩ := x
  obtain ⟨c, children, hc, _, rfl⟩ := resolve_eq_ok_iff.mp h
  cases project with
  | some path => exact .project rfl
  | none =>
    obtain ⟨written, hparse⟩ := exists_parse_of_coordinate hc rfl
    exact .module rfl rfl hparse

end Entry

namespace Resolution

open Dependency

variable {content : List Char} {base : Path} {r : Resolution}

/-- Nodes of one identity, at any depth of any buckets, are the same project or module. -/
def ToldApart (r : Resolution) : Prop :=
  ∀ d, Occurs (r.selected none) d → ∀ e, Occurs (r.selected none) e →
    d.identity = e.identity → d.SameSubject e

/-- For whatever a selection of buckets passes over, and whatever a visit passes over, a node of
the same project or module is kept or visited. -/
def KeepsSubjects (r : Resolution) : Prop :=
  ∀ buckets kept, r.firstLevel buckets = .ok kept →
    (∀ d ∈ r.selected buckets, ∃ k ∈ kept, k.SameSubject d) ∧
    (∀ d ∈ kept, ∃ v ∈ visit kept, v.SameSubject d) ∧
    ∀ v ∈ visit kept, ∀ d ∈ v.children, ∃ w ∈ visit kept, w.SameSubject d

theorem named_of_occurs (h : parse content base = .ok r) {d : Dependency}
    (hd : Occurs (r.selected none) d) : d.Named := by
  unfold parse at h
  split at h
  · cases h
  · obtain ⟨x, _, hread⟩ := exists_entry_of_occurs h hd
    exact Entry.named_of_resolve hread

/-- What a selection comes to is a part of what all buckets hold. -/
theorem mem_selected_none {buckets : Option (List String)} {kept : List Dependency}
    (h : r.firstLevel buckets = .ok kept) {d : Dependency} (hd : d ∈ r.selected buckets) :
    d ∈ r.selected none := by
  obtain ⟨hknown, _⟩ := firstLevel_eq_ok_iff.mp h
  obtain ⟨name, hname, hd⟩ := mem_selected.mp hd
  exact mem_selected.mpr ⟨name, hknown name hname, hd⟩

theorem ToldApart.keepsSubjects (h : r.ToldApart) : r.KeepsSubjects := by
  intro buckets kept hkept
  have hall : ∀ d ∈ r.selected buckets, d ∈ r.selected none :=
    fun _ => mem_selected_none hkept
  have hroots : ∀ k ∈ kept, k ∈ r.selected none :=
    fun k hk => hall k (mem_selected_of_mem_firstLevel hkept hk)
  have hvisited : ∀ v ∈ visit kept, Occurs (r.selected none) v :=
    fun v hv => (occurs_of_mem_visit hv).mono hroots
  refine ⟨?_, ?_, ?_⟩
  · intro d hd
    obtain ⟨k, hk, hid⟩ := exists_kept_of_mem_selected hkept hd
    exact ⟨k, hk, h k (.root (hroots k hk)) d (.root (hall d hd)) hid⟩
  · intro d hd
    obtain ⟨v, hv, hid⟩ := root_visited hd
    exact ⟨v, hv, h v (hvisited v hv) d (.root (hroots d hd)) hid⟩
  · intro v hv d hd
    obtain ⟨w, hw, hid⟩ := child_visited hv hd
    exact ⟨w, hw, h w (hvisited w hw) d (.child (hvisited v hv) hd) hid⟩

/-- For every accepted report: nodes of one identity are the same project or module exactly if no
module is written like the identity of a project, and then nothing is passed over but for a node
of the same project or module. -/
theorem told_apart_iff (h : parse content base = .ok r) :
    (r.ToldApart ↔ ∀ d, Occurs (r.selected none) d → ∀ e, Occurs (r.selected none) e →
      ¬ d.Imitates e) ∧
    (r.ToldApart → r.KeepsSubjects) := by
  refine ⟨⟨?_, ?_⟩, ToldApart.keepsSubjects⟩
  · intro hapart d hd e he himitates
    exact himitates.not_sameSubject (hapart d hd e he himitates.identity_eq)
  · intro hnone d hd e he hid
    have hcases := ((named_of_occurs h hd).identity_eq_iff (named_of_occurs h he)).mp hid
    rcases hcases with hsame | himitates | himitates
    · exact hsame
    · exact absurd himitates (hnone d hd e he)
    · exact absurd himitates (hnone e he d hd)

/-! ## Modules beside projects

A project is pulled in by a module and declared under a name of its own, and a module has the name
of the project behind a word. The two differ by a colon, or they do not. -/

open Written

def libraryEntry : Entry where
  moduleName := some "g:lib:2"
  project := some ":lib"
  artifacts := [⟨none, none, ["x.X"]⟩]

def libraryNode : Dependency where
  sources := [⟨.project ":lib" ⟨"g", "lib", "2"⟩, none, ["x.X"]⟩]
  coordinate := some ⟨"g", "lib", "2"⟩
  projectPath := some ":lib"

/-- A report with a module of the given name, and with the project below it and behind it. -/
def namesakeReport (written : String) : Report where
  project := some ":app"
  buckets := [
    ("main", [moduleEntry written [] [moduleEntry "g:c:1" ["x.X"] [libraryEntry]]]),
    ("test", [libraryEntry])]

/-- What the report is read as, for a module of the given coordinate. -/
def namesakeResolution (c : Coordinate) : Resolution where
  projectPath := some ":app"
  buckets := [
    ("main", [moduleNode c [] [moduleNode ⟨"g", "c", "1"⟩ ["x.X"] [libraryNode]]]),
    ("test", [libraryNode])]

theorem namesake_told_apart :
    parse (namesakeReport "project lib").written ⟨.here, []⟩ =
      .ok (namesakeResolution ⟨"", "project lib", ""⟩) ∧
    (namesakeResolution ⟨"", "project lib", ""⟩).ToldApart ∧
    (namesakeResolution ⟨"", "project lib", ""⟩).KeepsSubjects := by
  have hread : parse (namesakeReport "project lib").written ⟨.here, []⟩ =
      .ok (namesakeResolution ⟨"", "project lib", ""⟩) := by
    decide +kernel
  obtain ⟨happart, hkeeps⟩ := told_apart_iff hread
  have h : (namesakeResolution ⟨"", "project lib", ""⟩).ToldApart := happart.mpr (by decide)
  exact ⟨hread, h, hkeeps h⟩

theorem module_hides_project :
    (¬ ∀ content base r, parse content base = .ok r → r.ToldApart) ∧
    ¬ ∀ content base r, parse content base = .ok r → r.KeepsSubjects := by
  have hread : parse (namesakeReport "project :lib").written ⟨.here, []⟩ =
      .ok (namesakeResolution ⟨"project ", "lib", ""⟩) := by
    decide +kernel
  refine ⟨?_, ?_⟩
  · intro happart
    have himitates : (moduleNode ⟨"project ", "lib", ""⟩ []
        [moduleNode ⟨"g", "c", "1"⟩ ["x.X"] [libraryNode]]).Imitates libraryNode := by
      decide
    refine himitates.not_sameSubject (happart _ _ _ hread _ (.root ?_) _ (.root ?_)
      himitates.identity_eq)
    · decide
    · decide
  · intro hkeeps
    -- the module is kept, and the project that comes behind it is not
    have hkept : (namesakeResolution ⟨"project ", "lib", ""⟩).firstLevel none =
        .ok [moduleNode ⟨"project ", "lib", ""⟩ []
          [moduleNode ⟨"g", "c", "1"⟩ ["x.X"] [libraryNode]]] := by
      decide
    obtain ⟨hselected, _⟩ := hkeeps _ _ _ hread none _ hkept
    obtain ⟨k, hk, hsame⟩ := hselected libraryNode (by decide)
    obtain rfl := List.mem_singleton.mp hk
    exact absurd hsame (by decide)

end Resolution

end DependencyAudit
