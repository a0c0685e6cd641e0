import DependencyAudit.Audit
import DependencyAudit.Proofs.ClassIndex
import DependencyAudit.Proofs.Equality
import DependencyAudit.Proofs.Reconciliation
import DependencyAudit.Proofs.Selection
import DependencyAudit.Proofs.Visit
import DependencyAudit.Proofs.Written

/-!
Audits from their configuration to their verdict. An audit reaches a verdict exactly if
everything it needs can be gathered (`Gathers`), and the verdict is then a function of what was
gathered (`verdictOn`).

Main statement: `verdict_accounted`. Each artifact of a violation occurs strictly below a
first-level dependency, is listed there with a referenced class, and is excused by nothing. If
there is no violation, the unresolved classes are those that no visited node provides, and every
other class has a provider that excuses it.
-/

namespace DependencyAudit

open Inspection Written

/-- Some first-level dependency contributes the artifact itself. -/
def Declares (firstLevel : List Dependency) (a : Artifact) : Prop :=
  ∃ d ∈ firstLevel, a ∈ d.artifacts

theorem Material.mem_declared {m : Material} {a : Artifact} :
    a ∈ m.declared ↔ Declares m.firstLevel a := by
  rw [declared, List.mem_eraseDups, List.mem_flatMap]
  exact Iff.rfl

theorem Dependency.mem_artifacts {d : Dependency} {a : Artifact} :
    a ∈ d.artifacts ↔ ∃ s ∈ d.sources, s.artifact = a :=
  List.mem_map

namespace Audit

variable {disk : Disk} {c : Config} {m : Material} {s : Setting} {referenced : List String}

/-- What an audit has gathered when it comes to reconcile: the report, the first-level
dependencies of the selected buckets, the index of their trees, the setting, and the classes
that the compiled output refers to. -/
structure Gathers (disk : Disk) (c : Config) (m : Material) (s : Setting)
    (referenced : List String) : Prop where
  report : (Resolution.load c.resolution).outcome disk = .ok m.resolution
  firstLevel : m.resolution.firstLevel c.buckets = .ok m.firstLevel
  index : (ClassIndex.build m.firstLevel).outcome disk = .ok m.index
  setting : setting c m.resolution = .ok s
  references : (Reference.classes c.outputs).outcome disk = .ok referenced

/-- The verdict on what was gathered. -/
def verdictOn (m : Material) (s : Setting) (referenced : List String) : Verdict :=
  match Violation.of? s (Reconciliation.undeclared referenced m.index.providers m.declared s
    Artifact.displayName) with
  | some violation => .violated violation
  | none => .passed ⟨s.projectPath, m.declared.length, referenced.length,
      referenced.filter fun name => !m.index.contains name⟩

/-! ## The course of an audit -/

theorem outcome_load_iff :
    (Material.load c).outcome disk = .ok m ↔
      (Resolution.load c.resolution).outcome disk = .ok m.resolution ∧
      m.resolution.firstLevel c.buckets = .ok m.firstLevel ∧
      (ClassIndex.build m.firstLevel).outcome disk = .ok m.index := by
  refine ⟨?_, ?_⟩
  · intro h
    obtain ⟨r, hr, h⟩ := outcome_bind_eq_ok.mp h
    obtain ⟨kept, hkept, h⟩ := outcome_bind_eq_ok.mp h
    obtain ⟨index, hindex, h⟩ := outcome_bind_eq_ok.mp h
    obtain rfl := Except.ok.inj h
    rw [outcome_ofExcept] at hkept
    exact ⟨hr, hkept, hindex⟩
  · intro hparts
    obtain ⟨hr, hkept, hindex⟩ := hparts
    refine outcome_bind_eq_ok.mpr ⟨m.resolution, hr, ?_⟩
    refine outcome_bind_eq_ok.mpr ⟨m.firstLevel, (outcome_ofExcept _).trans hkept, ?_⟩
    exact outcome_bind_eq_ok.mpr ⟨m.index, hindex, rfl⟩

theorem outcome_conclude (disk : Disk) (m : Material) (s : Setting) (referenced : List String) :
    (conclude s m referenced).outcome disk = .ok (verdictOn m s referenced) := by
  have hcheck := Reconciliation.outcome_check referenced m.index.providers m.declared s
    Artifact.displayName disk
  refine (outcome_bind_of_ok (outcome_log _) _).trans ((outcome_bind_of_ok hcheck _).trans ?_)
  unfold verdictOn
  cases Violation.of? s (Reconciliation.undeclared referenced m.index.providers m.declared s
    Artifact.displayName) <;> rfl

/-- An audit reaches a verdict exactly if everything can be gathered, and that verdict is the one
on what was gathered. -/
theorem outcome_run_iff {v : Verdict} :
    (run c).outcome disk = .ok v ↔
      ∃ m s referenced, Gathers disk c m s referenced ∧ v = verdictOn m s referenced := by
  refine ⟨?_, ?_⟩
  · intro h
    obtain ⟨m, hm, h⟩ := outcome_bind_eq_ok.mp h
    obtain ⟨s, hs, h⟩ := outcome_bind_eq_ok.mp h
    obtain ⟨referenced, href, h⟩ := outcome_bind_eq_ok.mp h
    rw [outcome_ofExcept] at hs
    obtain ⟨hr, hkept, hindex⟩ := outcome_load_iff.mp hm
    rw [outcome_conclude] at h
    exact ⟨m, s, referenced, ⟨hr, hkept, hindex, hs, href⟩, (Except.ok.inj h).symm⟩
  · intro hparts
    obtain ⟨m, s, referenced, g, rfl⟩ := hparts
    have hm := outcome_load_iff.mpr ⟨g.report, g.firstLevel, g.index⟩
    refine outcome_bind_eq_ok.mpr ⟨m, hm, ?_⟩
    refine outcome_bind_eq_ok.mpr ⟨s, (outcome_ofExcept _).trans g.setting, ?_⟩
    exact outcome_bind_eq_ok.mpr ⟨referenced, g.references, outcome_conclude disk m s referenced⟩

theorem Gathers.outcome_run (g : Gathers disk c m s referenced) :
    (run c).outcome disk = .ok (verdictOn m s referenced) :=
  outcome_run_iff.mpr ⟨m, s, referenced, g, rfl⟩

theorem outcome_run_of_no_setting {e : Failure} (hm : (Material.load c).outcome disk = .ok m)
    (hs : Audit.setting c m.resolution = .error e) : (run c).outcome disk = .error e := by
  refine (outcome_bind_of_ok hm _).trans ?_
  exact outcome_bind_of_error ((outcome_ofExcept _).trans hs) _

/-- Every file of a node of the trees is absent or can be listed. -/
def AllListable (disk : Disk) (trees : List Dependency) : Prop :=
  ∀ d, Dependency.Occurs trees d → ∀ src ∈ d.sources, src.Listable disk

instance (disk : Disk) (trees : List Dependency) : Decidable (AllListable disk trees) := by
  unfold AllListable
  infer_instance

/-- The first-level dependencies of buckets whose files can all be listed have an index. -/
theorem AllListable.exists_index {r : Resolution} {buckets : Option (List String)}
    {kept : List Dependency} (h : AllListable disk (r.selected buckets))
    (hkept : r.firstLevel buckets = .ok kept) :
    ∃ index, (ClassIndex.build kept).outcome disk = .ok index := by
  refine ClassIndex.build_succeeds_iff.mpr fun d hd => h d ?_
  refine (Dependency.occurs_of_mem_visit hd).mono ?_
  exact fun _ => Resolution.mem_selected_of_mem_firstLevel hkept

theorem Gathers.ignore_eq (g : Gathers disk c m s referenced) : s.ignore = c.ignore := by
  have h := g.setting
  unfold Audit.setting at h
  split at h
  · cases h
  · obtain rfl := Except.ok.inj h
    rfl

theorem pairwise_of_classes {outputs : List Path}
    (h : (Reference.classes outputs).outcome disk = .ok referenced) :
    referenced.Pairwise (· < ·) := by
  obtain ⟨found, _, h⟩ := outcome_bind_eq_ok.mp h
  obtain rfl := Except.ok.inj h
  exact Ascending.pairwise_strings found

/-! ## The two verdicts -/

theorem verdictOn_eq_violated {w : Violation} (h : verdictOn m s referenced = .violated w) :
    w.artifacts ≠ [] ∧
      w.artifacts = Reconciliation.undeclared referenced m.index.providers m.declared s
        Artifact.displayName := by
  unfold verdictOn at h
  split at h
  · rename_i v hv
    obtain rfl := Verdict.violated.inj h
    have hne := Reconciliation.isSome_of?.mp (Option.isSome_iff_exists.mpr ⟨v, hv⟩)
    rw [Reconciliation.eq_of_of?_eq_some hv]
    exact ⟨hne, rfl⟩
  · cases h

theorem verdictOn_eq_passed {sum : Summary} (h : verdictOn m s referenced = .passed sum) :
    Reconciliation.undeclared referenced m.index.providers m.declared s Artifact.displayName = [] ∧
      sum.unresolved = referenced.filter fun name => !m.index.contains name := by
  unfold verdictOn at h
  split at h
  · cases h
  · rename_i hnone
    obtain rfl := Verdict.passed.inj h
    exact ⟨Reconciliation.of?_eq_none_iff.mp hnone, rfl⟩

theorem verdictOn_of_nil
    (h : Reconciliation.undeclared referenced m.index.providers m.declared s
      Artifact.displayName = []) : ∃ sum, verdictOn m s referenced = .passed sum := by
  have hnone := Reconciliation.of?_eq_none_iff (s := s).mpr h
  unfold verdictOn
  rw [hnone]
  exact ⟨_, rfl⟩

/-- An undeclared artifact that a visited node lists is listed strictly below a root. -/
theorem listed_below (g : Gathers disk c m s referenced) {a : Artifact} {name : String}
    (hmem : a ∈ m.index.providers name) (hdecl : ¬ Declares m.firstLevel a) :
    ∃ root ∈ m.firstLevel, ∃ d, Dependency.Occurs root.children d ∧
      ∃ src ∈ d.sources, src.artifact = a ∧ src.Provides disk name := by
  obtain ⟨d, hd, src, hsrc, rfl, hprov⟩ := (ClassIndex.mem_providers_of_build g.index).mp hmem
  rcases (Dependency.occurs_of_mem_visit hd).root_or_below with hroot | ⟨root, hroot, hbelow⟩
  · -- what a root lists is declared
    exact absurd ⟨d, hroot, Dependency.mem_artifacts.mpr ⟨src, hsrc, rfl⟩⟩ hdecl
  · exact ⟨root, hroot, d, hbelow, src, hsrc, rfl, hprov⟩

theorem excuses_iff (g : Gathers disk c m s referenced) {a : Artifact} :
    s.excuses m.declared a ↔
      Declares m.firstLevel a ∨ a.isOutputOf s.projectPath ∨ a.ignoreIdentity ∈ c.ignore := by
  rw [Reconciliation.excuses_iff, g.ignore_eq, Material.mem_declared]
  exact or_assoc.symm.trans or_comm

/-! ## What a verdict accounts for -/

/-- Why an artifact is reported: a node strictly below a first-level dependency lists it with a
referenced class, and nothing excuses it. -/
structure Blamed (disk : Disk) (c : Config) (m : Material) (s : Setting)
    (referenced : List String) (a : Artifact) : Prop where
  listed : ∃ root ∈ m.firstLevel, ∃ d, Dependency.Occurs root.children d ∧
    ∃ src ∈ d.sources, src.artifact = a ∧ ∃ name ∈ referenced, src.Provides disk name
  undeclared : ¬ Declares m.firstLevel a
  foreign : ¬ a.isOutputOf s.projectPath
  unignored : a.ignoreIdentity ∉ c.ignore

/-- What passing means for the referenced classes: the unresolved ones, in strictly ascending
order, are those that no source of a visited node provides, and every other has a provider in
the index that is declared, the project's own output, or ignored. -/
structure Settled (disk : Disk) (c : Config) (m : Material) (s : Setting)
    (referenced unresolved : List String) : Prop where
  ascending : unresolved.Pairwise (· < ·)
  unprovided : ∀ name, name ∈ unresolved ↔ name ∈ referenced ∧
    ∀ d ∈ Dependency.visit m.firstLevel, ∀ src ∈ d.sources, ¬ src.Provides disk name
  excused : ∀ name ∈ referenced, name ∉ unresolved → ∃ a ∈ m.index.providers name,
    Declares m.firstLevel a ∨ a.isOutputOf s.projectPath ∨ a.ignoreIdentity ∈ c.ignore

theorem blamed_of_undeclared (g : Gathers disk c m s referenced) {a : Artifact}
    (h : a ∈ Reconciliation.undeclared referenced m.index.providers m.declared s
      Artifact.displayName) : Blamed disk c m s referenced a := by
  obtain ⟨name, hname, hexc, hmem, _⟩ := Reconciliation.mem_undeclared.mp h
  -- the artifact is a candidate itself, and no candidate excuses the class
  have hnot := hexc a hmem
  rw [excuses_iff g, not_or, not_or] at hnot
  obtain ⟨hdecl, hself, hignored⟩ := hnot
  obtain ⟨root, hroot, d, hd, src, hsrc, hart, hprov⟩ := listed_below g hmem hdecl
  exact ⟨⟨root, hroot, d, hd, src, hsrc, hart, name, hname, hprov⟩, hdecl, hself, hignored⟩

theorem settled_of_passed (g : Gathers disk c m s referenced)
    (h : Reconciliation.undeclared referenced m.index.providers m.declared s
      Artifact.displayName = []) :
    Settled disk c m s referenced (referenced.filter fun name => !m.index.contains name) := by
  have hmem : ∀ name, name ∈ referenced.filter (fun name => !m.index.contains name) ↔
      name ∈ referenced ∧ ¬ m.index.contains name := by
    intro name
    rw [List.mem_filter, Bool.not_eq_true', Bool.not_eq_true]
  refine ⟨(pairwise_of_classes g.references).filter _, ?_, ?_⟩
  · intro name
    rw [hmem, ClassIndex.contains_of_build g.index]
    simp only [not_exists, not_and]
  · intro name hname hin
    have hcontains : m.index.contains name := by
      by_cases hc : m.index.contains name
      · exact hc
      · exact absurd ((hmem name).mpr ⟨hname, hc⟩) hin
    obtain ⟨a, ha⟩ := (ClassIndex.contains_iff_of_build g.index).mp hcontains
    obtain ⟨b, hb, hexc⟩ := (Reconciliation.undeclared_eq_nil_iff _).mp h name hname a ha
    exact ⟨b, hb, (excuses_iff g).mp hexc⟩

theorem verdict_accounted (g : Gathers disk c m s referenced) :
    ∃ verdict, (run c).outcome disk = .ok verdict ∧
      (∀ w, verdict = .violated w →
        w.artifacts ≠ [] ∧ ∀ a ∈ w.artifacts, Blamed disk c m s referenced a) ∧
      ∀ sum, verdict = .passed sum → Settled disk c m s referenced sum.unresolved := by
  refine ⟨verdictOn m s referenced, g.outcome_run, ?_, ?_⟩
  · intro w hw
    obtain ⟨hne, hfound⟩ := verdictOn_eq_violated hw
    rw [hfound] at hne ⊢
    exact ⟨hne, fun a ha => blamed_of_undeclared g ha⟩
  · intro sum hsum
    obtain ⟨hnone, hunresolved⟩ := verdictOn_eq_passed hsum
    rw [hunresolved]
    exact settled_of_passed g hnone

/-! ## An audit that blames what comes in from below

The project declares `b`, whose classes lie in a jar. Below `b` there are `c`, whose classes lie in
a directory, another version of `b`, and the output of the project itself. The project uses a class
that both versions of `b` provide, one that only the other version does, one of `c`, one of its own,
and one that nobody provides. The ignore list names `b`, so `c` alone is to blame. -/

def transitiveReport : Report where
  project := some ":app"
  buckets := [("main", [
    { moduleName := some "g:b:1"
      artifacts := [⟨some "b.jar", none, []⟩]
      dependencies := [directoryEntry "g:c:1", moduleEntry "g:b:2" ["b.B", "b.New"] [],
        { project := some ":app", artifacts := [⟨none, none, ["app.Main"]⟩] }] }])]

def transitiveUse : List Char := "d.D\nc.C\nb.B\nb.New\napp.Main\nc.C".toList

/-- The jar of `b` and the directory of `c`. -/
def transitiveFiles : List (String × Node) :=
  [("b.jar", .file (bareJar ["b/", "b/B.class"])),
    ("out", .directory [("c", .directory [("C.class", .file [])])])]

def transitiveDisk : Disk := rootDisk transitiveReport transitiveUse transitiveFiles

def transitiveConfig : Config := { rootConfig with ignore := ["g:b"] }

def transitiveMaterial : Material :=
  let b : Coordinate := ⟨"g", "b", "1"⟩
  let c : Coordinate := ⟨"g", "c", "1"⟩
  let newer : Coordinate := ⟨"g", "b", "2"⟩
  let app : Coordinate := ⟨"", "app", ""⟩
  let own : Artifact := .project ":app" app
  let root : Dependency :=
    { sources := [⟨.external b none, some ⟨.root, ["b.jar"]⟩, []⟩]
      children := [directoryNode c, moduleNode newer ["b.B", "b.New"] [],
        { sources := [⟨own, none, ["app.Main"]⟩]
          coordinate := some app
          projectPath := some ":app" }]
      coordinate := some b }
  { resolution := { projectPath := some ":app", buckets := [("main", [root])] }
    firstLevel := [root]
    index :=
      { table := [("b.B", [.external b none, .external newer none]), ("c.C", [.external c none]),
          ("b.New", [.external newer none]), ("app.Main", [own])]
        added := [.external b none, .external c none, .external newer none, own] } }

theorem transitive_gathers :
    Gathers transitiveDisk transitiveConfig transitiveMaterial
      { projectPath := ":app", ignore := ["g:b"] } ["app.Main", "b.B", "b.New", "c.C", "d.D"] where
  report := by decide +kernel
  firstLevel := by decide +kernel
  index := by decide +kernel
  setting := by decide +kernel
  references := by decide +kernel

/-- `c` is blamed, and only `c`. The output of the project lies below a dependency as well. -/
theorem transitive_use_accounted :
    ∃ w, (run transitiveConfig).outcome transitiveDisk = .ok (.violated w) ∧
      w.artifacts = [.external ⟨"g", "c", "1"⟩ none] ∧
      Blamed transitiveDisk transitiveConfig transitiveMaterial
        { projectPath := ":app", ignore := ["g:b"] } ["app.Main", "b.B", "b.New", "c.C", "d.D"]
        (.external ⟨"g", "c", "1"⟩ none) ∧
      transitiveMaterial.index.providers "app.Main" = [.project ":app" ⟨"", "app", ""⟩] := by
  have hrun : (run transitiveConfig).outcome transitiveDisk = .ok (.violated
      { artifacts := [.external ⟨"g", "c", "1"⟩ none]
        buildFile := "build.gradle"
        suggestion := "    dependencies \x7b\n    implementation 'g:c'\n    \x7d" }) := by
    decide +kernel
  obtain ⟨verdict, hverdict, hviolated, _⟩ := verdict_accounted transitive_gathers
  obtain rfl := Except.ok.inj (hrun.symm.trans hverdict)
  exact ⟨_, hrun, rfl, (hviolated _ rfl).2 _ List.mem_cons_self, rfl⟩

end Audit

end DependencyAudit
