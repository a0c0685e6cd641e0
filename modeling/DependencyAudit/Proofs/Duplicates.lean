import DependencyAudit.Proofs.Audit

/-!
What becomes of a class that an entry of a selected bucket provides, if other nodes have the
identity of that entry. Only the first of them counts as declared, and only the first that is
visited is listed. Where another node takes the entry's place, the class still has a declared
provider as long as that node lists the artifact too (`passes_of_twins`). It need not: a bucket
of tests may well list a dependency with another artifact than the main bucket
(`duplicate_hides_provider`).
-/

namespace DependencyAudit.Audit

open Written

variable {disk : Disk} {c : Config} {r : Resolution} {kept : List Dependency} {d : Dependency}
  {src : Source} {name : String}

/-- The project is known, all files can be listed, and the only class that is referred to is
provided by a source of an entry of a selected bucket. -/
structure Offers (disk : Disk) (c : Config) (r : Resolution) (kept : List Dependency)
    (d : Dependency) (src : Source) (name : String) : Prop where
  report : (Resolution.load c.resolution).outcome disk = .ok r
  firstLevel : r.firstLevel c.buckets = .ok kept
  setting : ∃ s, setting c r = .ok s
  references : (Reference.classes c.outputs).outcome disk = .ok [name]
  listable : AllListable disk (r.selected c.buckets)
  entry : d ∈ r.selected c.buckets
  source : src ∈ d.sources
  provides : src.Provides disk name

/-- The index can be built, so an audit comes to reconcile. -/
theorem Offers.gathers (o : Offers disk c r kept d src name) :
    ∃ index s, Gathers disk c ⟨r, kept, index⟩ s [name] := by
  obtain ⟨index, hindex⟩ := o.listable.exists_index o.firstLevel
  obtain ⟨s, hs⟩ := o.setting
  exact ⟨index, s, o.report, o.firstLevel, hindex, hs, o.references⟩

/-- The entry's artifact is declared, unless another node is kept that does not list it. -/
theorem Offers.declared (o : Offers disk c r kept d src name)
    (hkept : ∀ k ∈ kept, k ≠ d → k.identity = d.identity → src.artifact ∈ k.artifacts) :
    Declares kept src.artifact := by
  obtain ⟨k, hk, hid⟩ := Resolution.exists_kept_of_mem_selected o.firstLevel o.entry
  by_cases hkd : k = d
  · subst hkd
    exact ⟨k, hk, Dependency.mem_artifacts.mpr ⟨src, o.source, rfl⟩⟩
  · exact ⟨k, hk, hkept k hk hkd hid⟩

/-- The entry's artifact is indexed with the class, unless another node is visited that does not
list it so. -/
theorem Offers.indexed (o : Offers disk c r kept d src name)
    (hvisited : ∀ v ∈ Dependency.visit kept, v ≠ d → v.identity = d.identity →
      ∃ t ∈ v.sources, t.artifact = src.artifact ∧ t.Provides disk name) :
    ∃ v ∈ Dependency.visit kept, ∃ t ∈ v.sources,
      t.artifact = src.artifact ∧ t.Provides disk name := by
  obtain ⟨k, hk, hkid⟩ := Resolution.exists_kept_of_mem_selected o.firstLevel o.entry
  obtain ⟨v, hv, hvid⟩ := Dependency.root_visited hk
  by_cases hvd : v = d
  · subst hvd
    exact ⟨v, hv, src, o.source, rfl, o.provides⟩
  · exact ⟨v, hv, hvisited v hv hvd (hvid.trans hkid)⟩

/-- A class with a declared provider in the index is not undeclared. -/
theorem verdictOn_of_declared {m : Material} {s : Setting} {a : Artifact}
    (ha : a ∈ m.index.providers name) (hdecl : Declares m.firstLevel a) :
    ∃ sum, verdictOn m s [name] = .passed sum := by
  apply verdictOn_of_nil
  refine (Reconciliation.undeclared_eq_nil_iff _).mpr ?_
  intro other hother _ _
  obtain rfl := List.mem_singleton.mp hother
  refine ⟨a, ha, Reconciliation.excuses_iff.mpr ?_⟩
  exact Or.inr (Or.inr (Material.mem_declared.mpr hdecl))

theorem passes_of_twins (o : Offers disk c r kept d src name)
    (hkept : ∀ k ∈ kept, k ≠ d → k.identity = d.identity → src.artifact ∈ k.artifacts)
    (hvisited : ∀ v ∈ Dependency.visit kept, v ≠ d → v.identity = d.identity →
      ∃ t ∈ v.sources, t.artifact = src.artifact ∧ t.Provides disk name) :
    ∃ sum index, (run c).outcome disk = .ok (.passed sum) ∧
      (ClassIndex.build kept).outcome disk = .ok index ∧
      ∃ a ∈ index.providers name, Declares kept a := by
  obtain ⟨index, s, g⟩ := o.gathers
  have hdecl : Declares kept src.artifact := o.declared hkept
  have hmem : src.artifact ∈ index.providers name :=
    (ClassIndex.mem_providers_of_build g.index).mpr (o.indexed hvisited)
  obtain ⟨sum, hsum⟩ := verdictOn_of_declared (s := s) (m := ⟨r, kept, index⟩) hmem hdecl
  exact ⟨sum, index, g.outcome_run.trans (congrArg _ hsum), g.index, _, hmem, hdecl⟩

/-! ## Twins that agree

The main bucket declares `a`, which pulls in `b`. The bucket of tests declares `b` without
classes, and a third bucket declares it with a directory of classes. So the second is kept, the
first is visited, and both list the artifact of the third. -/

def listedNode : Dependency := directoryNode ⟨"g", "b", "1"⟩

def listedSource : Source := directorySource ⟨"g", "b", "1"⟩

def twinsReport : Report where
  project := some ":app"
  buckets := [
    ("main", [moduleEntry "g:a:1" ["a.A"] [moduleEntry "g:b:1" ["b.B"] []]]),
    ("test", [moduleEntry "g:b:1" [] []]),
    ("more", [directoryEntry "g:b:1"])]

/-- A disk with the report, a reference to a class of `b`, and the classes of `b`. -/
def twinsDisk : Disk :=
  rootDisk twinsReport "b.B".toList
    [("out", .directory [("b", .directory [("B.class", .file [])])])]

/-- The first-level dependencies of the project. -/
def twinsKept : List Dependency :=
  [moduleNode ⟨"g", "a", "1"⟩ ["a.A"] [moduleNode ⟨"g", "b", "1"⟩ ["b.B"] []],
    moduleNode ⟨"g", "b", "1"⟩ [] []]

def twinsResolution : Resolution where
  projectPath := some ":app"
  buckets := [
    ("main", [moduleNode ⟨"g", "a", "1"⟩ ["a.A"] [moduleNode ⟨"g", "b", "1"⟩ ["b.B"] []]]),
    ("test", [moduleNode ⟨"g", "b", "1"⟩ [] []]),
    ("more", [listedNode])]

theorem twins_offer :
    Offers twinsDisk rootConfig twinsResolution twinsKept listedNode listedSource "b.B" where
  report := by decide +kernel
  firstLevel := by decide +kernel
  setting := ⟨⟨":app", "build.gradle", [], "implementation"⟩, by decide +kernel⟩
  references := by decide +kernel
  listable := by decide +kernel
  entry := by decide +kernel
  source := by decide +kernel
  provides := by decide +kernel

theorem twins_pass :
    (∀ k ∈ twinsKept, k ≠ listedNode → k.identity = listedNode.identity →
      listedSource.artifact ∈ k.artifacts) ∧
    (∀ v ∈ Dependency.visit twinsKept, v ≠ listedNode → v.identity = listedNode.identity →
      ∃ t ∈ v.sources, t.artifact = listedSource.artifact ∧ t.Provides twinsDisk "b.B") ∧
    ∃ sum index, (run rootConfig).outcome twinsDisk = .ok (.passed sum) ∧
      (ClassIndex.build twinsKept).outcome twinsDisk = .ok index ∧
      ∃ a ∈ index.providers "b.B", Declares twinsKept a := by
  have hkept : ∀ k ∈ twinsKept, k ≠ listedNode → k.identity = listedNode.identity →
      listedSource.artifact ∈ k.artifacts := by decide +kernel
  have hvisited : ∀ v ∈ Dependency.visit twinsKept, v ≠ listedNode →
      v.identity = listedNode.identity →
      ∃ t ∈ v.sources, t.artifact = listedSource.artifact ∧ t.Provides twinsDisk "b.B" := by
    decide +kernel
  exact ⟨hkept, hvisited, passes_of_twins twins_offer hkept hvisited⟩

/-! ## Twins that differ

The main bucket declares `a` without classes, and `b` with `c` below it. The bucket of tests
declares `a` again, with an artifact of its own that has the class `x.X`. That artifact is
passed over, so `c`, which has the class too, is blamed for it. -/

def hiddenSource : Source where
  artifact := .external ⟨"g", "a", "1"⟩ (some "tests")
  classes := ["x.X"]

def hiddenNode : Dependency where
  sources := [hiddenSource]
  coordinate := some ⟨"g", "a", "1"⟩

def hiddenReport : Report where
  project := some ":app"
  buckets := [
    ("main", [moduleEntry "g:a:1" [] [], moduleEntry "g:b:1" [] [moduleEntry "g:c:1" ["x.X"] []]]),
    ("test", [{ moduleName := some "g:a:1", artifacts := [⟨none, some "tests", ["x.X"]⟩] }])]

def hiddenDisk : Disk := rootDisk hiddenReport "x.X".toList []

/-- The first-level dependencies of the project. -/
def hiddenKept : List Dependency :=
  [moduleNode ⟨"g", "a", "1"⟩ [] [],
    moduleNode ⟨"g", "b", "1"⟩ [] [moduleNode ⟨"g", "c", "1"⟩ ["x.X"] []]]

def hiddenResolution : Resolution where
  projectPath := some ":app"
  buckets := [("main", hiddenKept), ("test", [hiddenNode])]

theorem hidden_offers :
    Offers hiddenDisk rootConfig hiddenResolution hiddenKept hiddenNode hiddenSource "x.X" where
  report := by decide +kernel
  firstLevel := by decide +kernel
  setting := ⟨⟨":app", "build.gradle", [], "implementation"⟩, by decide +kernel⟩
  references := by decide +kernel
  listable := by decide +kernel
  entry := by decide +kernel
  source := by decide +kernel
  provides := by decide +kernel

theorem duplicate_hides_provider :
    ¬ ∀ disk c r kept d src name, Offers disk c r kept d src name →
      ∃ sum, (run c).outcome disk = .ok (.passed sum) := by
  intro hpasses
  have hrun : (run rootConfig).outcome hiddenDisk = .ok (.violated
      { artifacts := [.external ⟨"g", "c", "1"⟩ none]
        buildFile := "build.gradle"
        suggestion := "    dependencies \x7b\n    implementation 'g:c'\n    \x7d" }) := by
    decide +kernel
  obtain ⟨sum, hsum⟩ := hpasses _ _ _ _ _ _ _ hidden_offers
  rw [hrun] at hsum
  cases hsum

end DependencyAudit.Audit
