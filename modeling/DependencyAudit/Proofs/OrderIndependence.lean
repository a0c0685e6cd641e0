import DependencyAudit.Proofs.Audit
import DependencyAudit.Proofs.Reordering

/-!
The verdict does not depend on the order of anything in the report. Two audits whose reports are
reordered, and whose references are the same classes in whatever order and however often, come
to the same outcome (`order_irrelevant`), if nodes of one identity list the same sources and
have children of the same identities.

The two indexes may have been filled from different nodes and in another order. They agree on
which artifacts provide a class (`Survey.provider_of_nodes`), and that is all that a verdict
takes from an index (`verdictOn_congr`).
-/

namespace DependencyAudit

open Inspection Written

variable {disk disk' : Disk}

/-! ## The same files on two disks -/

/-- The files of all nodes are the same on both disks. -/
def SameFiles (disk disk' : Disk) (trees : List Dependency) : Prop :=
  ∀ d, Dependency.Occurs trees d → ∀ s ∈ d.sources, ∀ p, s.file = some p →
    disk.find p = disk'.find p

/-- On both disks the file of the source is absent, or the same classes are listed there. -/
def Source.SameListing (s : Source) (disk disk' : Disk) : Prop :=
  ∀ p, s.file = some p → (disk.Absent p ↔ disk'.Absent p) ∧
    ∀ names, disk.Lists p names ↔ disk'.Lists p names

/-- The files of all nodes come to the same listings on both disks, whatever else they hold. -/
def SameListings (disk disk' : Disk) (trees : List Dependency) : Prop :=
  ∀ d, Dependency.Occurs trees d → ∀ s ∈ d.sources, s.SameListing disk disk'

theorem SameFiles.listings {trees : List Dependency} (h : SameFiles disk disk' trees) :
    SameListings disk disk' trees := by
  intro d hd s hs p hp
  have hfind := h d hd s hs p hp
  exact ⟨Disk.absent_congr hfind, fun _ => Disk.lists_congr hfind⟩

theorem SameFiles.of_covered {ds es : List Dependency} (h : Dependency.Covered es ds)
    (hf : SameFiles disk disk' ds) : SameFiles disk' disk es := by
  intro e he s hs p hp
  obtain ⟨d, hd, halike⟩ := h.nodes e he
  exact (hf d hd s ((halike.sources s).mp hs) p hp).symm

theorem Source.Same.provides {s t : Source} (h : s.Same t) (hf : s.SameListing disk disk')
    {name : String} (hs : s.Provides disk name) : t.Provides disk' name := by
  rcases hs with hname | ⟨p, names, hp, hnames, hname⟩
  · exact Or.inl (h.classes.1 name hname)
  · exact Or.inr ⟨p, names, h.file ▸ hp, ((hf p hp).2 names).mp hnames, hname⟩

theorem Source.Listable.transfer {s : Source} (h : s.Listable disk)
    (hf : s.SameListing disk disk') : s.Listable disk' := by
  intro p hp
  rcases h p hp with habsent | ⟨names, hnames⟩
  · exact Or.inl ((hf p hp).1.mp habsent)
  · exact Or.inr ⟨names, ((hf p hp).2 names).mp hnames⟩

theorem Audit.AllListable.of_covered {ds es : List Dependency} (h : AllListable disk ds)
    (hc : Dependency.Covered es ds) (hf : SameFiles disk disk' ds) : AllListable disk' es := by
  intro e he s hs
  obtain ⟨d, hd, halike⟩ := hc.nodes e he
  have hmem := (halike.sources s).mp hs
  exact (h d hd s hmem).transfer (hf.listings d hd s hmem)

/-! ## Two indexes of the same dependencies -/

/-- The trees of the selected buckets, the first-level dependencies kept of them, and the index
of these. -/
structure Survey (disk : Disk) (trees kept : List Dependency) (index : ClassIndex) : Prop where
  member : ∀ k ∈ kept, k ∈ trees
  keeps : ∀ t ∈ trees, ∃ k ∈ kept, k.identity = t.identity
  uniform : Dependency.Uniform trees
  index : (ClassIndex.build kept).outcome disk = .ok index

section

variable {trees kept trees' kept' : List Dependency} {index index' : ClassIndex}

theorem Survey.of_firstLevel {r : Resolution} {buckets : Option (List String)}
    (hkept : r.firstLevel buckets = .ok kept) (huniform : Dependency.Uniform (r.selected buckets))
    (hindex : (ClassIndex.build kept).outcome disk = .ok index) :
    Survey disk (r.selected buckets) kept index where
  member _ := Resolution.mem_selected_of_mem_firstLevel hkept
  keeps _ := Resolution.exists_kept_of_mem_selected hkept
  uniform := huniform
  index := hindex

/-- What one of the trees lists is declared, though another may be kept in its place. -/
theorem Survey.declares_of_mem (v : Survey disk trees kept index) {d : Dependency} (hd : d ∈ trees)
    {a : Artifact} (ha : a ∈ d.artifacts) : Declares kept a := by
  obtain ⟨s, hs, rfl⟩ := Dependency.mem_artifacts.mp ha
  obtain ⟨k, hk, t, ht, hsame⟩ := v.uniform.source_kept v.member v.keeps hd hs
  exact ⟨k, hk, Dependency.mem_artifacts.mpr ⟨t, ht, hsame.artifact.symm⟩⟩

theorem Survey.declared_of_covered (v : Survey disk trees kept index)
    (v' : Survey disk' trees' kept' index') (h : Dependency.Covered trees trees') {a : Artifact}
    (ha : Declares kept a) : Declares kept' a := by
  obtain ⟨k, hk, hka⟩ := ha
  obtain ⟨s, hs, rfl⟩ := Dependency.mem_artifacts.mp hka
  obtain ⟨e, he, halike⟩ := h.roots k (v.member k hk)
  exact v'.declares_of_mem he (Dependency.mem_artifacts.mpr ⟨s, (halike.sources s).mp hs, rfl⟩)

/-- The node that lists a provider in the one index need not have been visited for the other, but
a node of its identity has been, and lists the provider too. -/
theorem Survey.provider_of_nodes (v : Survey disk trees kept index)
    (v' : Survey disk' trees' kept' index')
    (h : ∀ d, Dependency.Occurs trees d → ∃ e, Dependency.Occurs trees' e ∧ d.Alike e)
    (hf : SameListings disk disk' trees) {name : String} {a : Artifact}
    (ha : a ∈ index.providers name) : a ∈ index'.providers name := by
  obtain ⟨d, hd, s, hs, rfl, hprov⟩ := (ClassIndex.mem_providers_of_build v.index).mp ha
  have hocc : Dependency.Occurs trees d := (Dependency.occurs_of_mem_visit hd).mono v.member
  -- `e` is the counterpart of `d` in the other trees, `w` the node visited there in its place
  obtain ⟨e, he, halike⟩ := h d hocc
  obtain ⟨w, hw, t, ht, hsame⟩ :=
    v'.uniform.source_visited v'.member v'.keeps he ((halike.sources s).mp hs)
  exact (ClassIndex.mem_providers_of_build v'.index).mpr
    ⟨w, hw, t, ht, hsame.artifact.symm, hsame.provides (hf d hocc s hs) hprov⟩

theorem Survey.provider_of_covered (v : Survey disk trees kept index)
    (v' : Survey disk' trees' kept' index') (h : Dependency.Covered trees trees')
    (hf : SameFiles disk disk' trees) {name : String} {a : Artifact}
    (ha : a ∈ index.providers name) : a ∈ index'.providers name :=
  v.provider_of_nodes v' h.nodes hf.listings ha

theorem Survey.declares_iff (v : Survey disk trees kept index)
    (v' : Survey disk' trees' kept' index') (h : Dependency.Mirrored trees trees')
    (a : Artifact) : Declares kept a ↔ Declares kept' a :=
  ⟨v.declared_of_covered v' h.forth, v'.declared_of_covered v h.back⟩

theorem Survey.mem_providers_iff (v : Survey disk trees kept index)
    (v' : Survey disk' trees' kept' index') (h : Dependency.Mirrored trees trees')
    (hf : SameFiles disk disk' trees) (name : String) (a : Artifact) :
    a ∈ index.providers name ↔ a ∈ index'.providers name :=
  ⟨v.provider_of_covered v' h.forth hf, v'.provider_of_covered v h.back (hf.of_covered h.back)⟩

theorem Survey.contains_eq (v : Survey disk trees kept index)
    (v' : Survey disk' trees' kept' index') (h : Dependency.Mirrored trees trees')
    (hf : SameFiles disk disk' trees) (name : String) :
    index.contains name = index'.contains name := by
  rw [Bool.eq_iff_iff, ClassIndex.contains_iff_of_build v.index,
    ClassIndex.contains_iff_of_build v'.index]
  exact exists_congr (v.mem_providers_iff v' h hf name)

end

/-! ## What a verdict takes from its material -/

theorem nodup_eraseDups : ∀ l : List Artifact, l.eraseDups.Nodup
  | [] => List.nodup_nil
  | a :: l => by
    have hnew : a ∉ (l.filter fun b => !b == a).eraseDups := by
      rw [List.mem_eraseDups, List.mem_filter]
      simp
    rw [List.eraseDups_cons]
    exact List.nodup_cons.mpr ⟨hnew, nodup_eraseDups _⟩
termination_by l => l.length
decreasing_by exact Nat.lt_succ_of_le (List.length_filter_le _ l)

theorem Material.length_declared_congr {m m' : Material}
    (h : ∀ a, a ∈ m.declared ↔ a ∈ m'.declared) : m.declared.length = m'.declared.length := by
  have hperm : m.declared.Perm m'.declared :=
    (List.perm_ext_iff_of_nodup (nodup_eraseDups _) (nodup_eraseDups _)).mpr h
  exact hperm.length_eq

namespace Audit

theorem verdictOn_congr (m m' : Material) (s : Setting) (referenced : List String)
    (hproviders : ∀ name a, a ∈ m.index.providers name ↔ a ∈ m'.index.providers name)
    (hcontains : ∀ name, m.index.contains name = m'.index.contains name)
    (hdeclared : ∀ a, a ∈ m.declared ↔ a ∈ m'.declared) :
    verdictOn m s referenced = verdictOn m' s referenced := by
  unfold verdictOn
  rw [Reconciliation.undeclared_congr Artifact.displayName hproviders hdeclared,
    Material.length_declared_congr hdeclared]
  simp only [hcontains]

/-! ## Rearranged audits -/

variable {c c' : Config} {report report' : Report} {r r' : Resolution}

/-- The report at a path is accepted, and read as the given resolution. -/
structure Accepted (disk : Disk) (p : Path) (report : Report) (r : Resolution) : Prop where
  content : ∃ text, (TextFile.read (.report (.missing p)) p).outcome disk = .ok text ∧
    Report.parse text = .ok report
  resolution : Resolution.ofReport p.parent report = .ok r

theorem Accepted.outcome_load {p : Path} (h : Accepted disk p report r) :
    (Resolution.load p).outcome disk = .ok r := by
  obtain ⟨text, htext, hparse⟩ := h.content
  have hread : Resolution.parse text p.parent = .ok r := by
    rw [Resolution.parse, hparse]
    exact h.resolution
  refine outcome_bind_eq_ok.mpr ⟨text, htext, ?_⟩
  exact outcome_bind_eq_ok.mpr ⟨r, (outcome_ofExcept _).trans hread, rfl⟩

/-- The audits read accepted reports that differ only in their order, select the same buckets in
whatever order, find the same references in whatever order and however often, and otherwise
agree in their configurations and in the files of the artifacts. -/
structure Rearranged (disk disk' : Disk) (c c' : Config) (report report' : Report)
    (r r' : Resolution) : Prop where
  accepted : Accepted disk c.resolution report r
  accepted' : Accepted disk' c'.resolution report' r'
  reports : report.Reordered report'
  place : c.resolution.parent = c'.resolution.parent
  selection : Option.Rel List.Perm c.buckets c'.buckets
  project : c.project = c'.project
  buildFile : c.buildFile = c'.buildFile
  ignore : c.ignore = c'.ignore
  bucket : c.bucket = c'.bucket
  references : ∃ found found', (Reference.ofLocations c.outputs).outcome disk = .ok found ∧
    (Reference.ofLocations c'.outputs).outcome disk' = .ok found' ∧
    ∀ name, name ∈ found ↔ name ∈ found'
  files : SameFiles disk disk' (r.selected c.buckets)

namespace Rearranged

theorem mirrors (h : Rearranged disk disk' c c' report report' r r') : Resolution.Mirrors r r' :=
  Resolution.mirrors_of_reordered h.reports h.accepted.resolution
    (h.place ▸ h.accepted'.resolution)

theorem setting_eq (h : Rearranged disk disk' c c' report report' r r') :
    setting c r = setting c' r' := by
  unfold setting
  rw [h.project, h.buildFile, h.ignore, h.bucket, h.mirrors.project, h.mirrors.buildFile]

theorem references_eq (h : Rearranged disk disk' c c' report report' r r') :
    ∃ referenced, (Reference.classes c.outputs).outcome disk = .ok referenced ∧
      (Reference.classes c'.outputs).outcome disk' = .ok referenced := by
  obtain ⟨found, found', hfound, hfound', hmem⟩ := h.references
  refine ⟨Ascending.strings found, outcome_bind_eq_ok.mpr ⟨found, hfound, rfl⟩, ?_⟩
  rw [Ascending.strings_congr hmem]
  exact outcome_bind_eq_ok.mpr ⟨found', hfound', rfl⟩

end Rearranged

theorem exists_survey {buckets : Option (List String)}
    (hknown : ∀ name ∈ r.selection buckets, name ∈ r.bucketNames)
    (huniform : Dependency.Uniform (r.selected buckets))
    (hlist : AllListable disk (r.selected buckets)) :
    ∃ kept index, r.firstLevel buckets = .ok kept ∧
      Survey disk (r.selected buckets) kept index := by
  have hkept := Resolution.firstLevel_eq_ok_iff.mpr ⟨hknown, rfl⟩
  obtain ⟨index, hindex⟩ := hlist.exists_index hkept
  exact ⟨_, index, hkept, .of_firstLevel hkept huniform hindex⟩

theorem order_irrelevant (h : Rearranged disk disk' c c' report report' r r')
    (hknown : ∀ name ∈ r.selection c.buckets, name ∈ r.bucketNames)
    (huniform : Dependency.Uniform (r.selected c.buckets))
    (hlist : AllListable disk (r.selected c.buckets)) :
    (run c).outcome disk = (run c').outcome disk' ∧
      ∀ s, setting c r = .ok s → ∃ verdict, (run c).outcome disk = .ok verdict := by
  have hmirrored := h.mirrors.selected h.selection
  have hknown' : ∀ name ∈ r'.selection c'.buckets, name ∈ r'.bucketNames := fun name hname =>
    (h.mirrors.names name).mp (hknown name ((h.mirrors.selection h.selection).mpr hname))
  obtain ⟨kept, index, hkept, v⟩ := exists_survey hknown huniform hlist
  obtain ⟨kept', index', hkept', v'⟩ := exists_survey hknown'
    (huniform.of_covered hmirrored.back) (hlist.of_covered hmirrored.back h.files)
  obtain ⟨referenced, href, href'⟩ := h.references_eq
  cases hs : setting c r with
  | error e =>
    -- without a project both stop, and at the same failure
    have hm : (Material.load c).outcome disk = .ok ⟨r, kept, index⟩ :=
      outcome_load_iff.mpr ⟨h.accepted.outcome_load, hkept, v.index⟩
    have hm' : (Material.load c').outcome disk' = .ok ⟨r', kept', index'⟩ :=
      outcome_load_iff.mpr ⟨h.accepted'.outcome_load, hkept', v'.index⟩
    have hs' := h.setting_eq ▸ hs
    refine ⟨?_, fun s hok => by cases hok⟩
    rw [outcome_run_of_no_setting hm hs, outcome_run_of_no_setting hm' hs']
  | ok s =>
    -- both come to reconcile, with indexes that hold the same providers
    have g : Gathers disk c ⟨r, kept, index⟩ s referenced :=
      ⟨h.accepted.outcome_load, hkept, v.index, hs, href⟩
    have g' : Gathers disk' c' ⟨r', kept', index'⟩ s referenced :=
      ⟨h.accepted'.outcome_load, hkept', v'.index, h.setting_eq ▸ hs, href'⟩
    have hdeclared : ∀ a, a ∈ (⟨r, kept, index⟩ : Material).declared ↔
        a ∈ (⟨r', kept', index'⟩ : Material).declared := fun a => by
      rw [Material.mem_declared, Material.mem_declared]
      exact v.declares_iff v' hmirrored a
    have hverdict := verdictOn_congr ⟨r, kept, index⟩ ⟨r', kept', index'⟩ s referenced
      (v.mem_providers_iff v' hmirrored h.files) (v.contains_eq v' hmirrored h.files) hdeclared
    refine ⟨?_, fun _ _ => ⟨_, g.outcome_run⟩⟩
    rw [g.outcome_run, g'.outcome_run, hverdict]

/-! ## A diamond that is met in two orders

The project declares `a` and `b`, and both pull in `d`, which has an artifact of its own for
tests. In the one report `d` is met below `a` first, in the other below `b`, with its artifacts
and their classes in another order. The classes of `e` are listed from a directory. -/

def diamondEntry (artifacts : List ArtifactEntry) : Entry where
  moduleName := some "g:d:1"
  artifacts := artifacts

def diamondNode (sources : List Source) : Dependency where
  sources := sources
  coordinate := some ⟨"g", "d", "1"⟩

/-- The report that comes to `d` below `a`. -/
def diamondReport : Report where
  project := some ":app"
  buckets := [
    ("main", [
      moduleEntry "g:a:1" ["a.A"]
        [diamondEntry [⟨none, none, ["d.D"]⟩, ⟨none, some "tests", ["d.X", "d.Y"]⟩],
          directoryEntry "g:e:1"],
      moduleEntry "g:b:1" ["b.B"]
        [diamondEntry [⟨none, some "tests", ["d.Y", "d.X"]⟩, ⟨none, none, ["d.D"]⟩]]]),
    ("test", [directoryEntry "g:e:1"])]

/-- The report that comes to `d` below `b`. -/
def turnedReport : Report where
  project := some ":app"
  buckets := [
    ("main", [
      moduleEntry "g:b:1" ["b.B"]
        [diamondEntry [⟨none, some "tests", ["d.Y", "d.X"]⟩, ⟨none, none, ["d.D"]⟩]],
      moduleEntry "g:a:1" ["a.A"]
        [directoryEntry "g:e:1",
          diamondEntry [⟨none, some "tests", ["d.X", "d.Y"]⟩, ⟨none, none, ["d.D"]⟩]]]),
    ("test", [directoryEntry "g:e:1"])]

/-- A disk with a report, references, and the classes of `e`. -/
def diamondDisk (report : Report) (used : List Char) : Disk :=
  rootDisk report used [("out", .directory [("e", .directory [("E.class", .file [])])])]

/-- The artifact of `d` for tests. -/
def diamondTests : Artifact := .external ⟨"g", "d", "1"⟩ (some "tests")

def diamondResolution : Resolution :=
  let d : Artifact := .external ⟨"g", "d", "1"⟩ none
  { projectPath := some ":app"
    buckets := [
      ("main", [
        moduleNode ⟨"g", "a", "1"⟩ ["a.A"]
          [diamondNode [⟨d, none, ["d.D"]⟩, ⟨diamondTests, none, ["d.X", "d.Y"]⟩],
            directoryNode ⟨"g", "e", "1"⟩],
        moduleNode ⟨"g", "b", "1"⟩ ["b.B"]
          [diamondNode [⟨diamondTests, none, ["d.Y", "d.X"]⟩, ⟨d, none, ["d.D"]⟩]]]),
      ("test", [directoryNode ⟨"g", "e", "1"⟩])] }

def turnedResolution : Resolution :=
  let d : Artifact := .external ⟨"g", "d", "1"⟩ none
  { projectPath := some ":app"
    buckets := [
      ("main", [
        moduleNode ⟨"g", "b", "1"⟩ ["b.B"]
          [diamondNode [⟨diamondTests, none, ["d.Y", "d.X"]⟩, ⟨d, none, ["d.D"]⟩]],
        moduleNode ⟨"g", "a", "1"⟩ ["a.A"]
          [directoryNode ⟨"g", "e", "1"⟩,
            diamondNode [⟨diamondTests, none, ["d.X", "d.Y"]⟩, ⟨d, none, ["d.D"]⟩]]]),
      ("test", [directoryNode ⟨"g", "e", "1"⟩])] }

def diamondConfig : Config := { rootConfig with buckets := some ["main", "test"] }

/-- The configuration that selects the other bucket first, and names the references twice. -/
def turnedConfig : Config where
  resolution := ⟨.root, ["report.json"]⟩
  buckets := some ["test", "main"]
  outputs := [⟨.root, ["used.refs"]⟩, ⟨.root, ["used.refs"]⟩]

theorem directory_reordered (written : String) :
    (directoryEntry written).Reordered (directoryEntry written) :=
  .entry (List.Perm.refl _) .nil

theorem diamond_reordered : diamondReport.Reordered turnedReport where
  project := rfl
  buildFile := rfl
  buckets name := by
    by_cases hmain : name = "main"
    · subst hmain
      -- `a` has both its children and the artifacts of `d` in another order, `b` has neither
      refine .some (.trans (.swap _ _ []) (.cons ?_ (.cons ?_ .nil)))
      · exact .entry (List.Perm.refl _) (.cons (.entry (List.Perm.refl _) .nil) .nil)
      · refine .entry (List.Perm.refl _) (.trans (.swap _ _ []) ?_)
        exact .cons (directory_reordered _) (.cons (.entry (List.Perm.swap _ _ []) .nil) .nil)
    · by_cases htest : name = "test"
      · subst htest
        exact .some (.cons (directory_reordered _) .nil)
      · have hnone : ∀ es fs : List Entry,
            [("main", es), ("test", fs)].lookup name = none := fun es fs => by
          rw [List.lookup_cons, List.lookup_cons, beq_false_of_ne hmain, beq_false_of_ne htest]
          rfl
        rw [diamondReport, turnedReport, hnone, hnone]
        exact .none

theorem diamondDisk_find_out (report report' : Report) (used used' : List Char) :
    (diamondDisk report used).find ⟨.root, ["out"]⟩ =
      (diamondDisk report' used').find ⟨.root, ["out"]⟩ := rfl

theorem diamondDisk_sameFiles (report report' : Report) (used used' : List Char)
    {trees : List Dependency}
    (h : ∀ d, Dependency.Occurs trees d →
      ∀ s ∈ d.sources, s.file = none ∨ s.file = some ⟨.root, ["out"]⟩) :
    SameFiles (diamondDisk report used) (diamondDisk report' used') trees := by
  intro d hd s hs p hp
  rcases h d hd s hs with hnone | hout
  · rw [hnone] at hp
    cases hp
  · obtain rfl := Option.some.inj (hout.symm.trans hp)
    exact diamondDisk_find_out _ _ _ _

theorem diamond_accepted :
    Accepted (diamondDisk diamondReport "d.X\ne.E\nz.Z".toList) rootConfig.resolution diamondReport
      diamondResolution :=
  ⟨⟨diamondReport.written, by decide +kernel, by decide +kernel⟩, by decide +kernel⟩

theorem diamond_rearranged :
    Rearranged (diamondDisk diamondReport "d.X\ne.E\nz.Z".toList)
      (diamondDisk turnedReport "z.Z\ne.E\nd.X\ne.E".toList)
      diamondConfig turnedConfig diamondReport turnedReport diamondResolution turnedResolution where
  accepted := diamond_accepted
  accepted' := ⟨⟨turnedReport.written, by decide +kernel, by decide +kernel⟩, by decide +kernel⟩
  reports := diamond_reordered
  place := rfl
  selection := .some (List.Perm.swap _ _ [])
  project := rfl
  buildFile := rfl
  ignore := rfl
  bucket := rfl
  references := ⟨["d.X", "e.E", "z.Z"], ["d.X", "e.E", "z.Z", "d.X", "e.E", "z.Z"],
    by decide +kernel, by decide +kernel, by grind⟩
  files := diamondDisk_sameFiles _ _ _ _ (by decide +kernel)

theorem diamond_order_irrelevant :
    ∃ w, w.artifacts = [diamondTests] ∧
      (run diamondConfig).outcome (diamondDisk diamondReport "d.X\ne.E\nz.Z".toList) =
        .ok (.violated w) ∧
      (run turnedConfig).outcome (diamondDisk turnedReport "z.Z\ne.E\nd.X\ne.E".toList) =
        .ok (.violated w) := by
  have hrun : (run diamondConfig).outcome (diamondDisk diamondReport "d.X\ne.E\nz.Z".toList) =
      .ok (.violated
        { artifacts := [diamondTests]
          buildFile := "build.gradle"
          suggestion := "    dependencies \x7b\n    implementation 'g:d'\n    \x7d" }) := by
    decide +kernel
  have hknown : ∀ name ∈ diamondResolution.selection diamondConfig.buckets,
      name ∈ diamondResolution.bucketNames := by decide +kernel
  have huniform : Dependency.Uniform (diamondResolution.selected diamondConfig.buckets) := by
    decide +kernel
  have hlist : AllListable (diamondDisk diamondReport "d.X\ne.E\nz.Z".toList)
      (diamondResolution.selected diamondConfig.buckets) := by decide +kernel
  have hsame := (order_irrelevant diamond_rearranged hknown huniform hlist).1
  exact ⟨_, rfl, hrun, hsame.symm.trans hrun⟩

end Audit

end DependencyAudit
