import DependencyAudit.Proofs.Declaring
import DependencyAudit.Proofs.Entries
import DependencyAudit.Proofs.OrderIndependence

/-!
Following the report of a violation. For each reported artifact the entry of some node that lists
it is copied, and the copy is put behind the entries of a selected bucket.

A copy adds a tree whose nodes occur already, so the selected trees keep their nodes
(`Extends.declare`, one copy; `ofReport_declareAll`, all of them). Where nodes of one identity list
the same sources, the index then provides the same classes from the same artifacts as before,
though other nodes may be visited, and what was declared stays so.

Main statement: `mended_passes`. The audit of the report with the copies passes.
-/

namespace DependencyAudit

open Inspection Written

/-! ## One more in a bucket -/

/-- The buckets with an element behind those of the given name. -/
def putBehind {α : Type} (name : String) (x : α) (buckets : List (String × List α)) :
    List (String × List α) :=
  buckets.map fun b => if b.1 = name then (b.1, b.2 ++ [x]) else b

theorem names_putBehind {α : Type} (name : String) (x : α) (buckets : List (String × List α)) :
    (putBehind name x buckets).map (·.1) = buckets.map (·.1) := by
  unfold putBehind
  rw [List.map_map]
  apply List.map_congr_left
  intro b _
  show (if b.1 = name then (b.1, b.2 ++ [x]) else b).1 = b.1
  split <;> rfl

theorem lookup_putBehind {α : Type} (name other : String) (x : α)
    (buckets : List (String × List α)) :
    (putBehind name x buckets).lookup other =
      (buckets.lookup other).map fun l => if other = name then l ++ [x] else l := by
  induction buckets with
  | nil => rfl
  | cons b buckets ih =>
    obtain ⟨key, l⟩ := b
    -- the first bucket keeps its name, whatever becomes of its elements
    have hcons : putBehind name x ((key, l) :: buckets) =
        (key, if key = name then l ++ [x] else l) :: putBehind name x buckets := by
      by_cases h : key = name <;> simp [putBehind, h]
    rw [hcons, List.lookup_cons, List.lookup_cons]
    by_cases hkey : other = key
    · simp [hkey]
    · simp [beq_false_of_ne hkey, ih]

/-- The report with an entry behind those of a bucket. -/
def Report.declare (report : Report) (name : String) (e : Entry) : Report :=
  { report with buckets := putBehind name e report.buckets }

/-- The report with entries behind those of their buckets, one after the other. -/
def Report.declareAll (report : Report) (additions : List (String × Entry)) : Report :=
  additions.foldl (fun report x => report.declare x.1 x.2) report

/-- The resolution with a tree behind those of a bucket. -/
def Resolution.declare (r : Resolution) (name : String) (d : Dependency) : Resolution :=
  { r with buckets := putBehind name d r.buckets }

/-! ## Reading a report with one more entry -/

namespace Entry

open Dependency

variable {base : Path}

theorem resolveAll_append_singleton {e : Entry} {d : Dependency} (he : resolve base e = .ok d) :
    ∀ {es : List Entry} {ds : List Dependency}, resolveAll base es = .ok ds →
      resolveAll base (es ++ [e]) = .ok (ds ++ [d])
  | [], ds, h => by
    obtain rfl := Except.ok.inj h
    exact resolveAll_cons_eq_ok_iff.mpr ⟨d, [], he, rfl, rfl⟩
  | x :: es, ds, h => by
    obtain ⟨y, rest, hy, hrest, rfl⟩ := resolveAll_cons_eq_ok_iff.mp h
    have htail := resolveAll_append_singleton he hrest
    exact resolveAll_cons_eq_ok_iff.mpr ⟨y, rest ++ [d], hy, htail, rfl⟩

mutual

/-- An entry at any depth is read as a node of the tree. -/
theorem occurs_of_mem_nodes {x : Entry} : ∀ {e : Entry} {d : Dependency},
    resolve base e = .ok d → x ∈ nodes e →
      ∃ y, resolve base x = .ok y ∧ (y = d ∨ Occurs d.children y)
  | ⟨moduleName, project, artifacts, below⟩, d, hd, hx => by
    rw [nodes, List.mem_cons] at hx
    rcases hx with rfl | hx
    · exact ⟨d, hd, Or.inl rfl⟩
    · obtain ⟨c, children, _, hchildren, rfl⟩ := resolve_eq_ok_iff.mp hd
      obtain ⟨y, hy, hocc⟩ := occurs_of_mem_nodesAll hchildren hx
      exact ⟨y, hy, Or.inr hocc⟩

theorem occurs_of_mem_nodesAll {x : Entry} : ∀ {es : List Entry} {ds : List Dependency},
    resolveAll base es = .ok ds → x ∈ nodesAll es →
      ∃ y, resolve base x = .ok y ∧ Occurs ds y
  | [], _, _, hx => absurd hx List.not_mem_nil
  | e :: es, ds, hds, hx => by
    obtain ⟨d, rest, hd, hrest, rfl⟩ := resolveAll_cons_eq_ok_iff.mp hds
    rw [nodesAll, List.mem_append] at hx
    rcases hx with hx | hx
    · obtain ⟨y, hy, hocc⟩ := occurs_of_mem_nodes hd hx
      exact ⟨y, hy, occurs_cons.mpr (hocc.imp id Or.inl)⟩
    · obtain ⟨y, hy, hocc⟩ := occurs_of_mem_nodesAll hrest hx
      exact ⟨y, hy, occurs_cons.mpr (Or.inr (Or.inr hocc))⟩

end

end Entry

namespace Resolution

open Dependency

variable {base : Path} {report : Report} {r r' r'' : Resolution} {buckets : Option (List String)}
  {name : String} {e : Entry} {d : Dependency}

theorem resolveBuckets_putBehind (he : Entry.resolve base e = .ok d) :
    ∀ {written : List (String × List Entry)} {found : List (String × List Dependency)},
      resolveBuckets base written = .ok found →
      resolveBuckets base (putBehind name e written) = .ok (putBehind name d found)
  | [], found, h => by
    obtain rfl := Except.ok.inj h
    rfl
  | (key, entries) :: written, found, h => by
    obtain ⟨trees, others, htrees, hothers, rfl⟩ := resolveBuckets_cons_eq_ok_iff.mp h
    have hrest := resolveBuckets_putBehind he hothers
    have hmore := Entry.resolveAll_append_singleton he htrees
    by_cases hkey : key = name
    · simp only [putBehind, List.map_cons, hkey, if_true] at hrest ⊢
      exact resolveBuckets_cons_eq_ok_iff.mpr ⟨_, _, hmore, hrest, rfl⟩
    · simp only [putBehind, List.map_cons, hkey, if_false] at hrest ⊢
      exact resolveBuckets_cons_eq_ok_iff.mpr ⟨_, _, htrees, hrest, rfl⟩

/-- Declaring an entry in the report declares its tree in what is read. -/
theorem ofReport_declare (hr : ofReport base report = .ok r)
    (he : Entry.resolve base e = .ok d) :
    ofReport base (report.declare name e) = .ok (r.declare name d) := by
  obtain ⟨found, hfound, rfl⟩ := ofReport_eq_ok_iff.mp hr
  exact ofReport_eq_ok_iff.mpr ⟨_, resolveBuckets_putBehind he hfound, rfl⟩

theorem bucketNames_declare (r : Resolution) (name : String) (d : Dependency) :
    (r.declare name d).bucketNames = r.bucketNames :=
  names_putBehind name d r.buckets

theorem bucket_declare (hname : name ∈ r.bucketNames) (other : String) :
    (r.declare name d).bucket other =
      if other = name then r.bucket other ++ [d] else r.bucket other := by
  unfold bucket declare
  rw [lookup_putBehind]
  by_cases h : other = name
  · obtain ⟨trees, htrees⟩ := Option.isSome_iff_exists.mp (mem_bucketNames.mp hname)
    simp [h, htrees]
  · simp [h]

/-! ## Resolutions with more first-level dependencies -/

/-- The resolution names the same project and buckets, and has the selected trees of the other
and perhaps more, but no further nodes in them. -/
structure Extends (buckets : Option (List String)) (r r' : Resolution) : Prop where
  project : r'.projectPath = r.projectPath
  buildFile : r'.buildFile = r.buildFile
  names : r'.bucketNames = r.bucketNames
  roots : ∀ d ∈ r.selected buckets, d ∈ r'.selected buckets
  nodes : ∀ d, Occurs (r'.selected buckets) d → Occurs (r.selected buckets) d

theorem Extends.refl (buckets : Option (List String)) (r : Resolution) : Extends buckets r r :=
  ⟨rfl, rfl, rfl, fun _ h => h, fun _ h => h⟩

theorem Extends.trans (h : Extends buckets r r') (h' : Extends buckets r' r'') :
    Extends buckets r r'' where
  project := h'.project.trans h.project
  buildFile := h'.buildFile.trans h.buildFile
  names := h'.names.trans h.names
  roots d hd := h'.roots d (h.roots d hd)
  nodes d hd := h.nodes d (h'.nodes d hd)

theorem Extends.selection_eq (h : Extends buckets r r') :
    r'.selection buckets = r.selection buckets := by
  unfold selection
  rw [h.names]

theorem mem_selected_declare (hname : name ∈ r.bucketNames) {x : Dependency} :
    x ∈ (r.declare name d).selected buckets ↔
      x ∈ r.selected buckets ∨ name ∈ r.selection buckets ∧ x = d := by
  have hselection : (r.declare name d).selection buckets = r.selection buckets := by
    unfold selection
    rw [bucketNames_declare]
  rw [mem_selected, mem_selected, hselection]
  simp only [bucket_declare hname]
  refine ⟨?_, ?_⟩
  · intro hparts
    obtain ⟨other, hother, hx⟩ := hparts
    split at hx
    · rename_i h
      rcases List.mem_append.mp hx with hx | hx
      · exact Or.inl ⟨other, hother, hx⟩
      · exact Or.inr ⟨h ▸ hother, List.mem_singleton.mp hx⟩
    · exact Or.inl ⟨other, hother, hx⟩
  · intro hcase
    rcases hcase with ⟨other, hother, hx⟩ | ⟨hselected, rfl⟩
    · refine ⟨other, hother, ?_⟩
      split
      · exact List.mem_append_left _ hx
      · exact hx
    · refine ⟨name, hselected, ?_⟩
      rw [if_pos rfl]
      exact List.mem_append_right _ (List.mem_singleton_self x)

/-- Declaring a node that occurs adds a tree, but no node. -/
theorem Extends.declare (hname : name ∈ r.bucketNames) (hd : Occurs (r.selected buckets) d) :
    Extends buckets r (r.declare name d) where
  project := rfl
  buildFile := rfl
  names := bucketNames_declare r name d
  roots x hx := (mem_selected_declare hname).mpr (Or.inl hx)
  nodes x hx := by
    induction hx with
    | root hx =>
      rcases (mem_selected_declare hname).mp hx with hx | ⟨_, rfl⟩
      · exact .root hx
      · exact hd
    | child _ hc ih => exact .child ih hc

/-- Declaring, one after the other, entries whose nodes occur adds their trees, but no node. -/
theorem ofReport_declareAll {additions : List (String × Entry)}
    (hr : ofReport base report = .ok r)
    (hknown : ∀ name ∈ r.selection buckets, name ∈ r.bucketNames)
    (hcopied : ∀ x ∈ additions, x.1 ∈ r.selection buckets ∧
      ∃ d, Entry.resolve base x.2 = .ok d ∧ Occurs (r.selected buckets) d) :
    ∃ r', ofReport base (report.declareAll additions) = .ok r' ∧ Extends buckets r r' ∧
      ∀ x ∈ additions, ∃ d ∈ r'.selected buckets, Entry.resolve base x.2 = .ok d := by
  induction additions generalizing report r with
  | nil => exact ⟨r, hr, .refl buckets r, fun x hx => absurd hx List.not_mem_nil⟩
  | cons x additions ih =>
    obtain ⟨hx, hrest⟩ := List.forall_mem_cons.mp hcopied
    obtain ⟨hselected, d, hd, hocc⟩ := hx
    have hstep : Extends buckets r (r.declare x.1 d) := .declare (hknown _ hselected) hocc
    -- the other copies are copies in the report with this one, too
    have hrest' : ∀ y ∈ additions, y.1 ∈ (r.declare x.1 d).selection buckets ∧
        ∃ e, Entry.resolve base y.2 = .ok e ∧ Occurs ((r.declare x.1 d).selected buckets) e := by
      intro y hy
      obtain ⟨hyselected, e, he, heocc⟩ := hrest y hy
      exact ⟨hstep.selection_eq ▸ hyselected, e, he, heocc.mono hstep.roots⟩
    have hknown' : ∀ name ∈ (r.declare x.1 d).selection buckets,
        name ∈ (r.declare x.1 d).bucketNames := by
      rw [hstep.selection_eq, hstep.names]
      exact hknown
    obtain ⟨r', hr', hextends, hroots⟩ := ih (ofReport_declare hr hd) hknown' hrest'
    refine ⟨r', hr', hstep.trans hextends, List.forall_mem_cons.mpr ⟨?_, hroots⟩⟩
    have hroot : d ∈ (r.declare x.1 d).selected buckets :=
      (mem_selected_declare (hknown _ hselected)).mpr (Or.inr ⟨hselected, rfl⟩)
    exact ⟨d, hextends.roots d hroot, hd⟩

end Resolution

/-! ## Surveys of more first-level dependencies -/

section

variable {disk disk' : Disk} {trees kept trees' kept' : List Dependency}
  {index index' : ClassIndex} {r r' : Resolution} {buckets : Option (List String)}

theorem Dependency.Uniform.of_nodes (h : Dependency.Uniform trees)
    (hnodes : ∀ d, Dependency.Occurs trees' d → Dependency.Occurs trees d) :
    Dependency.Uniform trees' :=
  fun d hd e he => h d (hnodes d hd) e (hnodes e he)

theorem SameListings.of_nodes (h : SameListings disk disk' trees)
    (hnodes : ∀ d, Dependency.Occurs trees' d → Dependency.Occurs trees d) :
    SameListings disk' disk trees' := by
  intro d hd s hs p hp
  obtain ⟨habsent, hlists⟩ := h d (hnodes d hd) s hs p hp
  exact ⟨habsent.symm, fun names => (hlists names).symm⟩

/-- A node that is visited only now lists what one of its identity listed before, so its files
can be listed as well. -/
theorem Survey.exists_index (v : Survey disk trees kept index)
    (hnodes : ∀ d ∈ Dependency.visit kept', Dependency.Occurs trees d)
    (hf : SameListings disk disk' trees) :
    ∃ index', (ClassIndex.build kept').outcome disk' = .ok index' := by
  have hlisted := ClassIndex.build_succeeds_iff.mp ⟨index, v.index⟩
  apply ClassIndex.build_succeeds_iff.mpr
  intro d hd s hs
  have hocc : Dependency.Occurs trees d := hnodes d hd
  obtain ⟨w, hw, t, ht, hsame⟩ := v.uniform.source_visited v.member v.keeps hocc hs
  have hlist : s.Listable disk := fun p hp => hlisted w hw t ht p (hsame.file ▸ hp)
  exact hlist.transfer (hf d hocc s hs)

/-- With more first-level dependencies but no further nodes, there is a survey as before. -/
theorem Survey.of_extends (v : Survey disk (r.selected buckets) kept index)
    (h : Resolution.Extends buckets r r')
    (hknown : ∀ name ∈ r.selection buckets, name ∈ r.bucketNames)
    (hf : SameListings disk disk' (r.selected buckets)) :
    ∃ kept' index', r'.firstLevel buckets = .ok kept' ∧
      Survey disk' (r'.selected buckets) kept' index' := by
  have hknown' : ∀ name ∈ r'.selection buckets, name ∈ r'.bucketNames := by
    rw [h.selection_eq, h.names]
    exact hknown
  have hkept := Resolution.firstLevel_eq_ok_iff.mpr ⟨hknown', rfl⟩
  have hnodes : ∀ d ∈ Dependency.visit (Resolution.firstOfEach [] (r'.selected buckets)),
      Dependency.Occurs (r.selected buckets) d := by
    intro d hd
    have hocc := (Dependency.occurs_of_mem_visit hd).mono
      fun _ => Resolution.mem_selected_of_mem_firstLevel hkept
    exact h.nodes d hocc
  obtain ⟨index', hindex'⟩ := v.exists_index hnodes hf
  exact ⟨_, index', hkept, .of_firstLevel hkept (v.uniform.of_nodes h.nodes) hindex'⟩

/-- The same artifacts provide a class, if the same nodes occur. -/
theorem Survey.mem_providers_iff_of_nodes (v : Survey disk trees kept index)
    (v' : Survey disk' trees' kept' index')
    (hmore : ∀ d, Dependency.Occurs trees d → Dependency.Occurs trees' d)
    (hnodes : ∀ d, Dependency.Occurs trees' d → Dependency.Occurs trees d)
    (hf : SameListings disk disk' trees) (name : String) (a : Artifact) :
    a ∈ index'.providers name ↔ a ∈ index.providers name := by
  refine ⟨?_, ?_⟩
  · exact v'.provider_of_nodes v (fun d hd => ⟨d, hnodes d hd, .refl d⟩) (hf.of_nodes hnodes)
  · exact v.provider_of_nodes v' (fun d hd => ⟨d, hmore d hd, .refl d⟩) hf

end

/-! ## Audits of a report with copies -/

namespace Audit

open Dependency

variable {disk disk' : Disk} {c : Config} {p' : Path} {report : Report} {r : Resolution}
  {w : Violation} {additions : List (String × Entry)}

/-- An audit ended in a violation, and each reported artifact has a copy: of the entry, at any
depth of a selected bucket, of some node that lists it. The report with the copies behind the
entries of selected buckets lies in the same directory. There the references are the same, and
the files of the artifacts come to the same listings. -/
structure Follows (disk disk' : Disk) (c : Config) (p' : Path) (report : Report) (r : Resolution)
    (w : Violation) (additions : List (String × Entry)) : Prop where
  accepted : Accepted disk c.resolution report r
  violated : (run c).outcome disk = .ok (.violated w)
  copied : ∀ x ∈ additions, x.1 ∈ r.selection c.buckets ∧ ∃ name ∈ r.selection c.buckets,
    ∃ entries, report.buckets.lookup name = some entries ∧ x.2 ∈ Entry.nodesAll entries
  mended : ∀ a ∈ w.artifacts, ∃ x ∈ additions, ∃ d,
    Entry.resolve c.resolution.parent x.2 = .ok d ∧ a ∈ d.artifacts
  place : p'.parent = c.resolution.parent
  content : ∃ text, (TextFile.read (.report (.missing p')) p').outcome disk' = .ok text ∧
    Report.parse text = .ok (report.declareAll additions)
  references : (Reference.classes c.outputs).outcome disk' =
    (Reference.classes c.outputs).outcome disk
  files : SameListings disk disk' (r.selected c.buckets)

/-- A copied entry stands for a node of the selected trees. -/
theorem Follows.occurs (h : Follows disk disk' c p' report r w additions) {x : String × Entry}
    (hx : x ∈ additions) : ∃ d, Entry.resolve c.resolution.parent x.2 = .ok d ∧
      Occurs (r.selected c.buckets) d := by
  obtain ⟨_, name, hname, entries, hentries, hmem⟩ := h.copied x hx
  obtain ⟨found, hfound, rfl⟩ := Resolution.ofReport_eq_ok_iff.mp h.accepted.resolution
  -- the bucket of the entry was read, and the entry with it
  have hlookup := Resolution.lookup_resolveBuckets hfound name
  rw [hentries] at hlookup
  generalize hread : found.lookup name = trees at hlookup
  obtain ⟨htrees⟩ := hlookup
  obtain ⟨d, hd, hocc⟩ := Entry.occurs_of_mem_nodesAll htrees hmem
  refine ⟨d, hd, occurs_flatMap.mpr ⟨name, hname, ?_⟩⟩
  rw [Resolution.bucket, hread]
  exact hocc

/-- The report with the copies is accepted, and each copy is a first-level tree in it. -/
theorem Follows.exists_resolution (h : Follows disk disk' c p' report r w additions)
    (hknown : ∀ name ∈ r.selection c.buckets, name ∈ r.bucketNames) :
    ∃ r', Accepted disk' p' (report.declareAll additions) r' ∧
      Resolution.Extends c.buckets r r' ∧ ∀ x ∈ additions, ∃ d ∈ r'.selected c.buckets,
        Entry.resolve c.resolution.parent x.2 = .ok d := by
  obtain ⟨r', hr', hextends, hroots⟩ := Resolution.ofReport_declareAll h.accepted.resolution
    hknown fun x hx => ⟨(h.copied x hx).1, h.occurs hx⟩
  exact ⟨r', ⟨h.content, h.place ▸ hr'⟩, hextends, hroots⟩

theorem mended_passes (h : Follows disk disk' c p' report r w additions)
    (huniform : Uniform (r.selected c.buckets)) :
    ∃ sum, (run { c with resolution := p' }).outcome disk' = .ok (.passed sum) := by
  obtain ⟨m, s, referenced, g, hviolated⟩ := outcome_run_iff.mp h.violated
  obtain rfl : m.resolution = r := Except.ok.inj (g.report.symm.trans h.accepted.outcome_load)
  obtain ⟨hknown, _⟩ := Resolution.firstLevel_eq_ok_iff.mp g.firstLevel
  have v : Survey disk _ m.firstLevel m.index := .of_firstLevel g.firstLevel huniform g.index
  obtain ⟨r', haccepted, hextends, hcopies⟩ := h.exists_resolution hknown
  obtain ⟨kept', index', hkept', v'⟩ := v.of_extends hextends hknown h.files
  have hsetting : setting { c with resolution := p' } r' = .ok s := by
    rw [← g.setting]
    unfold setting
    rw [hextends.project, hextends.buildFile]
  have g' : Gathers disk' { c with resolution := p' } ⟨r', kept', index'⟩ s referenced :=
    ⟨haccepted.outcome_load, hkept', v'.index, hsetting, h.references.trans g.references⟩
  -- the index may come from other nodes, but holds the same providers
  have hproviders := v.mem_providers_iff_of_nodes v' (fun _ hd => hd.mono hextends.roots)
    hextends.nodes h.files
  have hdeclared : ∀ d ∈ r'.selected c.buckets, ∀ a ∈ d.artifacts,
      a ∈ (⟨r', kept', index'⟩ : Material).declared :=
    fun _ hd _ ha => Material.mem_declared.mpr (v'.declares_of_mem hd ha)
  have hnil : Reconciliation.undeclared referenced index'.providers
      (⟨r', kept', index'⟩ : Material).declared s Artifact.displayName = [] := by
    rw [Reconciliation.undeclared_congr _ hproviders fun _ => Iff.rfl]
    -- what was declared stays so, and what was reported is declared by its copy
    refine Reconciliation.undeclared_eq_nil_of_declared (?_ : ∀ a ∈ m.declared, _) ?_
    · intro a ha
      obtain ⟨k, hk, hka⟩ := Material.mem_declared.mp ha
      exact hdeclared k (hextends.roots k (v.member k hk)) a hka
    · intro a ha
      rw [← (verdictOn_eq_violated hviolated.symm).2] at ha
      obtain ⟨x, hx, d, hd, had⟩ := h.mended a ha
      obtain ⟨d', hd', hread⟩ := hcopies x hx
      obtain rfl := Except.ok.inj (hd.symm.trans hread)
      exact hdeclared d hd' a had
  obtain ⟨sum, hsum⟩ := verdictOn_of_nil hnil
  exact ⟨sum, g'.outcome_run.trans (congrArg _ hsum)⟩

/-! ## A diamond whose lower node is declared

Of the report that comes to `d` below `a` only the main bucket is selected, so `e` is reported along
with the artifact of `d` for tests. The copy of `d` is that of the node below `b`, which is never
visited. -/

def mainConfig : Config := { rootConfig with buckets := some ["main"] }

/-- The copies of `e`, and of `d` as it stands below `b`. -/
def diamondCopies : List (String × Entry) :=
  [("main", directoryEntry "g:e:1"),
    ("main", diamondEntry [⟨none, some "tests", ["d.Y", "d.X"]⟩, ⟨none, none, ["d.D"]⟩])]

/-- What is reported before. -/
def diamondViolation : Violation where
  artifacts := [diamondTests, .external ⟨"g", "e", "1"⟩ none]
  buildFile := "build.gradle"
  suggestion :=
    "    dependencies \x7b\n    implementation 'g:d'\n    implementation 'g:e'\n    \x7d"

theorem diamond_follows :
    Follows (diamondDisk diamondReport "d.X\ne.E\nz.Z".toList)
      (diamondDisk (diamondReport.declareAll diamondCopies) "d.X\ne.E\nz.Z".toList)
      mainConfig ⟨.root, ["report.json"]⟩ diamondReport diamondResolution diamondViolation
      diamondCopies where
  accepted := diamond_accepted
  violated := by decide +kernel
  copied := by
    have hcopies : ∀ x ∈ diamondCopies, x.1 = "main" ∧
        x.2 ∈ Entry.nodesAll ((diamondReport.buckets.lookup "main").getD []) := by decide +kernel
    intro x hx
    obtain ⟨hname, hmem⟩ := hcopies x hx
    exact ⟨hname ▸ List.mem_singleton_self _, "main", List.mem_singleton_self _, _, rfl, hmem⟩
  mended := by
    refine List.forall_mem_cons.mpr ⟨?_, List.forall_mem_cons.mpr ⟨?_, by simp⟩⟩
    · exact ⟨_, List.mem_cons_of_mem _ List.mem_cons_self,
        diamondNode [⟨diamondTests, none, ["d.Y", "d.X"]⟩,
          ⟨.external ⟨"g", "d", "1"⟩ none, none, ["d.D"]⟩], by decide +kernel, by decide +kernel⟩
    · exact ⟨_, List.mem_cons_self, directoryNode ⟨"g", "e", "1"⟩, by decide +kernel,
        by decide +kernel⟩
  place := rfl
  content := ⟨(diamondReport.declareAll diamondCopies).written, by decide +kernel,
    by decide +kernel⟩
  references := by decide +kernel
  files := (diamondDisk_sameFiles _ _ _ _ (by decide +kernel)).listings

theorem diamond_mended :
    (run mainConfig).outcome (diamondDisk diamondReport "d.X\ne.E\nz.Z".toList) =
        .ok (.violated diamondViolation) ∧
      ∃ sum, (run mainConfig).outcome
        (diamondDisk (diamondReport.declareAll diamondCopies) "d.X\ne.E\nz.Z".toList) =
          .ok (.passed sum) := by
  have huniform : Uniform (diamondResolution.selected mainConfig.buckets) := by decide +kernel
  -- the report with the copies takes the place of the one before
  have hplace : { mainConfig with resolution := ⟨.root, ["report.json"]⟩ } = mainConfig := rfl
  have hpasses := mended_passes diamond_follows huniform
  rw [hplace] at hpasses
  exact ⟨diamond_follows.violated, hpasses⟩

end Audit

end DependencyAudit
