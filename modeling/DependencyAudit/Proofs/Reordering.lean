import DependencyAudit.Proofs.Selection
import DependencyAudit.Proofs.Visit

/-!
Reports in another order. Entries are reordered by permuting them, and at any depth the artifacts
of each and the entries below it. The trees of reordered entries mirror each other: each node of
the one has a node of the other with the same identity, the same sources, and children of the
same identities (`resolveAll_of_reordered`), and this carries over to the selected buckets of
reordered reports (`Resolution.Mirrors.selected`).

Which node of an identity is visited depends on the order. It makes no difference to what is
listed where nodes of one identity list the same sources and have children of the same
identities (`Uniform`).
-/

namespace DependencyAudit

/-! ## Reordered entries -/

mutual

/-- The entries differ only in the order of their artifacts and of the entries below them, and of
those at any depth. -/
inductive Entry.Reordered : Entry → Entry → Prop where
  | entry {moduleName project : Option String} {artifacts artifacts' : List ArtifactEntry}
      {below below' : List Entry} :
      artifacts.Perm artifacts' → Entry.ReorderedAll below below' →
      Entry.Reordered ⟨moduleName, project, artifacts, below⟩
        ⟨moduleName, project, artifacts', below'⟩

/-- The entries are those of the other list in another order, and each is reordered itself. -/
inductive Entry.ReorderedAll : List Entry → List Entry → Prop where
  | nil : Entry.ReorderedAll [] []
  | cons {e e' : Entry} {es es' : List Entry} :
      Entry.Reordered e e' → Entry.ReorderedAll es es' → Entry.ReorderedAll (e :: es) (e' :: es')
  | swap (e f : Entry) (es : List Entry) : Entry.ReorderedAll (e :: f :: es) (f :: e :: es)
  | trans {es fs gs : List Entry} :
      Entry.ReorderedAll es fs → Entry.ReorderedAll fs gs → Entry.ReorderedAll es gs

end

/-- The reports name the same project, and the entries of each bucket are reordered. -/
structure Report.Reordered (r r' : Report) : Prop where
  project : r.project = r'.project
  buildFile : r.buildFile = r'.buildFile
  buckets : ∀ name, Option.Rel Entry.ReorderedAll (r.buckets.lookup name) (r'.buckets.lookup name)

/-! ## Trees that mirror each other -/

/-- The sources have one artifact and one file, and name the same classes. -/
structure Source.Same (s t : Source) : Prop where
  artifact : s.artifact = t.artifact
  file : s.file = t.file
  classes : (∀ name ∈ s.classes, name ∈ t.classes) ∧ ∀ name ∈ t.classes, name ∈ s.classes

instance (s t : Source) : Decidable (s.Same t) :=
  decidable_of_iff
    (s.artifact = t.artifact ∧ s.file = t.file ∧
      (∀ name ∈ s.classes, name ∈ t.classes) ∧ ∀ name ∈ t.classes, name ∈ s.classes)
    ⟨fun ⟨artifact, file, classes⟩ => ⟨artifact, file, classes⟩,
      fun ⟨artifact, file, classes⟩ => ⟨artifact, file, classes⟩⟩

namespace Dependency

def childIdentities (d : Dependency) : List String := d.children.map identity

theorem mem_childIdentities {d : Dependency} {name : String} :
    name ∈ d.childIdentities ↔ ∃ c ∈ d.children, c.identity = name :=
  List.mem_map

/-- The nodes have one identity, the same sources, and children of the same identities. -/
structure Alike (d e : Dependency) : Prop where
  identity : d.identity = e.identity
  sources : ∀ s, s ∈ d.sources ↔ s ∈ e.sources
  children : ∀ name, name ∈ d.childIdentities ↔ name ∈ e.childIdentities

theorem Alike.refl (d : Dependency) : Alike d d := ⟨rfl, fun _ => Iff.rfl, fun _ => Iff.rfl⟩

theorem Alike.trans {d e f : Dependency} (hde : Alike d e) (hef : Alike e f) : Alike d f where
  identity := hde.identity.trans hef.identity
  sources s := (hde.sources s).trans (hef.sources s)
  children name := (hde.children name).trans (hef.children name)

theorem Alike.symm {d e : Dependency} (h : Alike d e) : Alike e d where
  identity := h.identity.symm
  sources s := (h.sources s).symm
  children name := (h.children name).symm

/-- Each root of the trees, and each node of them, has one of the other trees that it is alike. -/
structure Covered (ds es : List Dependency) : Prop where
  roots : ∀ d ∈ ds, ∃ e ∈ es, Alike d e
  nodes : ∀ d, Occurs ds d → ∃ e, Occurs es e ∧ Alike d e

theorem Covered.of_subset {ds es : List Dependency} (h : ∀ d ∈ ds, d ∈ es) : Covered ds es where
  roots d hd := ⟨d, h d hd, .refl d⟩
  nodes d hd := ⟨d, hd.mono h, .refl d⟩

theorem Covered.trans {ds es fs : List Dependency} (h : Covered ds es) (h' : Covered es fs) :
    Covered ds fs where
  roots d hd := by
    obtain ⟨e, he, hde⟩ := h.roots d hd
    obtain ⟨f, hf, hef⟩ := h'.roots e he
    exact ⟨f, hf, hde.trans hef⟩
  nodes d hd := by
    obtain ⟨e, he, hde⟩ := h.nodes d hd
    obtain ⟨f, hf, hef⟩ := h'.nodes e he
    exact ⟨f, hf, hde.trans hef⟩

theorem Covered.cons {d e : Dependency} {ds es : List Dependency} (hde : Alike d e)
    (hbelow : Covered d.children e.children) (h : Covered ds es) :
    Covered (d :: ds) (e :: es) where
  roots x hx := by
    rcases List.mem_cons.mp hx with rfl | hx
    · exact ⟨e, List.mem_cons_self, hde⟩
    · obtain ⟨y, hy, hxy⟩ := h.roots x hx
      exact ⟨y, List.mem_cons_of_mem e hy, hxy⟩
  nodes x hx := by
    rcases occurs_cons.mp hx with rfl | hx | hx
    · exact ⟨e, .root List.mem_cons_self, hde⟩
    · obtain ⟨y, hy, hxy⟩ := hbelow.nodes x hx
      exact ⟨y, occurs_cons.mpr (Or.inr (Or.inl hy)), hxy⟩
    · obtain ⟨y, hy, hxy⟩ := h.nodes x hx
      exact ⟨y, occurs_cons.mpr (Or.inr (Or.inr hy)), hxy⟩

/-- The trees cover each other. -/
structure Mirrored (ds es : List Dependency) : Prop where
  forth : Covered ds es
  back : Covered es ds

theorem Mirrored.of_mem_iff {ds es : List Dependency} (h : ∀ d, d ∈ ds ↔ d ∈ es) :
    Mirrored ds es where
  forth := .of_subset fun d => (h d).mp
  back := .of_subset fun d => (h d).mpr

theorem Mirrored.trans {ds es fs : List Dependency} (h : Mirrored ds es) (h' : Mirrored es fs) :
    Mirrored ds fs :=
  ⟨h.forth.trans h'.forth, h'.back.trans h.back⟩

theorem Mirrored.cons {d e : Dependency} {ds es : List Dependency} (hde : Alike d e)
    (hbelow : Mirrored d.children e.children) (h : Mirrored ds es) :
    Mirrored (d :: ds) (e :: es) :=
  ⟨.cons hde hbelow.forth h.forth, .cons hde.symm hbelow.back h.back⟩

theorem Covered.childIdentities {d e : Dependency} (h : Covered d.children e.children)
    {name : String} (hname : name ∈ d.childIdentities) : name ∈ e.childIdentities := by
  obtain ⟨c, hc, rfl⟩ := mem_childIdentities.mp hname
  obtain ⟨c', hc', halike⟩ := h.roots c hc
  exact mem_childIdentities.mpr ⟨c', hc', halike.identity.symm⟩

end Dependency

/-! ## Reading reordered entries -/

namespace Entry

open Dependency

theorem resolve_eq_ok_iff {base : Path} {moduleName project : Option String}
    {artifacts : List ArtifactEntry} {below : List Entry} {d : Dependency} :
    resolve base ⟨moduleName, project, artifacts, below⟩ = .ok d ↔
      ∃ c children, coordinate ⟨moduleName, project, artifacts, below⟩ = .ok c ∧
        resolveAll base below = .ok children ∧
        d = ⟨artifacts.map (sourceOf base project c), children, some c, project⟩ := by
  rw [resolve]
  cases coordinate ⟨moduleName, project, artifacts, below⟩ with
  | error f => simp
  | ok c =>
    cases resolveAll base below with
    | error f => simp
    | ok children => simp [eq_comm]

theorem resolveAll_cons_eq_ok_iff {base : Path} {e : Entry} {es : List Entry}
    {ds : List Dependency} :
    resolveAll base (e :: es) = .ok ds ↔
      ∃ d rest, resolve base e = .ok d ∧ resolveAll base es = .ok rest ∧ ds = d :: rest := by
  rw [resolveAll]
  cases resolve base e with
  | error f => simp
  | ok d =>
    cases resolveAll base es with
    | error f => simp
    | ok rest => simp [eq_comm]

/-- The nodes of one entry with its artifacts in two orders are alike if what is below mirrors
each other. -/
theorem alike_of_perm {base : Path} {project : Option String} {c : Coordinate}
    {artifacts artifacts' : List ArtifactEntry} {children children' : List Dependency}
    (h : artifacts.Perm artifacts') (hbelow : Mirrored children children') :
    Alike ⟨artifacts.map (sourceOf base project c), children, some c, project⟩
      ⟨artifacts'.map (sourceOf base project c), children', some c, project⟩ where
  identity := rfl
  sources _ := (h.map _).mem_iff
  children _ := ⟨Covered.childIdentities hbelow.forth, Covered.childIdentities hbelow.back⟩

mutual

theorem resolve_of_reordered {base : Path} : ∀ {e e' : Entry}, Reordered e e' →
    ∀ {d : Dependency}, resolve base e = .ok d →
      ∃ d', resolve base e' = .ok d' ∧ Alike d d' ∧ Mirrored d.children d'.children
  | _, _, .entry hartifacts hbelow, d, hd => by
    obtain ⟨c, children, hc, hchildren, rfl⟩ := resolve_eq_ok_iff.mp hd
    obtain ⟨children', hchildren', hmirrored⟩ := resolveAll_of_reordered hbelow hchildren
    exact ⟨_, resolve_eq_ok_iff.mpr ⟨c, children', hc, hchildren', rfl⟩,
      alike_of_perm hartifacts hmirrored, hmirrored⟩

theorem resolveAll_of_reordered {base : Path} : ∀ {es es' : List Entry}, ReorderedAll es es' →
    ∀ {ds : List Dependency}, resolveAll base es = .ok ds →
      ∃ ds', resolveAll base es' = .ok ds' ∧ Mirrored ds ds'
  | _, _, .nil, ds, hds => ⟨ds, hds, .of_mem_iff fun _ => Iff.rfl⟩
  | _, _, .cons he hes, ds, hds => by
    obtain ⟨d, rest, hd, hrest, rfl⟩ := resolveAll_cons_eq_ok_iff.mp hds
    obtain ⟨d', hd', halike, hbelow⟩ := resolve_of_reordered he hd
    obtain ⟨rest', hrest', hmirrored⟩ := resolveAll_of_reordered hes hrest
    exact ⟨d' :: rest', resolveAll_cons_eq_ok_iff.mpr ⟨d', rest', hd', hrest', rfl⟩,
      .cons halike hbelow hmirrored⟩
  | _, _, .swap e f es, ds, hds => by
    obtain ⟨d, _, hd, htail, rfl⟩ := resolveAll_cons_eq_ok_iff.mp hds
    obtain ⟨d', rest, hd', hrest, rfl⟩ := resolveAll_cons_eq_ok_iff.mp htail
    have hswapped : resolveAll base (e :: es) = .ok (d :: rest) :=
      resolveAll_cons_eq_ok_iff.mpr ⟨d, rest, hd, hrest, rfl⟩
    refine ⟨d' :: d :: rest, resolveAll_cons_eq_ok_iff.mpr ⟨d', _, hd', hswapped, rfl⟩, ?_⟩
    exact .of_mem_iff fun _ => (List.Perm.swap d' d rest).mem_iff
  | _, _, .trans h h', ds, hds => by
    -- the entries in between are accepted as well
    obtain ⟨ds', hds', hmirrored⟩ := resolveAll_of_reordered h hds
    obtain ⟨ds'', hds'', hmirrored'⟩ := resolveAll_of_reordered h' hds'
    exact ⟨ds'', hds'', hmirrored.trans hmirrored'⟩

end

end Entry

/-! ## The selected buckets of reordered reports -/

namespace Resolution

open Dependency

variable {base base' : Path} {report report' : Report} {r r' : Resolution}

theorem resolveBuckets_cons_eq_ok_iff {name : String} {entries : List Entry}
    {rest : List (String × List Entry)} {buckets : List (String × List Dependency)} :
    resolveBuckets base ((name, entries) :: rest) = .ok buckets ↔
      ∃ trees others, Entry.resolveAll base entries = .ok trees ∧
        resolveBuckets base rest = .ok others ∧ buckets = (name, trees) :: others := by
  rw [resolveBuckets]
  cases Entry.resolveAll base entries with
  | error f => simp
  | ok trees =>
    cases resolveBuckets base rest with
    | error f => simp
    | ok others => simp [eq_comm]

/-- A bucket is resolved to what its entries are resolved to. -/
theorem lookup_resolveBuckets {written : List (String × List Entry)}
    {buckets : List (String × List Dependency)} (h : resolveBuckets base written = .ok buckets)
    (name : String) :
    Option.Rel (fun entries trees => Entry.resolveAll base entries = .ok trees)
      (written.lookup name) (buckets.lookup name) := by
  induction written generalizing buckets with
  | nil =>
    obtain rfl := Except.ok.inj h
    exact .none
  | cons bucket written ih =>
    obtain ⟨other, entries⟩ := bucket
    obtain ⟨trees, others, htrees, hothers, rfl⟩ := resolveBuckets_cons_eq_ok_iff.mp h
    rw [List.lookup_cons, List.lookup_cons]
    by_cases hname : name == other
    · simp only [hname]
      exact .some htrees
    · simp only [hname]
      exact ih hothers

theorem ofReport_eq_ok_iff :
    ofReport base report = .ok r ↔ ∃ buckets, resolveBuckets base report.buckets = .ok buckets ∧
      r = ⟨report.project, report.buildFile, buckets⟩ := by
  unfold ofReport
  cases resolveBuckets base report.buckets with
  | error f => simp
  | ok buckets => simp [eq_comm]

/-- The resolutions name one project, and their buckets have the same names and mirror each
other. -/
structure Mirrors (r r' : Resolution) : Prop where
  project : r.projectPath = r'.projectPath
  buildFile : r.buildFile = r'.buildFile
  names : ∀ name, name ∈ r.bucketNames ↔ name ∈ r'.bucketNames
  buckets : ∀ name, Mirrored (r.bucket name) (r'.bucket name)

theorem mem_bucketNames {name : String} :
    name ∈ r.bucketNames ↔ (r.buckets.lookup name).isSome := by
  rw [List.lookup_isSome_iff, bucketNames, List.mem_map]
  refine ⟨?_, ?_⟩
  · intro hparts
    obtain ⟨b, hb, rfl⟩ := hparts
    exact ⟨b, hb, beq_self_eq_true _⟩
  · intro hparts
    obtain ⟨b, hb, he⟩ := hparts
    exact ⟨b, hb, (eq_of_beq he).symm⟩

theorem mirrors_of_reordered (h : report.Reordered report')
    (hr : ofReport base report = .ok r) (hr' : ofReport base report' = .ok r') :
    Mirrors r r' := by
  obtain ⟨buckets, hbuckets, rfl⟩ := ofReport_eq_ok_iff.mp hr
  obtain ⟨buckets', hbuckets', rfl⟩ := ofReport_eq_ok_iff.mp hr'
  have hlookup : ∀ name,
      Option.Rel Mirrored (buckets.lookup name) (buckets'.lookup name) := by
    intro name
    have hwritten := h.buckets name
    have hread := lookup_resolveBuckets hbuckets name
    have hread' := lookup_resolveBuckets hbuckets' name
    -- written entries are related to written ones, and both to the trees read from them
    generalize report.buckets.lookup name = written, report'.buckets.lookup name = written',
      buckets.lookup name = read, buckets'.lookup name = read' at hwritten hread hread' ⊢
    cases hwritten with
    | none =>
      cases hread
      cases hread'
      exact .none
    | some hentries =>
      obtain ⟨htrees⟩ := hread
      obtain ⟨htrees'⟩ := hread'
      obtain ⟨trees', hfound, hmirrored⟩ := Entry.resolveAll_of_reordered hentries htrees
      obtain rfl := Except.ok.inj (htrees'.symm.trans hfound)
      exact .some hmirrored
  refine ⟨h.project, h.buildFile, fun name => ?_, fun name => ?_⟩
  · rw [mem_bucketNames, mem_bucketNames]
    have hname := hlookup name
    generalize buckets.lookup name = read, buckets'.lookup name = read' at hname ⊢
    cases hname <;> rfl
  · unfold bucket
    have hname := hlookup name
    generalize buckets.lookup name = read, buckets'.lookup name = read' at hname ⊢
    cases hname with
    | none => exact .of_mem_iff fun _ => Iff.rfl
    | some hmirrored => exact hmirrored

/-- Selections in two orders stand for the same buckets. -/
theorem Mirrors.selection (h : Mirrors r r') {buckets buckets' : Option (List String)}
    (hperm : Option.Rel List.Perm buckets buckets') {name : String} :
    name ∈ r.selection buckets ↔ name ∈ r'.selection buckets' := by
  cases hperm with
  | none => exact h.names name
  | some hperm => exact hperm.mem_iff

theorem covered_selected {buckets buckets' : Option (List String)}
    (hnames : ∀ name ∈ r.selection buckets, name ∈ r'.selection buckets')
    (htrees : ∀ name, Covered (r.bucket name) (r'.bucket name)) :
    Covered (r.selected buckets) (r'.selected buckets') where
  roots d hd := by
    obtain ⟨name, hname, hd⟩ := mem_selected.mp hd
    obtain ⟨e, he, halike⟩ := (htrees name).roots d hd
    exact ⟨e, mem_selected.mpr ⟨name, hnames name hname, he⟩, halike⟩
  nodes d hd := by
    obtain ⟨name, hname, hd⟩ := occurs_flatMap.mp hd
    obtain ⟨e, he, halike⟩ := (htrees name).nodes d hd
    exact ⟨e, occurs_flatMap.mpr ⟨name, hnames name hname, he⟩, halike⟩

theorem Mirrors.selected (h : Mirrors r r') {buckets buckets' : Option (List String)}
    (hperm : Option.Rel List.Perm buckets buckets') :
    Mirrored (r.selected buckets) (r'.selected buckets') where
  forth := covered_selected (fun _ => (h.selection hperm).mp) fun name => (h.buckets name).forth
  back := covered_selected (fun _ => (h.selection hperm).mpr) fun name => (h.buckets name).back

end Resolution

/-! ## Trees that may be visited in any order -/

namespace Dependency

/-- Nodes of one identity list the same sources, and have children of the same identities. -/
def Uniform (trees : List Dependency) : Prop :=
  ∀ d, Occurs trees d → ∀ e, Occurs trees e → d.identity = e.identity →
    (∀ s ∈ d.sources, ∃ t ∈ e.sources, s.Same t) ∧
      ∀ name ∈ d.childIdentities, name ∈ e.childIdentities

instance (trees : List Dependency) : Decidable (Uniform trees) := by
  unfold Uniform
  infer_instance

theorem Uniform.of_covered {ds es : List Dependency} (h : Covered es ds) (hu : Uniform ds) :
    Uniform es := by
  intro d hd e he hid
  obtain ⟨d', hd', hdd'⟩ := h.nodes d hd
  obtain ⟨e', he', hee'⟩ := h.nodes e he
  have hid' : d'.identity = e'.identity :=
    hdd'.identity.symm.trans (hid.trans hee'.identity)
  -- go over to the trees that cover, and come back
  obtain ⟨hsources, hchildren⟩ := hu d' hd' e' he' hid'
  refine ⟨?_, ?_⟩
  · intro s hs
    obtain ⟨t, ht, hsame⟩ := hsources s ((hdd'.sources s).mp hs)
    exact ⟨t, (hee'.sources t).mpr ht, hsame⟩
  · intro name hname
    exact (hee'.children name).mpr (hchildren name ((hdd'.children name).mp hname))

section

variable {trees roots : List Dependency}

/-- What a root lists is listed by the first-level dependency of its identity. -/
theorem Uniform.source_kept (hu : Uniform trees) (hroots : ∀ r ∈ roots, r ∈ trees)
    (hkept : ∀ t ∈ trees, ∃ r ∈ roots, r.identity = t.identity) {d : Dependency} (hd : d ∈ trees)
    {s : Source} (hs : s ∈ d.sources) : ∃ k ∈ roots, ∃ t ∈ k.sources, s.Same t := by
  obtain ⟨k, hk, hid⟩ := hkept d hd
  obtain ⟨t, ht, hsame⟩ := (hu d (.root hd) k (.root (hroots k hk)) hid.symm).1 s hs
  exact ⟨k, hk, t, ht, hsame⟩

/-- What any node lists is listed by the visited node of its identity. -/
theorem Uniform.source_visited (hu : Uniform trees) (hroots : ∀ r ∈ roots, r ∈ trees)
    (hkept : ∀ t ∈ trees, ∃ r ∈ roots, r.identity = t.identity) {d : Dependency}
    (hd : Occurs trees d) {s : Source} (hs : s ∈ d.sources) :
    ∃ v ∈ visit roots, ∃ t ∈ v.sources, s.Same t := by
  have hagree : ∀ d e, Occurs trees d → Occurs trees e → d.identity = e.identity →
      ∀ c ∈ d.children, ∃ c' ∈ e.children, c'.identity = c.identity := by
    intro d e hd he hid c hc
    exact mem_childIdentities.mp ((hu d hd e he hid).2 _ (mem_childIdentities.mpr ⟨c, hc, rfl⟩))
  obtain ⟨v, hv, hid⟩ := identity_visited hroots hkept hagree hd
  have hocc : Occurs trees v := (occurs_of_mem_visit hv).mono hroots
  obtain ⟨t, ht, hsame⟩ := (hu d hd v hocc hid.symm).1 s hs
  exact ⟨v, hv, t, ht, hsame⟩

end

end Dependency

end DependencyAudit
