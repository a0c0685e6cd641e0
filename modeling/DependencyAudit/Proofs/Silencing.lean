import DependencyAudit.Proofs.Declaring
import DependencyAudit.Proofs.OrderIndependence
import DependencyAudit.Proofs.Provenance
import DependencyAudit.Proofs.RoundTrip
import DependencyAudit.Proofs.Switches

/-!
Ignoring what an audit reports. A violation is silenced by ignoring the identities of the reported
artifacts beside those that are ignored already: each class that was not excused has put one of its
candidates forward, and that one is ignored now.

Not every identity can be ignored, since an ignored identity has at most one colon and is not blank.
What a module is called leaves room for that (`plain_of_parse`), but a classifier may have colons,
and a project that is not published is called by the end of its path, whatever that is.

Main statement: `silenced_iff`. A violation can be silenced exactly if every entry that lists a
reported artifact leaves it an identity that can be ignored (`Entry.Fits`), and then the audit
passes.
-/

namespace DependencyAudit

open Inspection

/-! ## Identities of modules -/

theorem NotBlank.append {s : String} (h : NotBlank s) (t : String) : NotBlank (s ++ t) := by
  obtain ⟨c, hc, hblank⟩ := h
  exact ⟨c, by simp [hc], hblank⟩

namespace Coordinate

variable {c : Coordinate} {written : String}

/-- No colon stands in the group or the name, and without a group the name is not blank. -/
structure Plain (c : Coordinate) : Prop where
  group : ':' ∉ c.group.toList
  name : ':' ∉ c.name.toList
  notBlank : c.group = "" → NotBlank c.name

theorem plain_of_ofParts {parts : List (List Char)} (h : ofParts? parts = some c)
    (hcolon : ∀ part ∈ parts, ':' ∉ part) (hne : ∀ part ∈ parts, part ≠ [])
    (hfirst : ∀ part others, parts = part :: others → NotBlank (String.ofList part)) :
    c.Plain := by
  have hplain : ∀ part ∈ parts, ':' ∉ (String.ofList part).toList := by
    intro part hpart
    rw [String.toList_ofList]
    exact hcolon part hpart
  have hgroup : ∀ part ∈ parts, String.ofList part ≠ "" := by
    intro part hpart hnil
    exact hne part hpart (by simpa using congrArg String.toList hnil)
  unfold ofParts? at h
  -- the forms without a group are called by their first part, those with a group by two parts
  split at h
  · obtain rfl := Option.some.inj h
    exact ⟨List.not_mem_nil, hplain _ (by simp), fun _ => hfirst _ _ rfl⟩
  · split at h
    · obtain rfl := Option.some.inj h
      exact ⟨List.not_mem_nil, hplain _ (by simp), fun _ => hfirst _ _ rfl⟩
    · obtain rfl := Option.some.inj h
      exact ⟨hplain _ (by simp), hplain _ (by simp),
        fun hnone => absurd hnone (hgroup _ (by simp))⟩
  · obtain rfl := Option.some.inj h
    exact ⟨hplain _ (by simp), hplain _ (by simp),
      fun hnone => absurd hnone (hgroup _ (by simp))⟩
  · cases h

/-- A module that was read is called by pieces between colons, and the first of them starts with a
character that is not blank. -/
theorem plain_of_parse (h : parse? written = some c) : c.Plain := by
  obtain ⟨hempty, hparts⟩ := parse?_eq_some_iff.mp h
  have hne : ∀ part ∈ pieces written, part ≠ [] := fun part hpart hnil => hempty (hnil ▸ hpart)
  refine plain_of_ofParts hparts (fun _ => Text.not_mem_of_mem_splitAt) hne ?_
  intro part others hparts
  obtain ⟨x, rest, rfl⟩ :=
    List.exists_cons_of_ne_nil (hne part (hparts ▸ List.mem_cons_self))
  have hhead := Text.head?_of_splitAt hparts (List.cons_ne_nil x rest)
  exact ⟨x, by simp, Text.not_isBlank_of_head?_trim hhead.symm⟩

theorem Plain.notBlank_identity (h : c.Plain) : NotBlank c.identity := by
  rw [identity]
  split
  · rename_i hgroup
    exact h.notBlank hgroup
  · exact ⟨':', by simp, by decide⟩

/-- The number of colons in the identity of a module. -/
def colons (c : Coordinate) : Nat := if c.group = "" then 0 else 1

theorem Plain.count_identity (h : c.Plain) : c.identity.toList.count ':' = c.colons := by
  rw [identity, colons]
  split
  · exact List.count_eq_zero.mpr h.name
  · simp [List.count_append, List.count_eq_zero.mpr h.group, List.count_eq_zero.mpr h.name]

theorem Plain.ignorable_identity (h : c.Plain) : Ignorable c.identity := by
  refine ⟨h.notBlank_identity, ?_⟩
  rw [h.count_identity, colons]
  split <;> decide

end Coordinate

/-! ## Identities of artifacts -/

namespace Artifact

theorem notBlank_withClassifier {base : String} (h : NotBlank base) (mark : String)
    (classifier : Option String) : NotBlank (withClassifier base mark classifier) := by
  cases classifier with
  | none => exact h
  | some classifier =>
    rw [withClassifier]
    split
    · exact h
    · exact (h.append mark).append classifier

theorem count_withClassifier (base : String) (classifier : Option String) :
    (withClassifier base "|" classifier).toList.count ':' =
      base.toList.count ':' + (classifier.getD "").toList.count ':' := by
  cases classifier with
  | none => simp [withClassifier]
  | some classifier =>
    rw [withClassifier]
    split
    · rename_i hempty
      simp [hempty]
    · simp [List.count_append]

/-- Under a classifier, a module can be ignored exactly if the colons are not too many. -/
theorem ignorable_withClassifier_iff {c : Coordinate} (h : c.Plain) (classifier : Option String) :
    Ignorable (withClassifier c.identity "|" classifier) ↔
      c.colons + (classifier.getD "").toList.count ':' ≤ 1 := by
  have hcount := count_withClassifier c.identity classifier
  rw [h.count_identity] at hcount
  rw [← hcount]
  exact ⟨Ignorable.oneColon, fun hone => ⟨notBlank_withClassifier h.notBlank_identity "|" _, hone⟩⟩

end Artifact

namespace Entry

variable {x : Entry} {c : Coordinate} {artifact : Artifact}

/-- The entry names a module. -/
def Published (x : Entry) : Prop := ∃ written, x.moduleName = some written ∧ written ≠ ""

/-- The entry lists the artifact. -/
def Lists (x : Entry) (artifact : Artifact) : Prop :=
  ∃ c a, x.coordinate = .ok c ∧ a ∈ x.artifacts ∧ artifact = artifactOf x.project c a

/-- What the entry calls the artifact can be ignored: with its classifier, an external one has no
more than one colon, and a project names a module or ends in something that can be ignored. -/
def Fits (x : Entry) : Artifact → Prop
  | .external c classifier => c.colons + (classifier.getD "").toList.count ':' ≤ 1
  | .project path _ => x.Published ∨ Ignorable (unpublished path).name

theorem plain_of_published (h : x.coordinate = .ok c) (hx : x.Published) : c.Plain := by
  obtain ⟨written, hmodule, hne⟩ := hx
  simp only [coordinate, hmodule, if_neg hne] at h
  split at h
  · cases h
  · rename_i hparse
    obtain rfl := Except.ok.inj h
    exact Coordinate.plain_of_parse hparse

theorem eq_unpublished_of_not_published (h : x.coordinate = .ok c) (hx : ¬ x.Published) :
    ∃ path, x.project = some path ∧ c = unpublished path := by
  unfold coordinate at h
  split at h
  · cases h
  · rename_i path _ hproject
    exact ⟨path, hproject, (Except.ok.inj h).symm⟩
  · rename_i written hmodule
    by_cases hne : written = ""
    · rw [if_pos hne] at h
      split at h
      · cases h
      · rename_i path hproject
        exact ⟨path, hproject, (Except.ok.inj h).symm⟩
    · exact absurd ⟨written, hmodule, hne⟩ hx

theorem identity_unpublished (path : String) :
    (unpublished path).identity = (unpublished path).name := by
  have hgroup : (unpublished path).group = "" := by
    rw [unpublished]
    split <;> rfl
  rw [Coordinate.identity, if_pos hgroup]

theorem Lists.ignorable_iff (h : x.Lists artifact) :
    Ignorable artifact.ignoreIdentity ↔ x.Fits artifact := by
  obtain ⟨c, a, hc, _, rfl⟩ := h
  by_cases hx : x.Published
  · have hplain := plain_of_published hc hx
    cases hproject : x.project with
    | none => exact Artifact.ignorable_withClassifier_iff hplain a.classifier
    | some path => exact iff_of_true hplain.ignorable_identity (Or.inl hx)
  · obtain ⟨path, hproject, rfl⟩ := eq_unpublished_of_not_published hc hx
    rw [hproject]
    refine Iff.trans ?_ (or_iff_right hx).symm
    rw [artifactOf, Artifact.ignoreIdentity, identity_unpublished]

end Entry

/-! ## More is ignored -/

namespace Audit

open Written
open CommandLine (overrideTexts)

variable {disk : Disk} {c c' : Config} {m : Material} {s : Setting} {referenced : List String}
  {report : Report} {r : Resolution} {w : Violation}

/-- The configuration with the identities of the reported artifacts ignored besides. -/
def silencing (c : Config) (w : Violation) : Except Failure Config :=
  c.override
    [("ignore", overrideTexts (c.ignore ++ w.artifacts.map Artifact.ignoreIdentity))]

theorem silencing_eq_ok_iff (hc : c.Valid) (hne : w.artifacts ≠ []) :
    silencing c w = .ok c' ↔
      (∀ x ∈ c.ignore ++ w.artifacts.map Artifact.ignoreIdentity, Ignorable x) ∧
      c' = { c with ignore :=
        Ascending.strings (c.ignore ++ w.artifacts.map Artifact.ignoreIdentity) } :=
  Config.override_ignore_eq_ok_iff hc (by simp [hne])

/-- What is ignored does not matter for what is gathered. -/
theorem Gathers.ignoring (g : Gathers disk c m s referenced) (more : List String) :
    Gathers disk { c with ignore := more } m { s with ignore := more } referenced where
  report := g.report
  firstLevel := g.firstLevel
  index := g.index
  setting := by
    have hs := g.setting
    unfold Audit.setting at hs ⊢
    cases hpath : firstGiven c.project m.resolution.projectPath with
    | none =>
      rw [hpath] at hs
      cases hs
    | some path =>
      rw [hpath] at hs
      obtain rfl := Except.ok.inj hs
      rfl
  references := g.references

/-- Every candidate for a class is listed by an entry of the report. -/
theorem Gathers.exists_entry (g : Gathers disk c m s referenced)
    (ha : Accepted disk c.resolution report r) {artifact : Artifact} {name : String}
    (h : artifact ∈ m.index.providers name) : ∃ x ∈ report.entries, x.Lists artifact := by
  obtain ⟨d, hd, src, hsrc, rfl, _⟩ := (ClassIndex.mem_providers_of_build g.index).mp h
  have hresolution : r = m.resolution := Except.ok.inj (ha.outcome_load.symm.trans g.report)
  have hoccurs : Dependency.Occurs (r.selected c.buckets) d := by
    rw [hresolution]
    exact (Dependency.occurs_of_mem_visit hd).mono
      fun _ => Resolution.mem_selected_of_mem_firstLevel g.firstLevel
  obtain ⟨x, hx, hread⟩ := Resolution.exists_entry_of_occurs ha.resolution hoccurs
  obtain ⟨c, a, hc, ha, rfl⟩ := Entry.exists_artifact_of_resolve hread hsrc
  exact ⟨x, hx, c, a, hc, ha, rfl⟩

/-- With the reported artifacts ignored, an audit gathers the same and passes. -/
theorem passes_of_ignored (g : Gathers disk c m s referenced)
    (hw : verdictOn m s referenced = .violated w) {more : List String}
    (hkept : ∀ identity ∈ c.ignore, identity ∈ more)
    (hadded : ∀ a ∈ w.artifacts, a.ignoreIdentity ∈ more) :
    ∃ sum, (run { c with ignore := more }).outcome disk = .ok (.passed sum) := by
  obtain ⟨_, hfound⟩ := verdictOn_eq_violated hw
  have g' := g.ignoring more
  have hnone : Reconciliation.undeclared referenced m.index.providers m.declared
      { s with ignore := more } Artifact.displayName = [] := by
    refine Reconciliation.undeclared_eq_nil_of_excused
      (?_ : ∀ a, s.excuses m.declared a → _) ?_
    · intro a he
      rw [excuses_iff g] at he
      exact (excuses_iff g').mpr (he.imp id (Or.imp id (hkept _)))
    · intro a hmem
      rw [← hfound] at hmem
      exact (excuses_iff g').mpr (Or.inr (Or.inr (hadded a hmem)))
  obtain ⟨sum, hsum⟩ := verdictOn_of_nil hnone
  exact ⟨sum, g'.outcome_run.trans (congrArg Except.ok hsum)⟩

/-- For every accepted report, valid configuration and violation: the identities of the reported
artifacts can be ignored besides exactly if the entries that list them fit, and the audit passes
once they are. -/
theorem silenced_iff (hc : c.Valid) (ha : Accepted disk c.resolution report r)
    (hrun : (run c).outcome disk = .ok (.violated w)) :
    ((∃ c', silencing c w = .ok c') ↔
      ∀ artifact ∈ w.artifacts, ∀ x ∈ report.entries, x.Lists artifact → x.Fits artifact) ∧
    ∀ c', silencing c w = .ok c' → ∃ sum, (run c').outcome disk = .ok (.passed sum) := by
  obtain ⟨m, s, referenced, g, hw⟩ := outcome_run_iff.mp hrun
  have hviolated := hw.symm
  obtain ⟨hsome, hfound⟩ := verdictOn_eq_violated hviolated
  refine ⟨⟨?_, ?_⟩, ?_⟩
  · intro hsilenced artifact hmem x _ hlists
    obtain ⟨c', hsilenced⟩ := hsilenced
    have hall := ((silencing_eq_ok_iff hc hsome).mp hsilenced).1
    refine hlists.ignorable_iff.mp (hall _ (List.mem_append_right _ ?_))
    exact List.mem_map_of_mem hmem
  · intro hfits
    refine ⟨_, (silencing_eq_ok_iff hc hsome).mpr ⟨?_, rfl⟩⟩
    intro identity hmem
    rcases List.mem_append.mp hmem with hold | hnew
    · exact hc.ignorable identity hold
    · obtain ⟨artifact, hreported, rfl⟩ := List.mem_map.mp hnew
      -- a reported artifact is a candidate, and these come from entries
      obtain ⟨name, _, _, hcandidate, _⟩ := Reconciliation.mem_undeclared.mp (hfound ▸ hreported)
      obtain ⟨x, hx, hlists⟩ := g.exists_entry ha hcandidate
      exact hlists.ignorable_iff.mpr (hfits artifact hreported x hx hlists)
  · intro c' hsilenced
    obtain ⟨_, rfl⟩ := (silencing_eq_ok_iff hc hsome).mp hsilenced
    refine passes_of_ignored g hviolated ?_ ?_
    · intro identity hold
      exact Ascending.mem_strings.mpr (List.mem_append_left _ hold)
    · intro a hmem
      exact Ascending.mem_strings.mpr
        (List.mem_append_right _ (List.mem_map_of_mem hmem))

/-! ## Classifiers and paths with colons

Below `a`, which is declared, something lists a class that is used. It is `b` under a classifier,
or a project that is not published and whose path ends in a colon. -/

/-- A report of a project that declares `a`, with one entry below it. -/
def belowReport (x : Entry) : Report where
  project := some ":app"
  buckets := [("main", [moduleEntry "g:a:1" ["a.A"] [x]])]

/-- What the report is read as, for an entry with the given node. -/
def belowResolution (d : Dependency) : Resolution where
  projectPath := some ":app"
  buckets := [("main", [moduleNode ⟨"g", "a", "1"⟩ ["a.A"] [d]])]

def belowDisk (x : Entry) : Disk := rootDisk (belowReport x) "b.B".toList []

def soleViolation (a : Artifact) : Violation where
  artifacts := [a]
  buildFile := "build.gradle"
  suggestion := renderSuggestion "implementation" [a]

/-- An entry for `b` under a classifier. -/
def classifiedEntry (classifier : String) : Entry where
  moduleName := some "g:b:1"
  artifacts := [⟨none, some classifier, ["b.B"]⟩]

def classifiedArtifact (classifier : String) : Artifact :=
  .external ⟨"g", "b", "1"⟩ (some classifier)

def classifiedNode (classifier : String) : Dependency where
  sources := [⟨classifiedArtifact classifier, none, ["b.B"]⟩]
  coordinate := some ⟨"g", "b", "1"⟩

/-- An entry for a project whose path ends in a colon. -/
def openEntry : Entry where
  project := some ":lib:"
  artifacts := [⟨none, none, ["b.B"]⟩]

def openArtifact : Artifact := .project ":lib:" ⟨"", ":lib:", ""⟩

theorem rootConfig_valid : rootConfig.Valid where
  ignorable := fun _ h => absurd h List.not_mem_nil
  bucket := (CommandLine.valid_of_report rootConfig.resolution).bucket
  ascending := List.Pairwise.nil

theorem classified_accepted :
    Accepted (belowDisk (classifiedEntry "tests")) rootConfig.resolution
      (belowReport (classifiedEntry "tests")) (belowResolution (classifiedNode "tests")) :=
  ⟨⟨(belowReport (classifiedEntry "tests")).written, by decide +kernel, by decide +kernel⟩,
    by decide +kernel⟩

theorem tests_classifier_silenced : ∃ w c' sum,
    (run rootConfig).outcome (belowDisk (classifiedEntry "tests")) = .ok (.violated w) ∧
    silencing rootConfig w = .ok c' ∧
    (run c').outcome (belowDisk (classifiedEntry "tests")) = .ok (.passed sum) := by
  have hrun : (run rootConfig).outcome (belowDisk (classifiedEntry "tests")) =
      .ok (.violated (soleViolation (classifiedArtifact "tests"))) := by
    decide +kernel
  obtain ⟨hsilenced, hpasses⟩ := silenced_iff rootConfig_valid classified_accepted hrun
  have hfits : ∀ artifact ∈ (soleViolation (classifiedArtifact "tests")).artifacts,
      ∀ x ∈ (belowReport (classifiedEntry "tests")).entries,
        x.Lists artifact → x.Fits artifact := by
    intro artifact hmem x _ _
    obtain rfl := List.mem_singleton.mp hmem
    show 1 + List.count ':' "tests".toList ≤ 1
    decide
  obtain ⟨c', hc'⟩ := hsilenced.mpr hfits
  obtain ⟨sum, hsum⟩ := hpasses c' hc'
  exact ⟨_, c', sum, hrun, hc', hsum⟩

/-- The configuration is valid, and its audit has a violation that cannot be silenced. -/
structure Unsilenced (disk : Disk) (c : Config) : Prop where
  valid : c.Valid
  violated : ∃ w, (run c).outcome disk = .ok (.violated w) ∧ ∀ c', silencing c w ≠ .ok c'

theorem unsilenced_of_colons {a : Artifact} (hc : c.Valid)
    (hrun : (run c).outcome disk = .ok (.violated (soleViolation a)))
    (hcolons : 1 < a.ignoreIdentity.toList.count ':') : Unsilenced disk c := by
  refine ⟨hc, soleViolation a, hrun, ?_⟩
  intro c' hsilenced
  have hsome : (soleViolation a).artifacts ≠ [] := List.cons_ne_nil _ _
  obtain ⟨hall, _⟩ := (silencing_eq_ok_iff hc hsome).mp hsilenced
  have hone := (hall a.ignoreIdentity (List.mem_append_right _ List.mem_cons_self)).oneColon
  omega

theorem colons_unsilenced :
    Unsilenced (belowDisk (classifiedEntry "x:y")) rootConfig ∧
      Unsilenced (belowDisk openEntry) rootConfig := by
  refine ⟨?_, ?_⟩
  · exact unsilenced_of_colons (a := classifiedArtifact "x:y") rootConfig_valid
      (by decide +kernel) (by decide)
  · exact unsilenced_of_colons (a := openArtifact) rootConfig_valid
      (by decide +kernel) (by decide)

end Audit

end DependencyAudit
