import DependencyAudit.Proofs.ExitCode
import DependencyAudit.Proofs.Overriding

/-!
Two commands on the same project: the audit, and the listing of the artifacts that provide a
class. Command lines with the same switches for the configuration load the same material
(`loads_alike`), and an audit of a single class puts forward at most one of its candidates
(`undeclared_singleton`).

Main statement: `check_agrees_with_providers`. Where a single class is referenced, whether there
is a violation can be read off the listing, apart from what is ignored and what is the project's
own: some candidate must be listed, and all that are listed must be marked as transitive. The
violation then is one of them, with the least name.
-/

namespace DependencyAudit

open Inspection

/-! ## The audit of one class -/

namespace Reconciliation

open Artifact

variable {providers : String → List Artifact} {declared : List Artifact} {s : Setting}
  {key : Artifact → String} {name : String}

theorem mem_undeclared_singleton {r : Artifact} :
    r ∈ undeclared [name] providers declared s key ↔
      Unexcused providers declared s name ∧ least? key (providers name) = some r := by
  rw [mem_undeclared, least?_eq_some_iff]
  simp only [List.mem_singleton, exists_eq_left]

/-- The least candidate of the class is all that is put forward. -/
theorem undeclared_singleton {r : Artifact}
    (h : r ∈ undeclared [name] providers declared s key) :
    undeclared [name] providers declared s key = [r] := by
  obtain ⟨_, hleast⟩ := mem_undeclared_singleton.mp h
  have hstrict := strictly_undeclared [name] providers declared s key
  refine hstrict.eq_singleton (before_strictTotal key) h fun b hb => ?_
  obtain ⟨_, hleast'⟩ := mem_undeclared_singleton.mp hb
  exact Option.some.inj (hleast'.symm.trans hleast)

theorem undeclared_singleton_ne_nil_iff (key : Artifact → String) :
    undeclared [name] providers declared s key ≠ [] ↔
      providers name ≠ [] ∧ Unexcused providers declared s name := by
  refine ⟨?_, ?_⟩
  · intro hne
    obtain ⟨r, hr⟩ := List.exists_mem_of_ne_nil _ hne
    obtain ⟨hexc, hleast⟩ := mem_undeclared_singleton.mp hr
    exact ⟨List.ne_nil_of_mem (least?_spec hleast).1, hexc⟩
  · intro hparts
    obtain ⟨hne, hexc⟩ := hparts
    obtain ⟨a, ha⟩ := List.exists_mem_of_ne_nil _ hne
    obtain ⟨r, hr⟩ := exists_undeclared key (List.mem_singleton_self name) hexc ha
    exact List.ne_nil_of_mem hr

/-- No candidate excuses a class exactly if none is declared, and none the project's own or
ignored. -/
theorem unexcused_iff :
    Unexcused providers declared s name ↔
      (∀ b ∈ providers name, b ∉ declared) ∧
        ∀ b ∈ providers name, ¬ b.isOutputOf s.projectPath ∧ b.ignoreIdentity ∉ s.ignore := by
  simp only [Unexcused, excuses_iff, not_or]
  refine ⟨fun h => ⟨fun b hb => (h b hb).2.2, fun b hb => ⟨(h b hb).1, (h b hb).2.1⟩⟩, ?_⟩
  intro hparts b hb
  obtain ⟨hdeclared, hothers⟩ := hparts
  exact ⟨(hothers b hb).1, (hothers b hb).2, hdeclared b hb⟩

theorem least_of_mem_undeclared_singleton {r : Artifact}
    (h : r ∈ undeclared [name] providers declared s key) :
    r ∈ providers name ∧ ∀ b ∈ providers name, key r ≤ key b := by
  obtain ⟨hmem, hleast⟩ := least?_spec (mem_undeclared_singleton.mp h).2
  refine ⟨hmem, fun b hb hlt => ?_⟩
  have hbr : b ≠ r := by
    rintro rfl
    exact String.lt_irrefl _ hlt
  exact precedes_irrefl r (precedes_trans (hleast b hb hbr) (Or.inl hlt))

end Reconciliation

namespace Audit

variable {m : Material} {s : Setting} {referenced : List String}

theorem exists_violated_iff :
    (∃ w, verdictOn m s referenced = .violated w) ↔
      Reconciliation.undeclared referenced m.index.providers m.declared s
        Artifact.displayName ≠ [] := by
  refine ⟨?_, ?_⟩
  · intro hparts
    obtain ⟨w, hw⟩ := hparts
    obtain ⟨hne, hfound⟩ := verdictOn_eq_violated hw
    rwa [← hfound]
  · intro hne
    obtain ⟨w, hw⟩ := Option.isSome_iff_exists.mp (Reconciliation.isSome_of? (s := s).mpr hne)
    exact ⟨w, by rw [verdictOn, hw]⟩

end Audit

namespace CommandLine

open Written

deriving instance DecidableEq for Material

/-! ## The lines of a listing -/

/-- The line is about a candidate: it is indented. -/
def OnCandidate (line : String) : Prop := ∃ rest, line = "  " ++ rest

/-- The line ends with the mark of an artifact that is not declared. -/
def MarkedTransitive (line : String) : Prop := ∃ before, line = before ++ "(transitive)"

variable {declared : List Artifact} {b : Artifact} {m : Material} {name : String}

theorem onCandidate_providerLine : OnCandidate (providerLine declared b) := by
  simp only [OnCandidate, providerLine, String.append_assoc]
  exact ⟨_, rfl⟩

theorem marked_iff : MarkedTransitive (providerLine declared b) ↔ b ∉ declared := by
  by_cases h : b ∈ declared
  · have hline : providerLine declared b = ("  " ++ b.displayName ++ "  ") ++ "(declared)" := by
      simp [providerLine, h, String.append_assoc]
    simp only [h, not_true_eq_false, iff_false]
    -- the two marks differ in their last letter but one
    rintro ⟨before, heq⟩
    have hreversed := congrArg (fun s => s.toList.reverse) (hline.symm.trans heq)
    simp at hreversed
  · have hline : providerLine declared b = ("  " ++ b.displayName ++ "  ") ++ "(transitive)" := by
      simp [providerLine, h, String.append_assoc]
    simp only [h, not_false_eq_true, iff_true]
    exact ⟨_, hline⟩

/-- The lines about candidates are those of the artifacts that provide the class. -/
theorem candidate_line_iff {line : String} :
    line ∈ providerLines m name ∧ OnCandidate line ↔
      ∃ b ∈ m.index.providers name, providerLine m.declared b = line := by
  unfold providerLines
  split
  · rename_i hnone
    have hother : ¬ OnCandidate ("No resolved artifact provides " ++ name) := by
      rintro ⟨rest, heq⟩
      have hlists := congrArg String.toList heq
      simp at hlists
    simp only [hnone, List.mem_singleton, List.not_mem_nil, false_and, exists_false, iff_false]
    rintro ⟨rfl, hon⟩
    exact hother hon
  · rw [List.mem_map]
    refine ⟨And.left, fun hparts => ⟨hparts, ?_⟩⟩
    obtain ⟨b, _, rfl⟩ := hparts
    exact onCandidate_providerLine

theorem exists_candidate_line_iff :
    (∃ line ∈ providerLines m name, OnCandidate line) ↔ m.index.providers name ≠ [] := by
  simp only [candidate_line_iff]
  refine ⟨?_, fun hne => ?_⟩
  · rintro ⟨line, b, hb, _⟩
    exact List.ne_nil_of_mem hb
  · obtain ⟨b, hb⟩ := List.exists_mem_of_ne_nil _ hne
    exact ⟨_, b, hb, rfl⟩

theorem all_marked_iff :
    (∀ line ∈ providerLines m name, OnCandidate line → MarkedTransitive line) ↔
      ∀ b ∈ m.index.providers name, b ∉ m.declared := by
  refine ⟨fun hmarked b hb => ?_, fun hnone line hline hon => ?_⟩
  · obtain ⟨hline, hon⟩ := candidate_line_iff.mpr ⟨b, hb, rfl⟩
    exact marked_iff.mp (hmarked _ hline hon)
  · obtain ⟨b, hb, rfl⟩ := candidate_line_iff.mp ⟨hline, hon⟩
    exact marked_iff.mpr (hnone b hb)

/-! ## Two commands on one configuration -/

variable {environment environment' : List (String × String)} {arguments arguments' : List String}
  {disk : Disk} {a a' : Arguments} {config : Config} {m' : Material} {s : Setting}

theorem load_congr {c c' : Config} (hplace : c.resolution = c'.resolution)
    (hbuckets : c.buckets = c'.buckets) : Material.load c = Material.load c' := by
  unfold Material.load
  rw [hplace, hbuckets]

/-- What the listing loads is what the audit has gathered. -/
theorem loads_alike (hshared : Alike a a')
    (hloads : (gathering a').outcome disk = .ok (some m'))
    (hconfig : (configure? a).outcome disk = .ok (some config))
    (hload : (Material.load config).outcome disk = .ok m) : m' = m := by
  obtain ⟨found, hfound, hloads⟩ := outcome_bind_eq_ok.mp hloads
  cases found with
  | none => cases hloads
  | some config' =>
    obtain ⟨loaded, hload', hloads⟩ := outcome_bind_eq_ok.mp hloads
    obtain rfl := Option.some.inj (Except.ok.inj hloads)
    obtain ⟨hplace, hbuckets⟩ := hshared.configure?_alike hconfig hfound
    rw [← load_congr hplace hbuckets] at hload'
    exact Except.ok.inj (hload'.symm.trans hload)

theorem outcome_listing (h : Accepts environment arguments disk .providers a)
    (hname : a.others = [name]) (hloads : (gathering a).outcome disk = .ok (some m)) :
    ((Session.start environment arguments).runOn disk).outcome =
      .ok (.lines (providerLines m name)) := by
  refine (h.outcome_runOn rfl).trans ?_
  rw [hname, outcome_providers, hloads]
  rfl

/-- Without identities to ignore on the command line, the audit is that of the configuration. -/
theorem outcome_auditing {referenced : List String} (hignore : a.values .ignore = [])
    (hconfig : (configure? a).outcome disk = .ok (some config))
    (hgathers : Audit.Gathers disk config m s referenced) :
    (auditing a).outcome disk = .ok (some (Audit.verdictOn m s referenced)) := by
  refine (outcome_bind_of_ok hconfig _).trans ?_
  have hsame : ignoring config (a.values .ignore) = .ok config := by
    rw [ignoring, if_pos hignore]
  refine (outcome_bind_of_ok (a := Audit.verdictOn m s referenced) ?_ _).trans rfl
  refine (outcome_bind_of_ok ((outcome_ofExcept _).trans hsame) _).trans ?_
  exact hgathers.outcome_run

theorem outcome_audit {referenced : List String}
    (h : Accepts environment arguments disk .check a) (hignore : a.values .ignore = [])
    (hconfig : (configure? a).outcome disk = .ok (some config))
    (hgathers : Audit.Gathers disk config m s referenced) :
    ((Session.start environment arguments).runOn disk).outcome =
      .ok (verdictEnding (Audit.verdictOn m s referenced)) := by
  refine (h.outcome_runOn rfl).trans ?_
  rw [outcome_check, outcome_auditing hignore hconfig hgathers]
  rfl

theorem verdictEnding_eq_violation {v : Verdict} {w : Violation} :
    verdictEnding v = .violation w ↔ v = .violated w := by
  cases v <;> simp [verdictEnding]

theorem check_agrees_with_providers
    (hcheck : Accepts environment arguments disk .check a)
    (hproviders : Accepts environment' arguments' disk .providers a')
    (hshared : Alike a a') (hignore : a.values .ignore = []) (hname : a'.others = [name])
    (hloads : (gathering a').outcome disk = .ok (some m'))
    (hconfig : (configure? a).outcome disk = .ok (some config))
    (hgathers : Audit.Gathers disk config m s [name]) :
    let checked := ((Session.start environment arguments).runOn disk).outcome
    let listed := ((Session.start environment' arguments').runOn disk).outcome
    let candidates := m'.index.providers name
    let lines := providerLines m' name
    listed = .ok (.lines lines) ∧
    (∀ line, line ∈ lines ∧ OnCandidate line ↔
      ∃ b ∈ candidates, providerLine m'.declared b = line) ∧
    ((∃ w, checked = .ok (.violation w)) ↔
      (∃ line ∈ lines, OnCandidate line) ∧
      (∀ line ∈ lines, OnCandidate line → MarkedTransitive line) ∧
      ∀ b ∈ candidates, ¬ b.isOutputOf s.projectPath ∧ b.ignoreIdentity ∉ config.ignore) ∧
    ∀ w, checked = .ok (.violation w) →
      ∃ r ∈ candidates, w.artifacts = [r] ∧ providerLine m'.declared r ∈ lines ∧
        ∀ b ∈ candidates, r.displayName ≤ b.displayName := by
  intro checked listed candidates lines
  have hchecked : checked = .ok (verdictEnding (Audit.verdictOn m s [name])) :=
    outcome_audit hcheck hignore hconfig hgathers
  have hload := Audit.outcome_load_iff.mpr ⟨hgathers.report, hgathers.firstLevel, hgathers.index⟩
  obtain rfl : m' = m := loads_alike hshared hloads hconfig hload
  have hviolates : ∀ w, checked = .ok (.violation w) ↔
      Audit.verdictOn m' s [name] = .violated w := by
    intro w
    rw [hchecked, Except.ok.injEq, verdictEnding_eq_violation]
  refine ⟨outcome_listing hproviders hname hloads, fun line => candidate_line_iff, ?_, ?_⟩
  · simp only [hviolates]
    rw [Audit.exists_violated_iff, Reconciliation.undeclared_singleton_ne_nil_iff,
      exists_candidate_line_iff, all_marked_iff, Reconciliation.unexcused_iff, hgathers.ignore_eq]
  · intro w hw
    obtain ⟨hne, hfound⟩ := Audit.verdictOn_eq_violated ((hviolates w).mp hw)
    rw [hfound] at hne ⊢
    obtain ⟨r, hr⟩ := List.exists_mem_of_ne_nil _ hne
    obtain ⟨hmem, hleast⟩ := Reconciliation.least_of_mem_undeclared_singleton hr
    exact ⟨r, hmem, Reconciliation.undeclared_singleton hr,
      (candidate_line_iff.mpr ⟨r, hmem, rfl⟩).1, hleast⟩

/-! ## Two candidates with one name

The project declares `b` alone, which pulls in a version `1` of `c` and a `c` without a version
but with the classifier `1`. Both are listed under the same name; the audit reports one. -/

def tiedReport : Report where
  project := some ":app"
  buckets := [("main", [moduleEntry "g:b:1" ["b.B"]
    [moduleEntry "g:c:1" ["c.C"] [],
      { moduleName := some "g:c", artifacts := [⟨none, some "1", ["c.C"]⟩] }]])]

def tiedDisk : Disk := rootDisk tiedReport "c.C".toList []

/-- The candidate with a version. -/
def versioned : Artifact := .external ⟨"g", "c", "1"⟩ none

/-- The candidate with a classifier. -/
def classified : Artifact := .external ⟨"g", "c", ""⟩ (some "1")

def tiedMaterial : Material :=
  let root := moduleNode ⟨"g", "b", "1"⟩ ["b.B"]
    [moduleNode ⟨"g", "c", "1"⟩ ["c.C"] [],
      { sources := [⟨classified, none, ["c.C"]⟩], children := [],
        coordinate := some ⟨"g", "c", ""⟩ }]
  { resolution := { projectPath := some ":app", buckets := [("main", [root])] }
    firstLevel := [root]
    index :=
      { table := [("b.B", [.external ⟨"g", "b", "1"⟩ none]), ("c.C", [versioned, classified])]
        added := [.external ⟨"g", "b", "1"⟩ none, versioned, classified] } }

def tiedAudit : Arguments where
  given := [(.resolution, "report.json"), (.output, "used.refs"), (.suggestInto, "api")]

def tiedListing : Arguments where
  given := [(.output, "used.refs"), (.resolution, "report.json")]
  others := ["c.C"]

theorem tiedAudit_accepts :
    Accepts [] ["check", "--resolution", "report.json", "--output=used.refs", "--suggest-into",
      "api"] tiedDisk .check tiedAudit where
  parsed := ⟨⟨[], ["check", "--resolution", "report.json", "--output=used.refs",
      "--suggest-into", "api"]⟩, "check", _, by decide, rfl, rfl, by decide,
    by decide, ⟨.warning, .console⟩, by decide⟩
  noHelp := by decide
  outputs := by decide
  others := by decide

theorem tiedListing_accepts :
    Accepts [] ["providers", "--output=used.refs", "c.C", "--resolution", "report.json"]
      tiedDisk .providers tiedListing where
  parsed := ⟨⟨[], ["providers", "--output=used.refs", "c.C", "--resolution", "report.json"]⟩,
    "providers", _, by decide, rfl, rfl, by decide, by decide,
    ⟨.warning, .console⟩, by decide⟩
  noHelp := by decide
  outputs := by decide
  others := by decide

theorem tied_gathers :
    Audit.Gathers tiedDisk { rootConfig with bucket := "api" } tiedMaterial
      { projectPath := ":app", bucket := "api" } ["c.C"] where
  report := by decide +kernel
  firstLevel := by decide +kernel
  index := by decide +kernel
  setting := by decide +kernel
  references := by decide +kernel

/-- Both candidates are listed in the same way, and one of them is reported. -/
theorem tied_candidates_agree :
    ((Session.start [] ["providers", "--output=used.refs", "c.C", "--resolution",
        "report.json"]).runOn tiedDisk).outcome =
      .ok (.lines ["  g:c:1  (transitive)", "  g:c:1  (transitive)"]) ∧
    ∃ w, ((Session.start [] ["check", "--resolution", "report.json", "--output=used.refs",
        "--suggest-into", "api"]).runOn tiedDisk).outcome = .ok (.violation w) ∧
      ∃ r ∈ [versioned, classified], w.artifacts = [r] := by
  have hloads : (gathering tiedListing).outcome tiedDisk = .ok (some tiedMaterial) := by
    decide +kernel
  have hconfig : (configure? tiedAudit).outcome tiedDisk =
      .ok (some { rootConfig with bucket := "api" }) := by
    decide +kernel
  have hshared : Alike tiedAudit tiedListing := by
    unfold Alike
    decide +kernel
  obtain ⟨hlisted, _, hiff, hfound⟩ := check_agrees_with_providers tiedAudit_accepts
    tiedListing_accepts hshared (by decide +kernel) rfl hloads hconfig tied_gathers
  have hlines : providerLines tiedMaterial "c.C" =
      ["  g:c:1  (transitive)", "  g:c:1  (transitive)"] := by
    decide +kernel
  rw [hlines] at hlisted hiff
  obtain ⟨w, hw⟩ := hiff.mpr ⟨⟨_, List.mem_cons_self, "g:c:1  (transitive)", rfl⟩,
    fun line hline _ => by
      obtain rfl : line = "  g:c:1  (transitive)" := by simpa using hline
      exact ⟨"  g:c:1  ", rfl⟩,
    by decide +kernel⟩
  obtain ⟨r, hr, hone, _⟩ := hfound w hw
  exact ⟨hlisted, w, hw, r, hr, hone⟩

end CommandLine

end DependencyAudit
