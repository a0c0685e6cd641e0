import DependencyAudit.Proofs.Equality
import DependencyAudit.Proofs.Reconciliation
import Mathlib.Data.Finset.Card

/-!
The suggestion of a violation: a block with one line for each reported artifact. A line names a
module by its identity or a project by its path, so artifacts that differ in nothing but their
version or classifier, or in what a project is published as, have one line
(`suggestionLine_eq_iff`).

Main statement: `suggestion_counts`. The number in the message is that of the reported artifacts and
of the lines, which are in ascending order. It is the number of different declarations exactly if
no two of the artifacts are declared alike; they may well be (`line_repeated_for_classifier`).
-/

namespace DependencyAudit

namespace Artifact

/-- One declaration serves both artifacts: they belong to modules of one identity, or are outputs of
one project. -/
def DeclaredAlike : Artifact → Artifact → Prop
  | external c _, external d _ => c.identity = d.identity
  | project path _, project path' _ => path = path'
  | external _ _, project _ _ => False
  | project _ _, external _ _ => False

instance : DecidableRel DeclaredAlike
  | external c _, external d _ => inferInstanceAs (Decidable (c.identity = d.identity))
  | project path _, project path' _ => inferInstanceAs (Decidable (path = path'))
  | external _ _, project _ _ => .isFalse id
  | project _ _, external _ _ => .isFalse id

end Artifact

/-! ## Lines -/

section

variable {bucket : String} {artifacts : List Artifact}

/-- Behind the bucket a module stands in quotes, and a project behind a word. -/
theorem suggestionLine_external_ne_project (bucket : String) (c d : Coordinate)
    (classifier : Option String) (path : String) :
    suggestionLine bucket (.external c classifier) ≠ suggestionLine bucket (.project path d) := by
  intro h
  have hl := congrArg String.toList h
  simp only [suggestionLine, String.toList_append, List.append_assoc] at hl
  have hrest := List.append_cancel_left (List.append_cancel_left hl)
  have hfirst := (List.cons.inj (List.cons.inj hrest).2).1
  exact absurd hfirst (by decide)

theorem suggestionLine_eq_iff {a b : Artifact} :
    suggestionLine bucket a = suggestionLine bucket b ↔ a.DeclaredAlike b := by
  cases a with
  | external c k =>
    cases b with
    | external d k' =>
      simp only [suggestionLine, Artifact.DeclaredAlike, String.append_left_inj,
        String.append_right_inj]
    | project path d =>
      exact iff_of_false (suggestionLine_external_ne_project bucket c d k path) id
  | project path c =>
    cases b with
    | external d k =>
      exact iff_of_false (suggestionLine_external_ne_project bucket d c k path).symm id
    | project path' d =>
      simp only [suggestionLine, Artifact.DeclaredAlike, String.append_left_inj,
        String.append_right_inj]

theorem perm_suggestionLines (bucket : String) (artifacts : List Artifact) :
    (suggestionLines bucket artifacts).Perm (artifacts.map (suggestionLine bucket)) :=
  Ascending.perm_sort _ _

theorem pairwise_suggestionLines (bucket : String) (artifacts : List Artifact) :
    (suggestionLines bucket artifacts).Pairwise (· ≤ ·) := by
  refine (Ascending.pairwise_sort Ascending.stringBefore_strictTotal _).imp ?_
  intro a b hba
  rw [Ascending.stringBefore_iff] at hba
  exact String.not_lt.mp hba

/-- The lines differ exactly if no two of the artifacts are declared alike. -/
theorem nodup_of_perm {lines : List String}
    (h : lines.Perm (artifacts.map (suggestionLine bucket))) :
    lines.Nodup ↔ artifacts.Pairwise fun a b => ¬ a.DeclaredAlike b := by
  rw [h.nodup_iff, List.Nodup, List.pairwise_map]
  simp only [ne_eq, suggestionLine_eq_iff]

/-! ## The block -/

/-- The text of a block with the given lines. -/
def blockOf (lines : List String) : String :=
  "\n".intercalate ("    dependencies \x7b" :: (lines ++ ["    \x7d"]))

theorem intercalate_between {sep opening closing : String} {lines : List String}
    (h : lines ≠ []) : sep.intercalate (opening :: (lines ++ [closing])) =
      opening ++ sep ++ sep.intercalate lines ++ (sep ++ closing) := by
  have hclosed :
      sep.intercalate (lines ++ [closing]) = sep.intercalate lines ++ sep ++ closing := by
    rw [String.intercalate_append_of_ne_nil h (List.cons_ne_nil _ _), String.intercalate_singleton]
  have hne : lines ++ [closing] ≠ [] := List.append_ne_nil_of_left_ne_nil h _
  rw [String.intercalate_cons_of_ne_nil hne, hclosed]
  simp only [String.append_assoc]

theorem renderSuggestion_eq_blockOf (bucket : String) (h : artifacts ≠ []) :
    renderSuggestion bucket artifacts = blockOf (suggestionLines bucket artifacts) := by
  have hlines : suggestionLines bucket artifacts ≠ [] := by
    intro hnil
    have hperm := perm_suggestionLines bucket artifacts
    rw [hnil, List.nil_perm, List.map_eq_nil_iff] at hperm
    exact h hperm
  have hopen : "    dependencies \x7b\n" = "    dependencies \x7b" ++ "\n" := by decide
  have hclose : "\n    \x7d" = "\n" ++ "    \x7d" := by decide
  refine Eq.trans ?_ (intercalate_between hlines).symm
  exact congrArg₂ (· ++ ·) (congrArg (· ++ _) hopen) hclose

end

/-! ## What a violation asks for -/

/-- The suggestion of the violation shows the lines in a block, in ascending order, and there is one
for each artifact. -/
structure Violation.Asks (v : Violation) (bucket : String) (lines : List String) : Prop where
  block : v.suggestion = blockOf lines
  each : lines.Perm (v.artifacts.map (suggestionLine bucket))
  ascending : lines.Pairwise (· ≤ ·)

namespace Reconciliation

open Artifact

variable {classes : List String} {providers : String → List Artifact} {declared : List Artifact}
  {s : Setting} {key : Artifact → String} {disk : Disk} {v : Violation}

theorem asks_of_check (h : (check classes providers declared s key).outcome disk = .ok (some v)) :
    v.Asks s.bucket (suggestionLines s.bucket v.artifacts) ∧ v.artifacts ≠ [] ∧
      v.buildFile = s.buildFile := by
  rw [outcome_check] at h
  have hfound := Except.ok.inj h
  have hne : undeclared classes providers declared s key ≠ [] :=
    isSome_of?.mp (by rw [hfound]; rfl)
  rw [eq_of_of?_eq_some hfound]
  exact ⟨⟨renderSuggestion_eq_blockOf s.bucket hne, perm_suggestionLines _ _,
    pairwise_suggestionLines _ _⟩, hne, rfl⟩

/-- For every check that finds a violation: its message has the number of the reported artifacts,
and its suggestion has so many lines, one for each of them, in ascending order. The lines differ,
and their number is that of different declarations, exactly if no two of the artifacts are declared
alike. -/
theorem suggestion_counts
    (h : (check classes providers declared s key).outcome disk = .ok (some v)) :
    ∃ lines, v.Asks s.bucket lines ∧ lines.length = v.artifacts.length ∧ lines ≠ [] ∧
      v.message = "Found " ++ toString lines.length
        ++ " implicit dependencies - consider adding the following explicit dependencies to '"
        ++ s.buildFile ++ "', or avoid using classes from these jars:\n" ++ blockOf lines ∧
      (lines.Nodup ↔ v.artifacts.Pairwise fun a b => ¬ a.DeclaredAlike b) ∧
      (lines.toFinset.card = v.artifacts.length ↔
        v.artifacts.Pairwise fun a b => ¬ a.DeclaredAlike b) := by
  obtain ⟨hasks, hne, hfile⟩ := asks_of_check h
  have hlength : (suggestionLines s.bucket v.artifacts).length = v.artifacts.length := by
    rw [hasks.each.length_eq, List.length_map]
  refine ⟨_, hasks, hlength, ?_, ?_, nodup_of_perm hasks.each, ?_⟩
  · rw [← List.length_pos_iff, hlength, List.length_pos_iff]
    exact hne
  · rw [Violation.message, hasks.block, hlength, hfile]
  · rw [← hlength, ← nodup_of_perm hasks.each]
    exact Multiset.toFinset_card_eq_card_iff_nodup

/-! ## A module beside a project, and beside itself

Two classes are used. One is provided by a module, the other by a project that is published as that
module, or by the module under a classifier. -/

def besideModule (other : Artifact) : String → List Artifact
  | "x.P" => [external ⟨"g", "a", "1"⟩ none]
  | "x.Q" => [other]
  | _ => []

/-- The violation that reports the module and the other artifact. -/
def moduleViolation (other : Artifact) : Violation where
  artifacts := [external ⟨"g", "a", "1"⟩ none, other]
  buildFile := "build.gradle"
  suggestion := renderSuggestion "implementation" [external ⟨"g", "a", "1"⟩ none, other]

theorem lines_for_module_and_project :
    (check ["x.P", "x.Q"] (besideModule (project ":lib" ⟨"g", "a", "2"⟩)) []
      { projectPath := ":app" } displayName).outcome {} =
        .ok (some (moduleViolation (project ":lib" ⟨"g", "a", "2"⟩))) ∧
    ∃ lines, (moduleViolation (project ":lib" ⟨"g", "a", "2"⟩)).Asks "implementation" lines ∧
      lines.Nodup ∧ lines.toFinset.card = 2 := by
  have hrun : (check ["x.P", "x.Q"] (besideModule (project ":lib" ⟨"g", "a", "2"⟩)) []
      { projectPath := ":app" } displayName).outcome {} =
        .ok (some (moduleViolation (project ":lib" ⟨"g", "a", "2"⟩))) := by
    decide
  have hdifferent : (moduleViolation (project ":lib" ⟨"g", "a", "2"⟩)).artifacts.Pairwise
      fun a b => ¬ a.DeclaredAlike b := by
    decide
  obtain ⟨lines, hasks, _, _, _, hnodup, hcard⟩ := suggestion_counts hrun
  exact ⟨hrun, lines, hasks, hnodup.mpr hdifferent, hcard.mpr hdifferent⟩

theorem line_repeated_for_classifier :
    ¬ ∀ classes providers declared s key disk v,
      (check classes providers declared s key).outcome disk = .ok (some v) →
        ∃ lines, v.Asks s.bucket lines ∧ lines.Nodup := by
  intro hdistinct
  have hrun : (check ["x.P", "x.Q"] (besideModule (external ⟨"g", "a", "1"⟩ (some "tests"))) []
      { projectPath := ":app" } displayName).outcome {} =
        .ok (some (moduleViolation (external ⟨"g", "a", "1"⟩ (some "tests")))) := by
    decide
  obtain ⟨lines, hasks, hnodup⟩ := hdistinct _ _ _ _ _ _ _ hrun
  have hmap := hasks.each.nodup_iff.mp hnodup
  exact absurd hmap (by decide)

end Reconciliation

end DependencyAudit
