import DependencyAudit.Proofs.Declaring

/-!
Whether every reported artifact is needed. A class that is not excused puts its least candidate
forward, whatever the other classes put forward. Where candidates overlap, one reported artifact
can therefore stand among the candidates of every class that another one was put forward for.

Main statement: `needed_iff`. With all reported artifacts but one declared, something is still
reported exactly if some class has that one among its candidates and none of the others, and then
it is that one alone. So a report is not minimal in general (`overlap_makes_redundant`).
-/

namespace DependencyAudit.Reconciliation

open Artifact

section

variable {classes : List String} {providers : String → List Artifact} {declared : List Artifact}
  {s : Setting} {key : Artifact → String} {a : Artifact}

/-- What is reported when all artifacts of the report but one are declared as well. -/
def reportWithout (classes : List String) (providers : String → List Artifact)
    (declared : List Artifact) (s : Setting) (key : Artifact → String) (a : Artifact) :
    List Artifact :=
  undeclared classes providers ((undeclared classes providers declared s key).erase a ++ declared)
    s key

/-- The class needs an artifact of the report: nothing excuses the class, the artifact is one of
its candidates, and no other artifact of the report is. -/
def Needs (providers : String → List Artifact) (declared : List Artifact) (s : Setting)
    (report : List Artifact) (a : Artifact) (name : String) : Prop :=
  Unexcused providers declared s name ∧ a ∈ providers name ∧
    ∀ b ∈ providers name, b ∈ report → b = a

theorem eq_of_mem_reportWithout {b : Artifact}
    (hb : b ∈ reportWithout classes providers declared s key a) : b = a := by
  have hbefore : b ∈ undeclared classes providers declared s key :=
    (undeclared_sublist_of_declared fun _ => List.mem_append_right _).subset hb
  -- any other artifact of the report is declared by now
  by_contra hne
  have hdeclared : b ∈ (undeclared classes providers declared s key).erase a ++ declared :=
    List.mem_append_left _ ((List.mem_erase_of_ne hne).mpr hbefore)
  exact not_mem_undeclared_of_declared hdeclared hb

/-- Declaring the rest of the report excuses the classes that have some of it as candidates. -/
theorem unexcused_without_iff {name : String} :
    Unexcused providers ((undeclared classes providers declared s key).erase a ++ declared) s name ↔
      Unexcused providers declared s name ∧
        ∀ b ∈ providers name, b ∈ undeclared classes providers declared s key → b = a := by
  have hnodup : (undeclared classes providers declared s key).Nodup :=
    (strictly_undeclared classes providers declared s key).nodup (before_strictTotal key)
  simp only [Unexcused, excuses_iff, List.mem_append, hnodup.mem_erase_iff, not_or]
  refine ⟨?_, ?_⟩
  · intro h
    refine ⟨fun b hb => ⟨(h b hb).1, (h b hb).2.1, (h b hb).2.2.2⟩, fun b hb hreport => ?_⟩
    by_contra hne
    exact (h b hb).2.2.1 ⟨hne, hreport⟩
  · intro hparts b hb
    obtain ⟨hexc, honly⟩ := hparts
    obtain ⟨hself, hignored, hdeclared⟩ := hexc b hb
    exact ⟨hself, hignored, fun hrest => hrest.1 (honly b hb hrest.2), hdeclared⟩

theorem reportWithout_ne_nil_iff :
    reportWithout classes providers declared s key a ≠ [] ↔
      ∃ name ∈ classes,
        Needs providers declared s (undeclared classes providers declared s key) a name := by
  refine ⟨?_, ?_⟩
  · intro hne
    obtain ⟨b, hb⟩ := List.exists_mem_of_ne_nil _ hne
    obtain rfl := eq_of_mem_reportWithout hb
    obtain ⟨name, hname, hexc, hmem, _⟩ := mem_undeclared.mp hb
    obtain ⟨hexc, honly⟩ := unexcused_without_iff.mp hexc
    exact ⟨name, hname, hexc, hmem, honly⟩
  · intro hparts
    obtain ⟨name, hname, hexc, hmem, honly⟩ := hparts
    have hstill := unexcused_without_iff.mpr ⟨hexc, honly⟩
    obtain ⟨b, hb⟩ := exists_undeclared key hname hstill hmem
    exact List.ne_nil_of_mem hb

theorem needed_iff (classes : List String) (providers : String → List Artifact)
    (declared : List Artifact) (s : Setting) (key : Artifact → String) (a : Artifact) :
    let report := undeclared classes providers declared s key
    (reportWithout classes providers declared s key a = [a] ↔
      ∃ name ∈ classes, Needs providers declared s report a name) ∧
    (reportWithout classes providers declared s key a = [] ↔
      ¬ ∃ name ∈ classes, Needs providers declared s report a name) := by
  intro report
  have hneeded : reportWithout classes providers declared s key a ≠ [] ↔
      ∃ name ∈ classes, Needs providers declared s report a name := reportWithout_ne_nil_iff
  rw [← hneeded, ne_eq, not_not]
  refine ⟨⟨fun heq hnil => ?_, ?_⟩, Iff.rfl⟩
  · rw [hnil] at heq
    cases heq
  · intro hne
    obtain ⟨b, hb⟩ := List.exists_mem_of_ne_nil _ hne
    obtain rfl := eq_of_mem_reportWithout hb
    have hstrict := strictly_undeclared classes providers
      ((undeclared classes providers declared s key).erase b ++ declared) s key
    exact hstrict.eq_singleton (before_strictTotal key) hb fun _ => eq_of_mem_reportWithout

end

/-! ## Candidates that overlap

The second candidate of one class is the only candidate of another. Both are reported, and the
first is not needed. -/

def overlapProviders : String → List Artifact
  | "x.P" => [sharedArtifact "a", sharedArtifact "b"]
  | "x.Q" => [sharedArtifact "b"]
  | _ => []

theorem overlap_makes_redundant :
    ¬ ∀ classes providers declared s key, ∀ a ∈ undeclared classes providers declared s key,
      reportWithout classes providers declared s key a ≠ [] := by
  intro hminimal
  have hreported : sharedArtifact "a" ∈
      undeclared ["x.P", "x.Q"] overlapProviders [] { projectPath := ":app" } displayName := by
    decide +kernel
  have hcleared : reportWithout ["x.P", "x.Q"] overlapProviders [] { projectPath := ":app" }
      displayName (sharedArtifact "a") = [] := by
    decide +kernel
  exact hminimal _ _ _ _ _ _ hreported hcleared

end DependencyAudit.Reconciliation
