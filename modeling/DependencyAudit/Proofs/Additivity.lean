import DependencyAudit.Proofs.Declaring

/-!
How the report grows and shrinks. What a class puts forward depends on its own candidates alone,
so the report on references that come together is made of the reports on each of them
(`undeclared_of_mem_or`). And a class that is excused stays so when more artifacts are declared or
ignored, so the report can only lose artifacts then (`undeclared_sublist_of_subset`).

Main statement: `additive_and_antitone`, which says both, for any key and whatever candidates the
classes share.
-/

namespace DependencyAudit.Reconciliation

open Artifact

section

variable {classes first second both : List String} {providers : String → List Artifact}
  {declared declared' : List Artifact} {ignore ignore' : List String} {s : Setting}
  {key : Artifact → String}

theorem undeclared_of_mem_or (hboth : ∀ name, name ∈ both ↔ name ∈ first ∨ name ∈ second) :
    undeclared both providers declared s key =
      Ascending.mergeSet (before key) (undeclared first providers declared s key)
        (undeclared second providers declared s key) := by
  have htotal := before_strictTotal key
  refine Ascending.eq_of_mem_iff htotal (strictly_undeclared _ _ _ _ key)
    (Ascending.strictly_mergeSet htotal (strictly_undeclared _ _ _ _ key)
      (strictly_undeclared _ _ _ _ key)) fun a => ?_
  simp only [Ascending.mem_mergeSet, mem_undeclared, hboth, or_and_right, exists_or]

theorem undeclared_sublist_of_subset (hdeclared : declared ⊆ declared')
    (hignore : ignore ⊆ ignore') :
    (undeclared classes providers declared' { s with ignore := ignore' } key).Sublist
      (undeclared classes providers declared { s with ignore := ignore } key) := by
  apply undeclared_sublist
  intro a ha
  rw [excuses_iff] at ha ⊢
  exact ha.imp id (Or.imp (@hignore _) (@hdeclared a))

theorem additive_and_antitone (classes : List String) (providers : String → List Artifact)
    (s : Setting) (key : Artifact → String)
    (hboth : ∀ name, name ∈ both ↔ name ∈ first ∨ name ∈ second)
    (hdeclared : declared ⊆ declared') (hignore : ignore ⊆ ignore') :
    undeclared both providers declared s key =
      Ascending.mergeSet (before key) (undeclared first providers declared s key)
        (undeclared second providers declared s key) ∧
    (undeclared classes providers declared' { s with ignore := ignore' } key).Sublist
      (undeclared classes providers declared { s with ignore := ignore } key) :=
  ⟨undeclared_of_mem_or hboth, undeclared_sublist_of_subset hdeclared hignore⟩

end

/-! ## Reports that overlap

The references come in two parts that have a class in common. When `a` is declared and `b` is
ignored, one artifact is left of the three that are reported on both parts. -/

/-- What is reported on the given classes. -/
def sharedPart (classes : List String) : List Artifact :=
  undeclared classes sharedProviders [] { projectPath := ":app" } displayName

/-- What is reported on all classes when `a` is declared and `b` is ignored. -/
def sharedRest : List Artifact :=
  undeclared ["x.P", "x.Q", "x.S"] sharedProviders [sharedArtifact "a"]
    { projectPath := ":app", ignore := ["b"] } displayName

theorem overlapping_parts_merged :
    sharedReport [] = Ascending.mergeSet (before displayName) (sharedPart ["x.Q", "x.P"])
      (sharedPart ["x.S", "x.Q"]) ∧
    sharedRest.Sublist (sharedReport []) ∧
    sharedPart ["x.Q", "x.P"] = [sharedArtifact "a", sharedArtifact "b"] ∧
    sharedPart ["x.S", "x.Q"] = [sharedArtifact "b", sharedArtifact "c"] ∧
    sharedRest = [sharedArtifact "c"] := by
  have hboth : ∀ name : String, name ∈ ["x.P", "x.Q", "x.S"] ↔
      name ∈ ["x.Q", "x.P"] ∨ name ∈ ["x.S", "x.Q"] := by
    intro name
    simp only [List.mem_cons, List.not_mem_nil, or_false]
    tauto
  have hdeclared : ([] : List Artifact) ⊆ [sharedArtifact "a"] := List.nil_subset _
  have hignore : ([] : List String) ⊆ ["b"] := List.nil_subset _
  obtain ⟨hmerged, hfewer⟩ := additive_and_antitone ["x.P", "x.Q", "x.S"] sharedProviders
    { projectPath := ":app" } displayName hboth hdeclared hignore
  exact ⟨hmerged, hfewer, by decide +kernel, by decide +kernel, by decide +kernel⟩

end DependencyAudit.Reconciliation
