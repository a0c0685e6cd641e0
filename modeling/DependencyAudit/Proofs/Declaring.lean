import DependencyAudit.Proofs.Reconciliation

/-!
Declaring what is reported, one artifact after the other. Each round declares one of the
artifacts that are then reported, whichever it is, and reconciles anew.

A round takes the declared artifact off the report, perhaps with others, and puts none on it: a
class that is not excused after the round was not excused before it, and puts the same candidate
forward (`undeclared_sublist`).

Main statement: `declaring_converges`. However the artifacts are chosen, each report is a sublist
of the one before without what was declared, and every round shortens it. So nothing is left
after at most as many rounds as the first report had artifacts.
-/

namespace DependencyAudit.Reconciliation

open Artifact

/-! ## More excuses -/

section

variable {classes : List String} {providers : String → List Artifact}
  {declared declared' : List Artifact} {s s' : Setting} {key : Artifact → String}

/-- Where more artifacts excuse, fewer are undeclared, and they keep their order. -/
theorem undeclared_sublist (h : ∀ a, s.excuses declared a → s'.excuses declared' a) :
    (undeclared classes providers declared' s' key).Sublist
      (undeclared classes providers declared s key) := by
  apply Ascending.sublist_of_mem (before_strictTotal key) (strictly_undeclared _ _ _ _ key)
    (strictly_undeclared _ _ _ _ key)
  intro a ha
  obtain ⟨name, hname, hexc, hleast⟩ := mem_undeclared.mp ha
  -- the class keeps its candidates, so the least of them stays the least
  have hexc' : Unexcused providers declared s name := fun b hb he => hexc b hb (h b he)
  exact mem_undeclared.mpr ⟨name, hname, hexc', hleast⟩

/-- Where everything reported is excused, and nothing less than before, nothing is reported. -/
theorem undeclared_eq_nil_of_excused (hkept : ∀ a, s.excuses declared a → s'.excuses declared' a)
    (hadded : ∀ a ∈ undeclared classes providers declared s key, s'.excuses declared' a) :
    undeclared classes providers declared' s' key = [] := by
  refine List.eq_nil_iff_forall_not_mem.mpr ?_
  intro a ha
  have hbefore : a ∈ undeclared classes providers declared s key :=
    (undeclared_sublist hkept).subset ha
  obtain ⟨name, _, hexc, hmem, _⟩ := mem_undeclared.mp ha
  exact hexc a hmem (hadded a hbefore)

theorem not_mem_undeclared_of_declared {a : Artifact} (h : a ∈ declared) :
    a ∉ undeclared classes providers declared s key := by
  intro ha
  obtain ⟨name, _, hexc, hmem, _⟩ := mem_undeclared.mp ha
  have hexcuses : s.excuses declared a := excuses_iff.mpr (Or.inr (Or.inr h))
  exact hexc a hmem hexcuses

theorem excuses_of_declared (h : ∀ a ∈ declared, a ∈ declared') {a : Artifact}
    (ha : s.excuses declared a) : s.excuses declared' a := by
  rw [excuses_iff] at ha ⊢
  exact ha.imp id (Or.imp id (h a))

theorem undeclared_sublist_of_declared (h : ∀ a ∈ declared, a ∈ declared') :
    (undeclared classes providers declared' s key).Sublist
      (undeclared classes providers declared s key) :=
  undeclared_sublist fun _ => excuses_of_declared h

/-- Where everything reported is declared, and nothing less than before, nothing is reported. -/
theorem undeclared_eq_nil_of_declared (hkept : ∀ a ∈ declared, a ∈ declared')
    (hadded : ∀ a ∈ undeclared classes providers declared s key, a ∈ declared') :
    undeclared classes providers declared' s key = [] := by
  refine undeclared_eq_nil_of_excused (s := s) (fun _ => excuses_of_declared hkept) ?_
  intro a ha
  exact excuses_iff.mpr (Or.inr (Or.inr (hadded a ha)))

/-- Declaring an artifact leaves a sublist of the report without it. -/
theorem undeclared_declare_sublist (a : Artifact) :
    (undeclared classes providers (a :: declared) s key).Sublist
      ((undeclared classes providers declared s key).erase a) := by
  have hfewer : (undeclared classes providers (a :: declared) s key).Sublist
      (undeclared classes providers declared s key) :=
    undeclared_sublist_of_declared fun _ => List.mem_cons_of_mem a
  have hgone : a ∉ undeclared classes providers (a :: declared) s key :=
    not_mem_undeclared_of_declared List.mem_cons_self
  have herase := hfewer.erase a
  rwa [List.erase_of_not_mem hgone] at herase

end

/-! ## Rounds of declaring -/

section

variable (classes : List String) (providers : String → List Artifact) (declared : List Artifact)
  (s : Setting) (key : Artifact → String)

/-- Artifacts that can be declared one after the other, each of them reported when its turn
comes. The last one stands first. -/
inductive Rounds : List Artifact → Prop where
  | start : Rounds []
  | declare {chosen : List Artifact} {a : Artifact} :
      Rounds chosen → a ∈ undeclared classes providers (chosen ++ declared) s key →
      Rounds (a :: chosen)

variable {classes providers declared s key} {chosen : List Artifact}

theorem Rounds.sublist (h : Rounds classes providers declared s key chosen) :
    (undeclared classes providers (chosen ++ declared) s key).Sublist
      (undeclared classes providers declared s key) := by
  induction h with
  | start => exact List.Sublist.refl _
  | declare _ _ ih => exact (undeclared_declare_sublist _).trans (List.erase_sublist.trans ih)

/-- Each round shortens the report at least by what it declares. -/
theorem Rounds.length_le (h : Rounds classes providers declared s key chosen) :
    chosen.length + (undeclared classes providers (chosen ++ declared) s key).length ≤
      (undeclared classes providers declared s key).length := by
  induction h with
  | start => simp
  | @declare chosen a _ ha ih =>
    have hround : (undeclared classes providers (a :: (chosen ++ declared)) s key).length ≤
        ((undeclared classes providers (chosen ++ declared) s key).erase a).length :=
      (undeclared_declare_sublist a).length_le
    have hpos := List.length_pos_of_mem ha
    rw [List.length_erase_of_mem ha] at hround
    rw [List.length_cons, List.cons_append]
    omega

/-- The rounds can be continued until nothing is reported. -/
theorem Rounds.exists_end (h : Rounds classes providers declared s key chosen) :
    ∃ more, Rounds classes providers declared s key (more ++ chosen) ∧
      undeclared classes providers (more ++ chosen ++ declared) s key = [] := by
  generalize hn : (undeclared classes providers declared s key).length - chosen.length = n
  -- the rounds that are left to the bound shrink with each choice
  induction n generalizing chosen with
  | zero =>
    have hlength := h.length_le
    refine ⟨[], h, List.eq_nil_of_length_eq_zero ?_⟩
    rw [List.nil_append]
    omega
  | succ n ih =>
    cases hnow : undeclared classes providers (chosen ++ declared) s key with
    | nil => exact ⟨[], h, hnow⟩
    | cons a rest =>
      have ha : a ∈ undeclared classes providers (chosen ++ declared) s key := by
        rw [hnow]
        exact List.mem_cons_self
      obtain ⟨more, hrounds, hend⟩ := ih (.declare h ha) (by rw [List.length_cons]; omega)
      refine ⟨more ++ [a], ?_, ?_⟩
      · rwa [List.append_assoc, List.singleton_append]
      · rwa [List.append_assoc more, List.singleton_append]

theorem declaring_converges (h : Rounds classes providers declared s key chosen) :
    let first := undeclared classes providers declared s key
    let now := undeclared classes providers (chosen ++ declared) s key
    now.Sublist first ∧
    (∀ a ∈ now, (undeclared classes providers (a :: (chosen ++ declared)) s key).Sublist
      (now.erase a)) ∧
    chosen.length + now.length ≤ first.length ∧
    ∃ more, Rounds classes providers declared s key (more ++ chosen) ∧
      undeclared classes providers (more ++ chosen ++ declared) s key = [] :=
  ⟨h.sublist, fun a _ => undeclared_declare_sublist a, h.length_le, h.exists_end⟩

end

/-! ## Candidates that are shared

Three classes have overlapping candidates, and three artifacts are reported. Declaring the last of
them takes the second off as well. -/

def sharedArtifact (name : String) : Artifact := .external ⟨"", name, "1"⟩ none

def sharedProviders : String → List Artifact
  | "x.P" => [sharedArtifact "b", sharedArtifact "a"]
  | "x.Q" => [sharedArtifact "c", sharedArtifact "b"]
  | "x.S" => [sharedArtifact "c"]
  | _ => []

/-- What is reported when the given artifacts are declared. -/
def sharedReport (declared : List Artifact) : List Artifact :=
  undeclared ["x.P", "x.Q", "x.S"] sharedProviders declared { projectPath := ":app" } displayName

theorem shared_candidates_converge :
    sharedReport [] = [sharedArtifact "a", sharedArtifact "b", sharedArtifact "c"] ∧
    sharedReport [sharedArtifact "c"] = [sharedArtifact "a"] ∧
    (sharedReport [sharedArtifact "a", sharedArtifact "c"]).Sublist
      ((sharedReport [sharedArtifact "c"]).erase (sharedArtifact "a")) ∧
    1 + (sharedReport [sharedArtifact "c"]).length ≤ (sharedReport []).length := by
  have hfirst : sharedReport [] =
      [sharedArtifact "a", sharedArtifact "b", sharedArtifact "c"] := by decide +kernel
  have hthen : sharedReport [sharedArtifact "c"] = [sharedArtifact "a"] := by decide +kernel
  have hc : sharedArtifact "c" ∈ sharedReport [] := by
    rw [hfirst]
    simp
  have ha : sharedArtifact "a" ∈ sharedReport [sharedArtifact "c"] := by
    rw [hthen]
    simp
  obtain ⟨_, hstep, hlength, _⟩ := declaring_converges (Rounds.declare Rounds.start hc)
  exact ⟨hfirst, hthen, hstep _ ha, hlength⟩

end DependencyAudit.Reconciliation
