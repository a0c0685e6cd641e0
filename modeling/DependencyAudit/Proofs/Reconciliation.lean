import DependencyAudit.Proofs.Ascending
import DependencyAudit.Proofs.Descriptor
import DependencyAudit.Proofs.Outcome
import DependencyAudit.Reconciliation

/-!
What reconciliation finds. Descriptors tell artifacts apart, so a key with the descriptor behind
it orders artifacts strictly and totally, whatever the key is, and every non-empty list of
candidates has exactly one least element.

Main statement: `undeclared_exact`. The undeclared artifacts are in strictly ascending order; an
artifact is among them exactly if it is the least candidate of some referenced class none of
whose candidates excuses it; and a check reports exactly them, unless there are none.
-/

namespace DependencyAudit

/-! ## The order of artifacts -/

namespace Artifact

/-- The artifact comes first by the key, or by the descriptor where the keys are equal. -/
def Precedes (key : Artifact → String) (a b : Artifact) : Prop :=
  key a < key b ∨ key a = key b ∧ a.descriptor < b.descriptor

theorem isOutputOf_iff {a : Artifact} {path : String} :
    a.isOutputOf path ↔ ∃ c, a = .project path c := by
  cases a with
  | external c classifier => simp [isOutputOf]
  | project path' c => simp [isOutputOf]

variable {key : Artifact → String}

theorem before_iff {a b : Artifact} : before key a b ↔ Precedes key a b := by
  simp only [before, Precedes, Bool.or_eq_true, Bool.and_eq_true, decide_eq_true_eq]

theorem precedes_irrefl (a : Artifact) : ¬ Precedes key a a := by
  intro hcase
  rcases hcase with h | ⟨_, h⟩
  · exact String.lt_irrefl _ h
  · exact String.lt_irrefl _ h

theorem precedes_trans {a b c : Artifact} (hab : Precedes key a b) (hbc : Precedes key b c) :
    Precedes key a c := by
  rcases hab with hab | ⟨eab, hab⟩
  · rcases hbc with hbc | ⟨ebc, _⟩
    · exact Or.inl (String.lt_trans hab hbc)
    · exact Or.inl (ebc ▸ hab)
  · rcases hbc with hbc | ⟨ebc, hbc⟩
    · exact Or.inl (eab ▸ hbc)
    · exact Or.inr ⟨eab.trans ebc, String.lt_trans hab hbc⟩

theorem precedes_connected {a b : Artifact} (hab : ¬ Precedes key a b)
    (hba : ¬ Precedes key b a) : a = b := by
  have hkey : key a = key b :=
    String.le_antisymm (fun h => hba (Or.inl h)) (fun h => hab (Or.inl h))
  refine descriptor_inj (String.le_antisymm ?_ ?_)
  · exact fun h => hba (Or.inr ⟨hkey.symm, h⟩)
  · exact fun h => hab (Or.inr ⟨hkey, h⟩)

theorem before_strictTotal (key : Artifact → String) : Ascending.StrictTotal (before key) where
  irrefl a := by rw [before_iff]; exact precedes_irrefl a
  trans hab hbc := by
    rw [before_iff] at hab hbc ⊢
    exact precedes_trans hab hbc
  connected hab hba := by
    rw [before_iff] at hab hba
    exact precedes_connected hab hba

end Artifact

namespace Reconciliation

open Artifact

variable {classes : List String} {providers : String → List Artifact} {declared : List Artifact}
  {s : Setting} {key : Artifact → String}

/-! ## The least candidate -/

theorem least?_eq_none_iff {l : List Artifact} : least? key l = none ↔ l = [] := by
  cases l with
  | nil => simp [least?]
  | cons a l =>
    simp only [least?, reduceCtorEq, iff_false]
    split
    · simp
    · split <;> simp

theorem least?_spec {l : List Artifact} {a : Artifact} (h : least? key l = some a) :
    a ∈ l ∧ ∀ b ∈ l, b ≠ a → Precedes key a b := by
  induction l generalizing a with
  | nil => simp [least?] at h
  | cons c l ih =>
    simp only [least?] at h
    split at h
    · rename_i hnone
      obtain rfl : c = a := by simpa using h
      obtain rfl := least?_eq_none_iff.mp hnone
      exact ⟨List.mem_singleton_self c, fun b hb hne => absurd (List.mem_singleton.mp hb) hne⟩
    · rename_i m hm
      obtain ⟨hmem, hleast⟩ := ih hm
      split at h
      · rename_i hmc
        obtain rfl : m = a := by simpa using h
        refine ⟨List.mem_cons_of_mem c hmem, ?_⟩
        intro b hb hne
        rcases List.mem_cons.mp hb with rfl | hb
        · exact before_iff.mp hmc
        · exact hleast b hb hne
      · rename_i hmc
        obtain rfl : c = a := by simpa using h
        rw [before_iff] at hmc
        refine ⟨List.mem_cons_self, ?_⟩
        intro b hb hne
        rcases List.mem_cons.mp hb with rfl | hb
        · exact absurd rfl hne
        · -- `c` is the least of the rest, or comes before it
          have hcm : c = m ∨ Precedes key c m := by
            by_cases hcm : Precedes key c m
            · exact Or.inr hcm
            · exact Or.inl (precedes_connected hcm hmc)
          by_cases hbm : b = m
          · subst hbm
            exact hcm.resolve_left (Ne.symm hne)
          · have hmb := hleast b hb hbm
            rcases hcm with rfl | hcm
            · exact hmb
            · exact precedes_trans hcm hmb

/-- The least candidate is the one that comes before all others. -/
theorem least?_eq_some_iff {l : List Artifact} {a : Artifact} :
    least? key l = some a ↔ a ∈ l ∧ ∀ b ∈ l, b ≠ a → Precedes key a b := by
  refine ⟨least?_spec, ?_⟩
  intro hparts
  obtain ⟨hmem, hleast⟩ := hparts
  cases hm : least? key l with
  | none =>
    rw [least?_eq_none_iff] at hm
    exact absurd (hm ▸ hmem) List.not_mem_nil
  | some m =>
    obtain ⟨hmemM, hleastM⟩ := least?_spec hm
    by_cases hma : m = a
    · rw [hma]
    · have hback := precedes_trans (hleast m hmemM hma) (hleastM a hmem (Ne.symm hma))
      exact absurd hback (precedes_irrefl a)

/-! ## Candidates and excuses -/

theorem mem_candidateLists {l : List Artifact} :
    l ∈ candidateLists classes providers ↔ ∃ name ∈ classes, providers name = l ∧ l ≠ [] := by
  simp only [candidateLists, List.mem_eraseDups, List.mem_filter, List.mem_map,
    Bool.not_eq_true', List.isEmpty_eq_false_iff]
  refine ⟨?_, ?_⟩
  · intro hparts
    obtain ⟨⟨name, hname, rfl⟩, hne⟩ := hparts
    exact ⟨name, hname, rfl, hne⟩
  · intro hparts
    obtain ⟨name, hname, rfl, hne⟩ := hparts
    exact ⟨⟨name, hname, rfl⟩, hne⟩

theorem excuses_iff {a : Artifact} :
    s.excuses declared a ↔
      a.isOutputOf s.projectPath ∨ a.ignoreIdentity ∈ s.ignore ∨ a ∈ declared := by
  simp only [Setting.excuses, isIgnored, Bool.or_eq_true, List.contains_iff_mem, or_assoc]

/-- No candidate of the class excuses it. -/
def Unexcused (providers : String → List Artifact) (declared : List Artifact) (s : Setting)
    (name : String) : Prop := ∀ b ∈ providers name, ¬ s.excuses declared b

/-- The output of the project itself excuses every class that it provides. -/
theorem not_unexcused_of_own_output {name : String} {c : Coordinate}
    (h : .project s.projectPath c ∈ providers name) : ¬ Unexcused providers declared s name :=
  fun hexc => hexc _ h (excuses_iff.mpr (Or.inl (isOutputOf_iff.mpr ⟨c, rfl⟩)))

theorem mem_undeclared {a : Artifact} :
    a ∈ undeclared classes providers declared s key ↔
      ∃ name ∈ classes, Unexcused providers declared s name ∧
        a ∈ providers name ∧ ∀ b ∈ providers name, b ≠ a → Precedes key a b := by
  simp only [undeclared, Ascending.mem_sortSet (before_strictTotal key), List.mem_filterMap,
    List.mem_filter, mem_candidateLists, least?_eq_some_iff, Bool.not_eq_true',
    List.any_eq_false]
  refine ⟨?_, ?_⟩
  · intro hparts
    obtain ⟨l, ⟨⟨name, hname, rfl, _⟩, hexc⟩, hmem, hleast⟩ := hparts
    exact ⟨name, hname, hexc, hmem, hleast⟩
  · intro hparts
    obtain ⟨name, hname, hexc, hmem, hleast⟩ := hparts
    exact ⟨providers name, ⟨⟨name, hname, rfl, List.ne_nil_of_mem hmem⟩, hexc⟩, hmem, hleast⟩

/-- A class with candidates that excuse nothing puts one of them forward. -/
theorem exists_undeclared (key : Artifact → String) {name : String} (hname : name ∈ classes)
    (hexc : Unexcused providers declared s name) {a : Artifact} (ha : a ∈ providers name) :
    ∃ b, b ∈ undeclared classes providers declared s key := by
  cases hleast : least? key (providers name) with
  | none => exact absurd (least?_eq_none_iff.mp hleast ▸ ha) List.not_mem_nil
  | some b => exact ⟨b, mem_undeclared.mpr ⟨name, hname, hexc, least?_eq_some_iff.mp hleast⟩⟩

/-- Nothing is undeclared exactly if every class with candidates has one that excuses it. -/
theorem undeclared_eq_nil_iff (key : Artifact → String) :
    undeclared classes providers declared s key = [] ↔
      ∀ name ∈ classes, ∀ a ∈ providers name, ∃ b ∈ providers name, s.excuses declared b := by
  refine ⟨?_, ?_⟩
  · intro hnil name hname a ha
    by_cases hexc : ∃ b ∈ providers name, s.excuses declared b
    · exact hexc
    · have hun : Unexcused providers declared s name := fun b hb he => hexc ⟨b, hb, he⟩
      obtain ⟨b, hb⟩ := exists_undeclared key hname hun ha
      rw [hnil] at hb
      exact absurd hb List.not_mem_nil
  · intro hexc
    refine List.eq_nil_iff_forall_not_mem.mpr ?_
    intro a ha
    obtain ⟨name, hname, hun, hmem, _⟩ := mem_undeclared.mp ha
    obtain ⟨b, hb, he⟩ := hexc name hname a hmem
    exact hun b hb he

theorem strictly_undeclared (classes : List String) (providers : String → List Artifact)
    (declared : List Artifact) (s : Setting) (key : Artifact → String) :
    Ascending.Strictly (before key) (undeclared classes providers declared s key) :=
  Ascending.strictly_sortSet (before_strictTotal key) _

/-- Only which artifacts provide a class and which are declared counts, not their order. -/
theorem undeclared_congr (key : Artifact → String) {providers' : String → List Artifact}
    {declared' : List Artifact} (hproviders : ∀ name a, a ∈ providers name ↔ a ∈ providers' name)
    (hdeclared : ∀ a, a ∈ declared ↔ a ∈ declared') :
    undeclared classes providers declared s key =
      undeclared classes providers' declared' s key := by
  have hexcuses : ∀ a, s.excuses declared a ↔ s.excuses declared' a := by
    intro a
    rw [excuses_iff, excuses_iff, hdeclared]
  refine Ascending.eq_of_mem_iff (before_strictTotal key) (strictly_undeclared _ _ _ _ key)
    (strictly_undeclared _ _ _ _ key) ?_
  intro a
  simp only [mem_undeclared, Unexcused, hproviders, hexcuses]

/-! ## Checking -/

theorem outcome_check (classes : List String) (providers : String → List Artifact)
    (declared : List Artifact) (s : Setting) (key : Artifact → String) (disk : Disk) :
    (check classes providers declared s key).outcome disk =
      .ok (Violation.of? s (undeclared classes providers declared s key)) := rfl

theorem of?_eq_none_iff {found : List Artifact} : Violation.of? s found = none ↔ found = [] := by
  unfold Violation.of?
  split
  · rename_i h
    exact ⟨fun _ => h, fun _ => rfl⟩
  · rename_i h
    exact ⟨fun hnone => (nomatch hnone), fun e => absurd e h⟩

theorem isSome_of? {found : List Artifact} : (Violation.of? s found).isSome ↔ found ≠ [] := by
  rw [Option.isSome_iff_ne_none, ne_eq, of?_eq_none_iff]

theorem eq_of_of?_eq_some {found : List Artifact} {v : Violation}
    (h : Violation.of? s found = some v) :
    v = ⟨found, s.buildFile, renderSuggestion s.bucket found⟩ := by
  unfold Violation.of? at h
  split at h
  · cases h
  · exact (Option.some.inj h).symm

theorem undeclared_exact (classes : List String) (providers : String → List Artifact)
    (declared : List Artifact) (s : Setting) (key : Artifact → String) :
    let found := undeclared classes providers declared s key
    found.Pairwise (Precedes key) ∧ found.Nodup ∧
    (∀ a, a ∈ found ↔
      ∃ name ∈ classes, a ∈ providers name ∧
        (∀ b ∈ providers name,
          ¬ b.isOutputOf s.projectPath ∧ b.ignoreIdentity ∉ s.ignore ∧ b ∉ declared) ∧
        ∀ b ∈ providers name, b ≠ a → Precedes key a b) ∧
    ∀ disk, ∃ verdict,
      (check classes providers declared s key).outcome disk = .ok verdict ∧
      (verdict.isSome ↔ found ≠ []) ∧
      ∀ v, verdict = some v → v.artifacts = found ∧ v.buildFile = s.buildFile ∧
        v.suggestion = renderSuggestion s.bucket found := by
  intro found
  have hstrict := strictly_undeclared classes providers declared s key
  refine ⟨hstrict.imp before_iff.mp, hstrict.nodup (before_strictTotal key), ?_, ?_⟩
  · intro a
    simp only [found, mem_undeclared, Unexcused, excuses_iff, not_or]
    refine ⟨?_, ?_⟩
    · intro hparts
      obtain ⟨name, hname, hexc, hmem, hleast⟩ := hparts
      exact ⟨name, hname, hmem, hexc, hleast⟩
    · intro hparts
      obtain ⟨name, hname, hmem, hexc, hleast⟩ := hparts
      exact ⟨name, hname, hexc, hmem, hleast⟩
  · intro disk
    refine ⟨_, outcome_check classes providers declared s key disk, isSome_of?, ?_⟩
    intro v hv
    rw [eq_of_of?_eq_some hv]
    exact ⟨rfl, rfl, rfl⟩

/-- A class that the project and a sibling both provide is excused, and one that the sibling alone
provides is not. -/
theorem own_output_excuses :
    let own := Artifact.project ":app" ⟨"", "app", ""⟩
    let sibling := Artifact.project ":lib" ⟨"", "lib", ""⟩
    let providers := fun name => if name = "app.Main" then [sibling, own] else [sibling]
    let s : Setting := { projectPath := ":app" }
    own.isOutputOf s.projectPath ∧ ¬ sibling.isOutputOf s.projectPath ∧
      undeclared ["app.Main"] providers [] s Artifact.displayName = [] ∧
      sibling ∈ undeclared ["app.Main", "lib.Tool"] providers [] s Artifact.displayName := by
  intro own sibling providers s
  have hown : own.isOutputOf s.projectPath := isOutputOf_iff.mpr ⟨_, rfl⟩
  have hsibling : ¬ sibling.isOutputOf s.projectPath := by
    rw [isOutputOf_iff]
    intro hproject
    obtain ⟨c, h⟩ := hproject
    exact absurd (Artifact.project.inj h).1 (by decide)
  obtain ⟨_, _, hmain, _⟩ := undeclared_exact ["app.Main"] providers [] s Artifact.displayName
  obtain ⟨_, _, hboth, _⟩ :=
    undeclared_exact ["app.Main", "lib.Tool"] providers [] s Artifact.displayName
  refine ⟨hown, hsibling, List.eq_nil_iff_forall_not_mem.mpr ?_, (hboth sibling).mpr ?_⟩
  · intro a ha
    obtain ⟨name, hname, _, hexc, _⟩ := (hmain a).mp ha
    obtain rfl := List.mem_singleton.mp hname
    exact (hexc own (by simp [providers])).1 hown
  · refine ⟨"lib.Tool", by simp, by simp [providers], ?_, ?_⟩
    · intro b hb
      obtain rfl : b = sibling := by simpa [providers] using hb
      exact ⟨hsibling, List.not_mem_nil, List.not_mem_nil⟩
    · intro b hb hne
      exact absurd (by simpa [providers] using hb) hne

end Reconciliation

end DependencyAudit
