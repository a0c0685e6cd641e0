import DependencyAudit.ClassIndex
import DependencyAudit.Proofs.Supply
import Mathlib.Data.List.Forall2

/-!
What a class index holds. Adding a supply puts its artifact behind the providers of exactly the
classes it supplies, unless it stands there already (`providers_add`), so after any number of
supplies the providers of a class are the artifacts of those that supply it, in order, each at
its first place (`providers_foldl_add`).

Main statements: an index can be built exactly if the sources of all visited nodes can be listed
(`build_succeeds_iff`), and it then holds exactly what these sources provide
(`mem_providers_of_build`, `contains_of_build`).
-/

namespace DependencyAudit

namespace ClassIndex

open Inspection

/-! ## Adding one element to a list, unless it is there -/

theorem mem_appendNew {a b : Artifact} {l : List Artifact} :
    b ∈ appendNew a l ↔ b ∈ l ∨ b = a := by
  unfold appendNew
  split
  · rename_i h
    rw [List.contains_iff_mem] at h
    refine ⟨Or.inl, ?_⟩
    intro hcase
    rcases hcase with hb | rfl
    · exact hb
    · exact h
  · rw [List.mem_append, List.mem_singleton]

theorem appendNew_of_mem {a : Artifact} {l : List Artifact} (h : a ∈ l) : appendNew a l = l :=
  if_pos (List.contains_iff_mem.mpr h)

theorem appendNew_of_not_mem {a : Artifact} {l : List Artifact} (h : a ∉ l) :
    appendNew a l = l ++ [a] :=
  if_neg fun hc => h (List.contains_iff_mem.mp hc)

/-- In front of further elements, adding an element that may be there makes no difference to
the first places. -/
theorem eraseDups_appendNew_append (a : Artifact) (l k : List Artifact) :
    (appendNew a l ++ k).eraseDups = (l ++ a :: k).eraseDups := by
  by_cases h : a ∈ l
  · have hthere : ¬ l.contains a = false := by simp [h]
    rw [appendNew_of_mem h, List.eraseDups_append, List.eraseDups_append, List.cons_removeAll,
      if_neg hthere]
  · rw [appendNew_of_not_mem h, List.append_assoc, List.singleton_append]

theorem nodup_appendNew (a : Artifact) {l : List Artifact} (h : l.Nodup) :
    (appendNew a l).Nodup := by
  by_cases ha : a ∈ l
  · rwa [appendNew_of_mem ha]
  · rw [appendNew_of_not_mem ha, List.nodup_append]
    refine ⟨h, List.pairwise_singleton _ _, ?_⟩
    intro x hx y hy e
    rw [List.mem_singleton] at hy
    exact ha (hy ▸ e ▸ hx)

theorem eraseDups_of_nodup {l : List Artifact} (h : l.Nodup) : l.eraseDups = l := by
  induction l with
  | nil => rfl
  | cons a l ih =>
    obtain ⟨ha, hl⟩ := List.nodup_cons.mp h
    have hfilter : l.filter (fun b => !b == a) = l := by
      rw [List.filter_eq_self]
      intro b hb
      have hne : b ≠ a := fun e => ha (e ▸ hb)
      simp [hne]
    rw [List.eraseDups_cons, hfilter, ih hl]

/-! ## Adding one provider -/

theorem lookup_cons_of_ne {key other : String} {l : List Artifact}
    {table : List (String × List Artifact)} (h : other ≠ key) :
    ((key, l) :: table).lookup other = table.lookup other := by
  simp only [List.lookup_cons, beq_false_of_ne h]

theorem lookup_addProvider (name other : String) (a : Artifact)
    (table : List (String × List Artifact)) :
    (addProvider name a table).lookup other =
      if other = name then some (appendNew a ((table.lookup name).getD []))
      else table.lookup other := by
  induction table with
  | nil =>
    by_cases h : other = name
    · simp [addProvider, h, appendNew]
    · simp [addProvider, h, lookup_cons_of_ne]
  | cons entry table ih =>
    obtain ⟨key, providers⟩ := entry
    simp only [addProvider]
    by_cases hkey : key = name
    · subst hkey
      by_cases h : other = key
      · simp [h]
      · simp [h, lookup_cons_of_ne]
    · by_cases h : other = key
      · subst h
        simp [hkey]
      · rw [if_neg hkey, lookup_cons_of_ne h, lookup_cons_of_ne (Ne.symm hkey), ih,
          lookup_cons_of_ne h]

theorem providers_addClass (index : ClassIndex) (name other : String) (a : Artifact) :
    (index.addClass name a).providers other =
      if other = name then appendNew a (index.providers other) else index.providers other := by
  unfold providers addClass
  rw [lookup_addProvider]
  split
  · rename_i h
    rw [h, Option.getD_some]
  · rfl

theorem contains_addClass (index : ClassIndex) (name other : String) (a : Artifact) :
    (index.addClass name a).contains other ↔ other = name ∨ index.contains other := by
  unfold contains addClass
  rw [lookup_addProvider]
  split
  · rename_i h
    exact ⟨fun _ => Or.inl h, fun _ => rfl⟩
  · rename_i h
    exact ⟨Or.inr, fun ho => ho.resolve_left h⟩

/-! ## Adding supplies -/

theorem providers_foldl_addClass (a : Artifact) (other : String) :
    ∀ (names : List String) (index : ClassIndex),
      (names.foldl (fun index name => index.addClass name a) index).providers other =
        if other ∈ names then appendNew a (index.providers other) else index.providers other
  | [], index => by simp
  | name :: names, index => by
    rw [List.foldl_cons, providers_foldl_addClass a other names, providers_addClass]
    by_cases h : other = name
    · have hmem : a ∈ appendNew a (index.providers other) := mem_appendNew.mpr (Or.inr rfl)
      rw [if_pos h, if_pos (List.mem_cons.mpr (Or.inl h)), appendNew_of_mem hmem, ite_self]
    · simp [h]

theorem contains_foldl_addClass (a : Artifact) (other : String) :
    ∀ (names : List String) (index : ClassIndex),
      (names.foldl (fun index name => index.addClass name a) index).contains other ↔
        other ∈ names ∨ index.contains other
  | [], index => by simp
  | name :: names, index => by
    rw [List.foldl_cons, contains_foldl_addClass a other names, contains_addClass, List.mem_cons]
    refine ⟨?_, ?_⟩
    · intro hcase
      rcases hcase with h | h | h
      · exact Or.inl (Or.inr h)
      · exact Or.inl (Or.inl h)
      · exact Or.inr h
    · intro hcase
      rcases hcase with (h | h) | h
      · exact Or.inr (Or.inl h)
      · exact Or.inl h
      · exact Or.inr (Or.inr h)

theorem providers_add (index : ClassIndex) (u : Supply) (name : String) :
    (index.add u).providers name =
      if name ∈ u.classes then appendNew u.artifact (index.providers name)
      else index.providers name :=
  providers_foldl_addClass u.artifact name u.classes index

theorem contains_add (index : ClassIndex) (u : Supply) (name : String) :
    (index.add u).contains name ↔ name ∈ u.classes ∨ index.contains name :=
  contains_foldl_addClass u.artifact name u.classes index

/-- The artifacts of the supplies that hold a class, one for each, in order. -/
def suppliersOf (name : String) (supplies : List Supply) : List Artifact :=
  (supplies.filter fun u => decide (name ∈ u.classes)).map Supply.artifact

theorem mem_suppliersOf {name : String} {supplies : List Supply} {a : Artifact} :
    a ∈ suppliersOf name supplies ↔ ∃ u ∈ supplies, name ∈ u.classes ∧ u.artifact = a := by
  simp only [suppliersOf, List.mem_map, List.mem_filter, decide_eq_true_eq, and_assoc]

theorem providers_foldl_add (name : String) :
    ∀ (supplies : List Supply) (index : ClassIndex), (index.providers name).Nodup →
      (supplies.foldl add index).providers name =
        (index.providers name ++ suppliersOf name supplies).eraseDups
  | [], index, h => by
    simp only [suppliersOf, List.foldl_nil, List.filter_nil, List.map_nil, List.append_nil]
    exact (eraseDups_of_nodup h).symm
  | u :: supplies, index, h => by
    rw [List.foldl_cons]
    -- the providers stay distinct, so adding one that is there changes nothing
    by_cases hmem : name ∈ u.classes
    · have hadd : (index.add u).providers name = appendNew u.artifact (index.providers name) := by
        rw [providers_add, if_pos hmem]
      have hcons : suppliersOf name (u :: supplies) = u.artifact :: suppliersOf name supplies := by
        simp [suppliersOf, hmem]
      rw [providers_foldl_add name supplies _ (hadd ▸ nodup_appendNew _ h), hadd, hcons,
        eraseDups_appendNew_append]
    · have hadd : (index.add u).providers name = index.providers name := by
        rw [providers_add, if_neg hmem]
      have hcons : suppliersOf name (u :: supplies) = suppliersOf name supplies := by
        simp [suppliersOf, hmem]
      rw [providers_foldl_add name supplies _ (hadd ▸ h), hadd, hcons]

theorem contains_foldl_add (name : String) :
    ∀ (supplies : List Supply) (index : ClassIndex),
      (supplies.foldl add index).contains name ↔
        index.contains name ∨ ∃ u ∈ supplies, name ∈ u.classes
  | [], index => by simp
  | u :: supplies, index => by
    simp only [List.foldl_cons, contains_foldl_add name supplies, contains_add, List.mem_cons,
      exists_eq_or_imp]
    rw [or_comm (a := name ∈ u.classes), or_assoc]

/-! ## Building an index -/

variable {disk : Disk}

/-- The supplies that the sources have on the disk, one for each, in order. -/
def SuppliedBy (disk : Disk) : List Source → List Supply → Prop :=
  List.Forall₂ fun s u => s.supply.outcome disk = .ok u

theorem outcome_addSources_iff {index built : ClassIndex} {sources : List Source} :
    (index.addSources sources).outcome disk = .ok built ↔
      ∃ supplies, SuppliedBy disk sources supplies ∧ built = supplies.foldl add index := by
  induction sources generalizing index with
  | nil =>
    refine ⟨?_, ?_⟩
    · intro h
      exact ⟨[], List.Forall₂.nil, (Except.ok.inj h).symm⟩
    · intro hparts
      obtain ⟨supplies, hs, rfl⟩ := hparts
      cases hs
      rfl
  | cons s sources ih =>
    refine ⟨?_, ?_⟩
    · intro h
      obtain ⟨next, hnext, h⟩ := outcome_bind_eq_ok.mp h
      obtain ⟨u, hu, hadd⟩ := outcome_bind_eq_ok.mp hnext
      obtain rfl := Except.ok.inj hadd
      obtain ⟨supplies, hs, rfl⟩ := ih.mp h
      exact ⟨u :: supplies, List.Forall₂.cons hu hs, rfl⟩
    · intro hparts
      obtain ⟨supplies, hs, rfl⟩ := hparts
      cases hs with
      | cons hu hs =>
        exact outcome_bind_eq_ok.mpr
          ⟨_, outcome_bind_eq_ok.mpr ⟨_, hu, rfl⟩, ih.mpr ⟨_, hs, rfl⟩⟩

/-- The sources of the nodes that are visited from the roots, in the order of the visit. -/
def visitedSources (roots : List Dependency) : List Source :=
  (Dependency.visit roots).flatMap Dependency.sources

theorem mem_visitedSources {roots : List Dependency} {s : Source} :
    s ∈ visitedSources roots ↔ ∃ d ∈ Dependency.visit roots, s ∈ d.sources :=
  List.mem_flatMap

theorem outcome_build_iff {roots : List Dependency} {built : ClassIndex} :
    (build roots).outcome disk = .ok built ↔
      ∃ supplies, SuppliedBy disk (visitedSources roots) supplies ∧
        built = supplies.foldl add {} := by
  rw [← outcome_addSources_iff]
  refine ⟨?_, ?_⟩
  · intro h
    obtain ⟨index, hindex, hrest⟩ := outcome_bind_eq_ok.mp h
    exact hindex.trans hrest
  · intro h
    exact outcome_bind_eq_ok.mpr ⟨built, h, rfl⟩

theorem exists_suppliedBy_iff {sources : List Source} :
    (∃ supplies, SuppliedBy disk sources supplies) ↔ ∀ s ∈ sources, s.Listable disk := by
  induction sources with
  | nil => exact ⟨fun _ s hs => absurd hs List.not_mem_nil, fun _ => ⟨[], List.Forall₂.nil⟩⟩
  | cons s sources ih =>
    rw [List.forall_mem_cons, ← ih, ← Source.supply_succeeds_iff]
    refine ⟨?_, ?_⟩
    · intro hparts
      obtain ⟨_, hs⟩ := hparts
      cases hs with
      | cons hu hs => exact ⟨⟨_, hu⟩, ⟨_, hs⟩⟩
    · intro hparts
      obtain ⟨⟨u, hu⟩, supplies, hs⟩ := hparts
      exact ⟨u :: supplies, List.Forall₂.cons hu hs⟩

theorem build_succeeds_iff {roots : List Dependency} :
    (∃ index, (build roots).outcome disk = .ok index) ↔
      ∀ d ∈ Dependency.visit roots, ∀ s ∈ d.sources, s.Listable disk := by
  have hall : (∀ s ∈ visitedSources roots, s.Listable disk) ↔
      ∀ d ∈ Dependency.visit roots, ∀ s ∈ d.sources, s.Listable disk :=
    List.forall_mem_flatMap
  rw [← hall, ← exists_suppliedBy_iff]
  refine ⟨?_, ?_⟩
  · intro hparts
    obtain ⟨index, h⟩ := hparts
    obtain ⟨supplies, hs, _⟩ := outcome_build_iff.mp h
    exact ⟨supplies, hs⟩
  · intro hparts
    obtain ⟨supplies, hs⟩ := hparts
    exact ⟨_, outcome_build_iff.mpr ⟨supplies, hs, rfl⟩⟩

/-- The supplies hold a class under an artifact exactly if a source for it provides the class. -/
theorem mem_suppliersOf_iff {sources : List Source} {supplies : List Supply} {name : String}
    {a : Artifact} (h : SuppliedBy disk sources supplies) :
    a ∈ suppliersOf name supplies ↔ ∃ s ∈ sources, s.artifact = a ∧ s.Provides disk name := by
  rw [mem_suppliersOf]
  induction h with
  | nil => simp
  | cons hu _ ih =>
    simp only [List.mem_cons, exists_eq_or_imp, ih, Source.mem_supply_iff hu,
      Source.artifact_of_supply hu]
    rw [and_comm]

section

variable {roots : List Dependency} {index : ClassIndex} {name : String}

theorem mem_providers_of_build (h : (build roots).outcome disk = .ok index) {a : Artifact} :
    a ∈ index.providers name ↔
      ∃ d ∈ Dependency.visit roots, ∃ s ∈ d.sources, s.artifact = a ∧ s.Provides disk name := by
  obtain ⟨supplies, hs, rfl⟩ := outcome_build_iff.mp h
  rw [providers_foldl_add name supplies {} List.nodup_nil, List.mem_eraseDups]
  refine (mem_suppliersOf_iff hs).trans ?_
  refine ⟨?_, ?_⟩
  · intro hparts
    obtain ⟨s, hmem, hprov⟩ := hparts
    obtain ⟨d, hd, hsd⟩ := mem_visitedSources.mp hmem
    exact ⟨d, hd, s, hsd, hprov⟩
  · intro hparts
    obtain ⟨d, hd, s, hsd, hprov⟩ := hparts
    exact ⟨s, mem_visitedSources.mpr ⟨d, hd, hsd⟩, hprov⟩

/-- A class is in the index exactly if it has a provider there. -/
theorem contains_iff_of_build (h : (build roots).outcome disk = .ok index) :
    index.contains name ↔ ∃ a, a ∈ index.providers name := by
  obtain ⟨supplies, _, rfl⟩ := outcome_build_iff.mp h
  rw [contains_foldl_add, providers_foldl_add name supplies {} List.nodup_nil]
  simp only [List.mem_eraseDups]
  refine ⟨?_, ?_⟩
  · intro hcase
    rcases hcase with hc | ⟨u, hu, hmem⟩
    · cases hc
    · exact ⟨u.artifact, List.mem_append_right _ (mem_suppliersOf.mpr ⟨u, hu, hmem, rfl⟩)⟩
  · intro hparts
    obtain ⟨a, ha⟩ := hparts
    obtain ⟨u, hu, hmem, _⟩ := mem_suppliersOf.mp ((List.nil_append _) ▸ ha)
    exact Or.inr ⟨u, hu, hmem⟩

theorem contains_of_build (h : (build roots).outcome disk = .ok index) :
    index.contains name ↔
      ∃ d ∈ Dependency.visit roots, ∃ s ∈ d.sources, s.Provides disk name := by
  rw [contains_iff_of_build h]
  simp only [mem_providers_of_build h]
  refine ⟨?_, ?_⟩
  · intro hparts
    obtain ⟨_, d, hd, s, hs, _, hprov⟩ := hparts
    exact ⟨d, hd, s, hs, hprov⟩
  · intro hparts
    obtain ⟨d, hd, s, hs, hprov⟩ := hparts
    exact ⟨s.artifact, d, hd, s, hs, rfl, hprov⟩

end

end ClassIndex

end DependencyAudit
