import DependencyAudit.Ascending
import Mathlib.Data.List.Dedup
import Mathlib.Data.List.Sort

/-!
Sorting with and without repetition. `sort` changes nothing but the order (`perm_sort`) and leaves
nothing behind what it comes before (`pairwise_sort`). Under a strict total order `sortSet` keeps
exactly the elements it is given (`mem_sortSet`) and puts them in strictly ascending order
(`strictly_sortSet`). A strictly ascending list is determined by its elements (`eq_of_mem_iff`), so
lists with the same elements are sorted alike (`sortSet_congr`), in whatever order and however
often the elements come. With fewer elements it is a sublist (`sublist_of_mem`). Two such lists can
be merged to one (`strictly_mergeSet`).
-/

namespace DependencyAudit.Ascending

variable {α : Type} {lt : α → α → Bool}

/-- The test is a strict total order. -/
structure StrictTotal (lt : α → α → Bool) : Prop where
  irrefl : ∀ a, ¬ lt a a
  trans : ∀ {a b c}, lt a b → lt b c → lt a c
  connected : ∀ {a b}, ¬ lt a b → ¬ lt b a → a = b

/-- Every element comes before all that stand behind it. -/
def Strictly (lt : α → α → Bool) (l : List α) : Prop := l.Pairwise fun a b => lt a b

theorem StrictTotal.asymm (h : StrictTotal lt) {a b : α} (hab : lt a b) : ¬ lt b a :=
  fun hba => h.irrefl a (h.trans hab hba)

theorem Strictly.nodup (h : StrictTotal lt) {l : List α} (hl : Strictly lt l) : l.Nodup := by
  refine List.Pairwise.imp ?_ hl
  intro a b hab e
  subst e
  exact h.irrefl a hab

/-! ## Inserting and sorting -/

theorem mem_insertNew (h : StrictTotal lt) {a b : α} {l : List α} :
    b ∈ insertNew lt a l ↔ b = a ∨ b ∈ l := by
  induction l with
  | nil => simp [insertNew]
  | cons c l ih =>
    simp only [insertNew]
    split
    · exact List.mem_cons
    · split
      · rw [List.mem_cons, List.mem_cons, ih, or_left_comm]
      · -- neither comes first, so the new element is there already
        rename_i hac hca
        rw [h.connected hac hca, List.mem_cons]
        exact ⟨Or.inr, fun hb => hb.elim Or.inl id⟩

theorem strictly_insertNew (h : StrictTotal lt) (a : α) {l : List α} (hl : Strictly lt l) :
    Strictly lt (insertNew lt a l) := by
  induction l with
  | nil => exact List.pairwise_singleton _ _
  | cons c l ih =>
    obtain ⟨hc, hrest⟩ := List.pairwise_cons.mp hl
    simp only [insertNew]
    split
    · rename_i hac
      refine List.Pairwise.cons ?_ hl
      intro b hb
      rcases List.mem_cons.mp hb with rfl | hb
      · exact hac
      · exact h.trans hac (hc b hb)
    · split
      · rename_i hca
        refine List.Pairwise.cons ?_ (ih hrest)
        intro b hb
        rcases (mem_insertNew h).mp hb with rfl | hb
        · exact hca
        · exact hc b hb
      · exact hl

theorem mem_sortSet (h : StrictTotal lt) {b : α} {l : List α} : b ∈ sortSet lt l ↔ b ∈ l := by
  induction l with
  | nil => exact Iff.rfl
  | cons a l ih =>
    simp only [sortSet, List.foldr_cons] at ih ⊢
    rw [mem_insertNew h, ih, List.mem_cons]

theorem strictly_sortSet (h : StrictTotal lt) : ∀ l : List α, Strictly lt (sortSet lt l)
  | [] => List.Pairwise.nil
  | a :: l => strictly_insertNew h a (strictly_sortSet h l)

theorem perm_insert (lt : α → α → Bool) (a : α) (l : List α) : (insert lt a l).Perm (a :: l) := by
  induction l with
  | nil => exact .refl _
  | cons b l ih =>
    simp only [insert]
    split
    · exact (ih.cons b).trans (.swap a b l)
    · exact .refl _

/-- Sorting only changes the order. -/
theorem perm_sort (lt : α → α → Bool) : ∀ l : List α, (sort lt l).Perm l
  | [] => .refl _
  | a :: l => (perm_insert lt a (sort lt l)).trans ((perm_sort lt l).cons a)

theorem pairwise_insert (h : StrictTotal lt) (a : α) {l : List α}
    (hl : l.Pairwise fun a b => ¬ lt b a) : (insert lt a l).Pairwise fun a b => ¬ lt b a := by
  induction l with
  | nil => exact List.pairwise_singleton _ _
  | cons b l ih =>
    obtain ⟨hb, hrest⟩ := List.pairwise_cons.mp hl
    simp only [insert]
    split
    · rename_i hba
      refine List.Pairwise.cons ?_ (ih hrest)
      intro c hc
      rcases List.mem_cons.mp ((perm_insert lt a l).mem_iff.mp hc) with rfl | hc
      · exact h.asymm hba
      · exact hb c hc
    · rename_i hba
      refine List.Pairwise.cons ?_ hl
      intro c hc
      rcases List.mem_cons.mp hc with rfl | hc
      · exact hba
      · intro hca
        -- then `c` would come before `b`, which is not before `a`
        by_cases hab : lt a b
        · exact hb c hc (h.trans hca hab)
        · exact hb c hc (h.connected hab hba ▸ hca)

/-- Nothing comes before what stands in front of it. -/
theorem pairwise_sort (h : StrictTotal lt) : ∀ l : List α,
    (sort lt l).Pairwise fun a b => ¬ lt b a
  | [] => List.Pairwise.nil
  | a :: l => pairwise_insert h a (pairwise_sort h l)

/-! ## Strictly ascending lists are determined by their elements -/

theorem eq_of_mem_iff (h : StrictTotal lt) {l k : List α} (hl : Strictly lt l)
    (hk : Strictly lt k) (hmem : ∀ a, a ∈ l ↔ a ∈ k) : l = k := by
  have hperm : l.Perm k := (List.perm_ext_iff_of_nodup (hl.nodup h) (hk.nodup h)).mpr hmem
  refine List.Perm.eq_of_pairwise ?_ hl hk hperm
  intro a b _ _ hab hba
  exact absurd hba (h.asymm hab)

theorem Strictly.eq_singleton (h : StrictTotal lt) {l : List α} {a : α} (hl : Strictly lt l)
    (hmem : a ∈ l) (honly : ∀ b ∈ l, b = a) : l = [a] := by
  refine eq_of_mem_iff h hl (List.pairwise_singleton _ _) ?_
  intro b
  rw [List.mem_singleton]
  exact ⟨honly b, fun hb => hb ▸ hmem⟩

theorem sublist_of_mem (h : StrictTotal lt) {l k : List α} (hl : Strictly lt l)
    (hk : Strictly lt k) (hmem : ∀ a ∈ l, a ∈ k) : l.Sublist k := by
  have hsubperm : l.Subperm k := List.subperm_of_subset (hl.nodup h) hmem
  have : Std.Antisymm fun a b => lt a b = true :=
    ⟨fun a b hab hba => absurd hba (h.asymm hab)⟩
  exact List.sublist_of_subperm_of_pairwise hsubperm hl hk

theorem sortSet_congr (h : StrictTotal lt) {l k : List α} (hmem : ∀ a, a ∈ l ↔ a ∈ k) :
    sortSet lt l = sortSet lt k := by
  refine eq_of_mem_iff h (strictly_sortSet h l) (strictly_sortSet h k) ?_
  intro a
  rw [mem_sortSet h, mem_sortSet h, hmem]

/-! ## Merging -/

section

variable [DecidableEq α]

/-- Two ascending lists as one; what stands in both comes once. -/
def mergeSet (lt : α → α → Bool) (l k : List α) : List α :=
  (l.merge k fun a b => !lt b a).dedup

theorem mem_mergeSet {a : α} {l k : List α} : a ∈ mergeSet lt l k ↔ a ∈ l ∨ a ∈ k := by
  rw [mergeSet, List.mem_dedup, List.mem_merge]

theorem strictly_mergeSet (h : StrictTotal lt) {l k : List α} (hl : Strictly lt l)
    (hk : Strictly lt k) : Strictly lt (mergeSet lt l k) := by
  have hweak : ∀ {j : List α}, Strictly lt j → j.Pairwise fun a b => !lt b a := by
    intro j hj
    refine hj.imp ?_
    intro a b hab
    rw [Bool.not_eq_true', ← Bool.not_eq_true]
    exact h.asymm hab
  have htrans : ∀ a b c, !lt b a → !lt c b → !lt c a := by
    intro a b c hab hbc
    simp only [Bool.not_eq_true', ← Bool.not_eq_true] at hab hbc ⊢
    intro hca
    -- what comes before `a` comes before `b`, which is not before `a`
    by_cases hlt : lt a b
    · exact hbc (h.trans hca hlt)
    · exact hbc (h.connected hlt hab ▸ hca)
  have htotal : ∀ a b, (!lt b a || !lt a b) = true := by
    intro a b
    cases hba : lt b a with
    | false => rfl
    | true =>
      have hab : lt a b = false := Bool.eq_false_iff.mpr (h.asymm hba)
      rw [hab]
      rfl
  have hmerged := List.pairwise_merge htrans htotal l k (hweak hl) (hweak hk)
  refine ((hmerged.sublist (List.dedup_sublist _)).and (List.nodup_dedup _)).imp ?_
  intro a b hparts
  obtain ⟨hab, hne⟩ := hparts
  rw [Bool.not_eq_true', ← Bool.not_eq_true] at hab
  by_contra hnot
  exact hne (h.connected hnot hab)

end

/-! ## Strings -/

theorem stringBefore_iff {a b : String} : stringBefore a b ↔ a < b := decide_eq_true_iff

theorem stringBefore_strictTotal : StrictTotal stringBefore where
  irrefl a := by rw [stringBefore_iff]; exact String.lt_irrefl a
  trans hab hbc := by
    rw [stringBefore_iff] at hab hbc ⊢
    exact String.lt_trans hab hbc
  connected hab hba := by
    rw [stringBefore_iff] at hab hba
    exact String.le_antisymm hba hab

theorem mem_strings {a : String} {l : List String} : a ∈ strings l ↔ a ∈ l :=
  mem_sortSet stringBefore_strictTotal

theorem strings_congr {l k : List String} (hmem : ∀ a, a ∈ l ↔ a ∈ k) : strings l = strings k :=
  sortSet_congr stringBefore_strictTotal hmem

theorem pairwise_strings (l : List String) : (strings l).Pairwise (· < ·) :=
  (strictly_sortSet stringBefore_strictTotal l).imp stringBefore_iff.mp

/-- What is in strictly ascending order stays as it is. -/
theorem strings_of_pairwise {l : List String} (h : l.Pairwise (· < ·)) : strings l = l :=
  eq_of_mem_iff stringBefore_strictTotal (strictly_sortSet stringBefore_strictTotal l)
    (h.imp stringBefore_iff.mpr) fun _ => mem_strings

end DependencyAudit.Ascending
