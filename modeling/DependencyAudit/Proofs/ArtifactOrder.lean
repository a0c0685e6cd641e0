import DependencyAudit.Proofs.Reconciliation
import Mathlib.Order.Defs.Unbundled

/-!
The order of artifacts by a key. The key may leave artifacts equal, as the name in reports does
for a module without a group and one without a version; then the descriptors decide. No other
artifact has the descriptor of an artifact, whatever stands in its fields, so the order is strict
and total for every key (`precedes_strictTotalOrder`). Such an order leaves no choice: the least
candidate (`least?_congr`) and the sorted list are the same in whatever order the candidates come.

Main statement: `descriptor_separates`.
-/

namespace DependencyAudit.Reconciliation

open Artifact

theorem precedes_strictTotalOrder (key : Artifact → String) :
    IsStrictTotalOrder Artifact (Precedes key) where
  trichotomous _ _ := precedes_connected
  irrefl := precedes_irrefl
  trans _ _ _ := precedes_trans

/-- Only which candidates there are counts for the least one, not their order. -/
theorem least?_congr (key : Artifact → String) {l k : List Artifact}
    (hmem : ∀ a, a ∈ l ↔ a ∈ k) : least? key l = least? key k := by
  refine Option.ext ?_
  intro a
  rw [least?_eq_some_iff, least?_eq_some_iff]
  simp only [hmem]

/-- For all artifacts of either kind, with any texts in their fields: two have one descriptor
exactly if they are equal, and no descriptor is the beginning of another one. So for every key the
order by the key, with the descriptor behind it, is strict and total, and the least candidate and
the sorted list depend on nothing but on which candidates there are. -/
theorem descriptor_separates :
    (∀ a b : Artifact, a.descriptor = b.descriptor ↔ a = b) ∧
    (∀ a b : Artifact, a.descriptor.toList <+: b.descriptor.toList ↔ a = b) ∧
    ∀ key : Artifact → String,
      IsStrictTotalOrder Artifact (Precedes key) ∧
      (∀ a b, before key a b ↔ Precedes key a b) ∧
      ∀ l k : List Artifact, (∀ a, a ∈ l ↔ a ∈ k) →
        least? key l = least? key k ∧
        Ascending.sortSet (before key) l = Ascending.sortSet (before key) k := by
  refine ⟨?_, ?_, ?_⟩
  · intro a b
    exact ⟨descriptor_inj, congrArg descriptor⟩
  · intro a b
    exact descriptor_prefix_iff
  · intro key
    refine ⟨precedes_strictTotalOrder key, fun a b => before_iff, ?_⟩
    intro l k hmem
    exact ⟨least?_congr key hmem, Ascending.sortSet_congr (before_strictTotal key) hmem⟩

/-! ## Modules of one name

Quotes, a line feed and the syntax of a descriptor stand in the fields, and what is a name and a
version in one module is a group and a name in another. -/

/-- Three artifacts with one name in reports. -/
def namesakes : List Artifact :=
  [external ⟨"", "a', version='1", "\n\"2"⟩ none,
   external ⟨"", "a', version='1", "\n\"2"⟩ (some ""),
   external ⟨"a', version='1", "\n\"2", ""⟩ none]

theorem namesakes_ordered :
    (∀ a ∈ namesakes, a.displayName = "a', version='1:\n\"2") ∧
    (∀ a, a ∈ namesakes ↔ a ∈ namesakes.reverse) ∧
    least? displayName namesakes = least? displayName namesakes.reverse ∧
    Ascending.sortSet (before displayName) namesakes =
      Ascending.sortSet (before displayName) namesakes.reverse ∧
    Ascending.sortSet (before displayName) namesakes = namesakes.reverse := by
  have hmem : ∀ a, a ∈ namesakes ↔ a ∈ namesakes.reverse := fun _ => List.mem_reverse.symm
  obtain ⟨_, _, horder⟩ := descriptor_separates
  obtain ⟨_, _, hchoice⟩ := horder displayName
  obtain ⟨hleast, hsorted⟩ := hchoice _ _ hmem
  exact ⟨by decide, hmem, hleast, hsorted, by decide +kernel⟩

end DependencyAudit.Reconciliation
