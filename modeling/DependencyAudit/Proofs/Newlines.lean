import DependencyAudit.Proofs.Ascending
import DependencyAudit.Proofs.Pieces
import DependencyAudit.Reference.Format

/-!
References are read line by line, whatever ends the lines. Two texts with a line feed between them
have the lines of both; at the seam there may be one more empty line, or a carriage return may end
its line together with the line feed (`lines_append_newline`). Turning every carriage return into
a line feed leaves the lines as they are (`lines_unifyNewlines`). So a carriage return, alone or
with a line feed behind it, lies between lines as a line feed does
(`unifyNewlines_append_return`). No format reads anything off an empty line.

Main statement: `read_line_by_line`, on the classes that a text in either format refers to.
-/

namespace DependencyAudit

namespace Text

/-! ## Lines at a seam -/

theorem lines_eq_nil_iff {s : List Char} : lines s = [] ↔ s = [] := by
  fun_cases lines s <;> simp_all

/-- The line feed between two texts ends a line that is open, or belongs to a carriage return in
front of it; else it ends an empty line. -/
theorem lines_append_newline (a b : List Char) :
    lines (a ++ '\n' :: b) = lines a ++ lines b ∨
      lines (a ++ '\n' :: b) = lines a ++ [] :: lines b := by
  fun_induction lines a with
  | case1 => exact Or.inr rfl
  | case2 s ih => exact ih.imp (congrArg ([] :: ·)) (congrArg ([] :: ·))
  | case3 c s hpair hend ih =>
    by_cases hreturn : c = '\r' ∧ s = []
    · obtain ⟨rfl, rfl⟩ := hreturn
      exact Or.inl rfl
    · have hapart : c = '\r' → (s ++ '\n' :: b).head? ≠ some '\n' := by
        intro hc
        cases s with
        | nil => exact absurd ⟨hc, rfl⟩ hreturn
        | cons d s =>
          intro hd
          obtain rfl : d = '\n' := by simpa using hd
          exact hpair s hc rfl
      rw [List.cons_append, lines_cons_of_isLineEnd hend hapart]
      exact ih.imp (congrArg ([] :: ·)) (congrArg ([] :: ·))
  | case4 c s _ hend hnone =>
    -- the first text is the one character, and its line is open
    obtain rfl := lines_eq_nil_iff.mp hnone
    left
    show lines (c :: '\n' :: b) = [c] :: lines b
    rw [lines_cons_of_not hend]
    rfl
  | case5 c s _ hend line rest hlines ih =>
    rw [List.cons_append, lines_cons_of_not hend]
    rw [hlines] at ih
    rcases ih with ih | ih
    · left
      rw [ih]
      rfl
    · right
      rw [ih]
      rfl

theorem lines_unifyNewlines (s : List Char) : lines (unifyNewlines s) = lines s := by
  fun_induction unifyNewlines s with
  | case1 => rfl
  | case2 s ih => exact congrArg ([] :: ·) ih
  | case3 c s hpair ih =>
    have hapart : c = '\r' → s.head? ≠ some '\n' := by
      intro hc hs
      obtain ⟨t, rfl⟩ := List.head?_eq_some_iff.mp hs
      exact hpair t hc rfl
    by_cases hend : isLineEnd c
    · rw [lines_cons_of_isLineEnd hend hapart, ← ih]
      split
      · rfl
      · rename_i hother
        exact lines_cons_of_isLineEnd hend fun hc => absurd hc hother
    · have hother : c ≠ '\r' := by
        rintro rfl
        exact hend rfl
      rw [if_neg hother, lines_cons_of_not hend, lines_cons_of_not hend, ih]

theorem unifyNewlines_cons {c : Char} {s : List Char} (h : c = '\r' → s.head? ≠ some '\n') :
    unifyNewlines (c :: s) = (if c = '\r' then '\n' else c) :: unifyNewlines s := by
  rw [unifyNewlines]
  intro t hc hs
  exact h hc (hs ▸ rfl)

/-- A carriage return between two texts becomes the line feed between them, and takes a line feed
behind it along. -/
theorem unifyNewlines_append_return (a b : List Char) :
    unifyNewlines (a ++ '\r' :: '\n' :: b) = unifyNewlines a ++ '\n' :: unifyNewlines b ∧
      (b.head? ≠ some '\n' →
        unifyNewlines (a ++ '\r' :: b) = unifyNewlines a ++ '\n' :: unifyNewlines b) := by
  fun_induction unifyNewlines a with
  | case1 => exact ⟨rfl, fun hb => unifyNewlines_cons fun _ => hb⟩
  | case2 s ih => exact ⟨congrArg ('\n' :: ·) ih.1, fun hb => congrArg ('\n' :: ·) (ih.2 hb)⟩
  | case3 c s hpair ih =>
    -- what is put behind the first text starts with a carriage return, so it completes no pair
    have hapart : ∀ t : List Char, c = '\r' → (s ++ '\r' :: t).head? ≠ some '\n' := by
      intro t hc hhead
      cases s with
      | nil => exact absurd hhead (by simp)
      | cons d s =>
        obtain rfl : d = '\n' := by simpa using hhead
        exact hpair s hc rfl
    refine ⟨?_, fun hb => ?_⟩
    · rw [List.cons_append, unifyNewlines_cons (hapart _), ih.1]
      rfl
    · rw [List.cons_append, unifyNewlines_cons (hapart _), ih.2 hb]
      rfl

/-- An empty line more does not matter, if nothing is read off it. -/
theorem filterMap_lines_append_newline {α : Type} (read : List Char → Option α)
    (hread : read [] = none) (a b : List Char) :
    (lines (a ++ '\n' :: b)).filterMap read =
      (lines a).filterMap read ++ (lines b).filterMap read := by
  rcases lines_append_newline a b with h | h
  · rw [h, List.filterMap_append]
  · rw [h, List.filterMap_append, List.filterMap_cons_none hread]

end Text

/-! ## Classes at a seam -/

namespace Reference.Format

theorem pairwise_classes (f : Format) (s : List Char) : (f.classes s).Pairwise (· < ·) :=
  Ascending.pairwise_strings _

theorem mem_classes_append_newline (f : Format) (a b : List Char) (name : String) :
    name ∈ f.classes (a ++ '\n' :: b) ↔ name ∈ f.classes a ∨ name ∈ f.classes b := by
  have hjdeps := Text.filterMap_lines_append_newline Jdeps.ofLine? rfl a b
  have hlisting := Text.filterMap_lines_append_newline Listing.ofLine? rfl a b
  cases f with
  | jdeps =>
    simp only [classes, Jdeps.classes, hjdeps, Ascending.mem_strings, List.map_append,
      List.mem_append]
  | listing =>
    simp only [classes, Listing.classes, hlisting, Ascending.mem_strings, List.map_append,
      List.mem_append]

theorem classes_unifyNewlines (f : Format) (s : List Char) :
    f.classes (Text.unifyNewlines s) = f.classes s := by
  cases f <;> simp only [classes, Jdeps.classes, Listing.classes, Text.lines_unifyNewlines]

/-- A carriage return lies between lines as a line feed does. -/
theorem mem_classes_append_return (f : Format) (a b : List Char) (name : String) :
    name ∈ f.classes (a ++ '\r' :: b) ↔ name ∈ f.classes a ∨ name ∈ f.classes b := by
  rw [← classes_unifyNewlines f (a ++ '\r' :: b), ← classes_unifyNewlines f a]
  by_cases hpair : b.head? = some '\n'
  · obtain ⟨rest, rfl⟩ := List.head?_eq_some_iff.mp hpair
    have hfirst := mem_classes_append_newline f [] rest name
    have hnone : name ∉ f.classes [] := by
      cases f <;> exact List.not_mem_nil
    rw [(Text.unifyNewlines_append_return a rest).1, mem_classes_append_newline,
      classes_unifyNewlines f rest]
    rw [List.nil_append] at hfirst
    simp only [hfirst, hnone, false_or]
  · rw [(Text.unifyNewlines_append_return a b).2 hpair, mem_classes_append_newline,
      classes_unifyNewlines f b]

theorem read_line_by_line (f : Format) (a b s : List Char) :
    (∀ name, name ∈ f.classes (a ++ '\n' :: b) ↔ name ∈ f.classes a ∨ name ∈ f.classes b) ∧
    f.classes (a ++ '\n' :: b) = Ascending.strings (f.classes a ++ f.classes b) ∧
    f.classes (Text.unifyNewlines s) = f.classes s := by
  have hmem := mem_classes_append_newline f a b
  have hunion : f.classes (a ++ '\n' :: b) = Ascending.strings (f.classes a ++ f.classes b) := by
    calc f.classes (a ++ '\n' :: b)
        = Ascending.strings (f.classes (a ++ '\n' :: b)) :=
          (Ascending.strings_of_pairwise (pairwise_classes f _)).symm
      _ = Ascending.strings (f.classes a ++ f.classes b) := by
          apply Ascending.strings_congr
          intro name
          rw [hmem, List.mem_append]
  exact ⟨hmem, hunion, classes_unifyNewlines f s⟩

/-- A pair and a lone carriage return are read as line feeds, and so end lines of a listing. -/
theorem returns_read_as_line_feeds :
    Text.unifyNewlines "a.A\r\nb.B\rc.C".toList = "a.A\nb.B\nc.C".toList ∧
      listing.classes "a.A\r\nb.B\rc.C".toList = ["a.A", "b.B", "c.C"] := by
  have hunified : Text.unifyNewlines "a.A\r\nb.B\rc.C".toList = "a.A\nb.B\nc.C".toList := by
    decide
  obtain ⟨_, _, hsame⟩ := read_line_by_line listing [] [] "a.A\r\nb.B\rc.C".toList
  rw [hunified] at hsame
  refine ⟨hunified, ?_⟩
  rw [← hsame]
  decide +kernel

end Reference.Format

end DependencyAudit
