import DependencyAudit.Config
import DependencyAudit.Proofs.Tree

/-!
Directory trees without their configuration files. Stripping a tree takes every file of the
standard name away and keeps the rest, so a path that has no component of that name leads to the
same things before and after (`Disk.walk_stripped`), and of what a search below a directory comes to
only those files are missing (`Node.search_stripped`).

Two disks show the same at a path if what they find there is the same once it is stripped
(`Disk.FoundAlike`). Then it is of one kind, has the same bytes if it is a file, and the same
listing but for configuration files if it is a directory.
-/

namespace DependencyAudit

namespace Node

mutual

/-- The node without the configuration files below it. -/
def stripped : Node → Node
  | file bytes access => file bytes access
  | directory entries access => directory (strippedEntries entries) access

/-- The entries without configuration files, and without those below them. -/
def strippedEntries : List (String × Node) → List (String × Node)
  | [] => []
  | (name, node) :: rest =>
    if name = Config.standardName ∧ node.kind = .file then strippedEntries rest
    else (name, stripped node) :: strippedEntries rest

end

/-- Whether a listed thing is there after stripping: it is no file of the standard name. -/
def keeps (e : List String × Kind) : Bool :=
  e.2 = .directory || e.1.getLast? ≠ some Config.standardName

variable {n found : Node} {way : List String} {entries : List (String × Node)} {part : String}

@[simp] theorem kind_stripped (n : Node) : n.stripped.kind = n.kind := by
  cases n <;> rfl

theorem strippedEntries_cons (name : String) (node : Node) (rest : List (String × Node)) :
    strippedEntries ((name, node) :: rest) =
      if keeps ([name], node.kind) then (name, stripped node) :: strippedEntries rest
      else strippedEntries rest := by
  rw [strippedEntries]
  by_cases hname : name = Config.standardName
  · cases node <;> simp [keeps, hname, kind]
  · simp [keeps, hname]

/-! ## Looking up -/

theorem keeps_cons {e : List String × Kind} (name : String) (hne : e.1 ≠ []) :
    keeps (name :: e.1, e.2) = keeps e := by
  obtain ⟨way, k⟩ := e
  cases way with
  | nil => exact absurd rfl hne
  | cons next way => simp [keeps, List.getLast?_cons_cons]

section

variable {lists enters : Access → Bool}

mutual

theorem search_stripped : ∀ n : Node,
    n.stripped.search lists enters = (n.search lists enters).filter keeps
  | .file bytes access => by
    rw [stripped, search]
    rfl
  | .directory entries access => by
    rw [stripped, search, search, entrySearch_stripped]
    split
    · rfl
    · rfl

theorem entrySearch_stripped (further : Bool) : ∀ entries : List (String × Node),
    entrySearch lists enters further (strippedEntries entries) =
      (entrySearch lists enters further entries).filter keeps
  | [] => rfl
  | (name, node) :: rest => by
    have ih := entrySearch_stripped further rest
    have hbelow : (if further then
          (node.search lists enters).map (fun e => (name :: e.1, e.2)) else []).filter keeps =
        if further then
          (node.stripped.search lists enters).map (fun e => (name :: e.1, e.2)) else [] := by
      split
      · rw [search_stripped node, List.filter_map]
        congr 1
        refine List.filter_congr fun e he => keeps_cons name ?_
        obtain ⟨found, hfound, _⟩ := (mem_search node).mp he
        exact hfound.ne_nil
      · rfl
    rw [strippedEntries_cons, entrySearch, List.filter_append, List.filter_cons, hbelow, ← ih]
    split
    · rw [entrySearch, kind_stripped]
    · rename_i hdropped
      -- only a file is dropped, and nothing lies below one
      cases node with
      | file bytes access => cases further <;> simp [stripped, search]
      | directory entries access => exact absurd rfl hdropped

end

theorem mem_strippedEntries {name : String} {m : Node} :
    ∀ {entries : List (String × Node)}, (name, m) ∈ strippedEntries entries ↔
      ∃ node, (name, node) ∈ entries ∧ keeps ([name], node.kind) ∧ m = stripped node
  | [] => by simp [strippedEntries]
  | (other, node) :: rest => by
    have ih : (name, m) ∈ strippedEntries rest ↔ _ := mem_strippedEntries
    rw [strippedEntries_cons]
    split
    · rename_i hkept
      rw [List.mem_cons, ih, Prod.mk.injEq]
      refine ⟨?_, ?_⟩
      · rintro (⟨rfl, rfl⟩ | ⟨node', hmem, hkept', rfl⟩)
        · exact ⟨node, List.mem_cons_self, hkept, rfl⟩
        · exact ⟨node', List.mem_cons_of_mem _ hmem, hkept', rfl⟩
      · rintro ⟨node', hmem, hkept', rfl⟩
        rcases List.mem_cons.mp hmem with heq | hmem
        · obtain ⟨rfl, rfl⟩ := Prod.mk.inj heq
          exact Or.inl ⟨rfl, rfl⟩
        · exact Or.inr ⟨node', hmem, hkept', rfl⟩
    · rename_i hdropped
      rw [ih]
      refine ⟨fun ⟨node', hmem, h⟩ => ⟨node', List.mem_cons_of_mem _ hmem, h⟩, ?_⟩
      rintro ⟨node', hmem, hkept', rfl⟩
      rcases List.mem_cons.mp hmem with heq | hmem
      · obtain ⟨rfl, rfl⟩ := Prod.mk.inj heq
        exact absurd hkept' hdropped
      · exact ⟨node', hmem, hkept', rfl⟩

/-- What is kept stays where it is. -/
theorem Leads.stripped (h : Leads lists enters n way found) (hkept : keeps (way, found.kind)) :
    Leads lists enters n.stripped way found.stripped := by
  induction h with
  | entry hlists hmem =>
    rw [Node.stripped]
    exact .entry hlists (mem_strippedEntries.mpr ⟨_, hmem, hkept, rfl⟩)
  | @inside entries access name node found way hlists henters hmem hinner ih =>
    have hne : way ≠ [] := hinner.ne_nil
    have hdirectory : keeps ([name], node.kind) := by
      cases node with
      | file bytes access => exact absurd hinner not_leads_file
      | directory entries access => rfl
    rw [Node.stripped]
    refine .inside hlists henters (mem_strippedEntries.mpr ⟨_, hmem, hdirectory, rfl⟩) (ih ?_)
    rwa [← keeps_cons (e := (way, found.kind)) name hne]

theorem Leads.of_stripped {m : Node} (h : Leads lists enters n.stripped way m) :
    ∃ found, Leads lists enters n way found ∧ m = found.stripped := by
  generalize hn : n.stripped = s at h
  induction h generalizing n with
  | entry hlists hmem =>
    cases n with
    | file bytes access => cases hn
    | directory entries access =>
      obtain ⟨rfl, rfl⟩ := Node.directory.inj hn
      obtain ⟨node, hheld, _, rfl⟩ := mem_strippedEntries.mp hmem
      exact ⟨node, .entry hlists hheld, rfl⟩
  | inside hlists henters hmem _ ih =>
    cases n with
    | file bytes access => cases hn
    | directory entries access =>
      obtain ⟨rfl, rfl⟩ := Node.directory.inj hn
      obtain ⟨node, hheld, _, rfl⟩ := mem_strippedEntries.mp hmem
      obtain ⟨found, hfound, rfl⟩ := ih rfl
      exact ⟨found, .inside hlists henters hheld hfound, rfl⟩

/-- Where two trees are the same once they are stripped, a way leads to the same in both. -/
theorem Leads.exists_of_stripped_eq {n' : Node} (h : Leads lists enters n way found)
    (hsame : n.stripped = n'.stripped) (hkept : keeps (way, found.kind)) :
    ∃ found', Leads lists enters n' way found' ∧ found.stripped = found'.stripped := by
  have hheld := h.stripped hkept
  rw [hsame] at hheld
  exact hheld.of_stripped

end

end Node

/-! ## Paths -/

namespace Disk

open Node

variable {disk disk' : Disk} {p : Path}

/-- What the disks find at a path is the same, apart from configuration files below it. -/
def FoundAlike (disk disk' : Disk) (p : Path) : Prop :=
  (disk.find p).map stripped = (disk'.find p).map stripped

theorem FoundAlike.kind_eq (h : FoundAlike disk disk' p) : disk.kind p = disk'.kind p := by
  have hkind : ∀ x : Except Obstacle Node, (x.map stripped).map Node.kind = x.map Node.kind := by
    intro x
    cases x <;> simp [Except.map]
  rw [kind, kind, ← hkind (disk.find p), h, hkind]

theorem FoundAlike.read_eq (h : FoundAlike disk disk' p) : disk.read p = disk'.read p := by
  unfold FoundAlike at h
  rw [read, read]
  cases hfind : disk.find p with
  | error o =>
    cases hfind' : disk'.find p with
    | error o' =>
      rw [hfind, hfind'] at h
      exact congrArg Except.error (Except.error.inj h)
    | ok n' =>
      rw [hfind, hfind'] at h
      cases h
  | ok n =>
    cases hfind' : disk'.find p with
    | error o' =>
      rw [hfind, hfind'] at h
      cases h
    | ok n' =>
      rw [hfind, hfind'] at h
      have hstripped : n.stripped = n'.stripped := Except.ok.inj h
      cases n <;> cases n' <;> simp_all [stripped]

theorem FoundAlike.below_eq (h : FoundAlike disk disk' p) :
    (disk.below p).filter keeps = (disk'.below p).filter keeps := by
  have hbelow : ∀ disk : Disk, (disk.below p).filter keeps =
      (((disk.find p).map stripped).toOption.map revealed).getD [] := by
    intro disk
    rw [below]
    cases disk.find p with
    | error o => rfl
    | ok n => exact (search_stripped n).symm
  rw [hbelow, hbelow, h]

/-- In proper trees what is kept below a path is found alike too. -/
theorem FoundAlike.below (h : FoundAlike disk disk' p) (hdisk : disk.root.Proper)
    (hdisk' : disk'.root.Proper) {e : List String × Kind} (he : e ∈ disk.below p)
    (hkept : keeps e) : FoundAlike disk disk' (p.below e.1) := by
  obtain ⟨way, k⟩ := e
  rw [Disk.below] at he
  cases hfind : disk.find p with
  | error o =>
    rw [hfind] at he
    exact absurd he List.not_mem_nil
  | ok n =>
    rw [hfind] at he
    obtain ⟨found, hfound, rfl⟩ := mem_revealed.mp he
    unfold FoundAlike at h
    rw [hfind] at h
    cases hfind' : disk'.find p with
    | error o =>
      rw [hfind'] at h
      cases h
    | ok n' =>
      rw [hfind'] at h
      have hn := proper_of_find hdisk hfind
      have hn' := proper_of_find hdisk' hfind'
      have hstripped : n.stripped = n'.stripped := Except.ok.inj h
      obtain ⟨found', hfound', hsame⟩ := Leads.exists_of_stripped_eq hfound hstripped hkept
      have hkept' : keeps (way, found'.kind) := by
        rwa [← kind_stripped found', ← hsame, kind_stripped]
      rw [FoundAlike]
      cases hlong : isTooLong (p.below way) with
      | true =>
        rw [find_below_of_tooLong hn hfind hfound.holds hlong,
          find_below_of_tooLong hn' hfind' (Reveals.holds hfound') hlong]
      | false =>
        by_cases hreaches : n.Reaches way found
        · obtain ⟨again, hagain, hsame'⟩ := Leads.exists_of_stripped_eq hreaches hstripped hkept
          rw [find_below hn hfind hreaches hlong, find_below hn' hfind' hagain hlong]
          exact congrArg Except.ok hsame'
        · have hdenied := find_below_of_not_reaches hn hfind hfound.holds hreaches hlong
          have hreaches' : ¬ n'.Reaches way found' := by
            intro hother
            obtain ⟨again, hagain, _⟩ := Leads.exists_of_stripped_eq hother hstripped.symm hkept'
            cases hdenied.symm.trans (find_below hn hfind hagain hlong)
          rw [hdenied, find_below_of_not_reaches hn' hfind' (Reveals.holds hfound') hreaches' hlong]

end Disk

end DependencyAudit
