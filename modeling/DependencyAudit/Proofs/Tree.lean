import DependencyAudit.Proofs.Outcome
import DependencyAudit.Proofs.Pieces
import Mathlib.Data.List.Nodup

/-!
What lies below a directory, and how it is looked up. A way leads from a node to another one
through directories that allow it (`Node.Leads`), and there are three sorts of it: the node lies
at its end (`Node.Holds`), a search comes to the node along it (`Node.Reveals`), or a look-up does
(`Node.Reaches`). What a search lists is complete and sound for that (`mem_search`, `mem_files`).

In a proper tree, as file systems keep them, each directory has proper names, and each name once.
There everything below a directory is listed once (`nodup_search`), and what a way reaches is what
is found at the path that goes on along the way (`Disk.find_below`), unless that path is too long
(`Disk.find_below_of_tooLong`); what a way does not reach is out of bounds
(`Disk.find_below_of_not_reaches`). A search comes to its end if the directories it comes to can be
entered (`Disk.outcome_descendants_bind_eq_ok`).
-/

namespace DependencyAudit

namespace Node

/-! ## What a way leads to -/

/-- The way leads from the first node to the last one. The access of every directory that it goes
through passes the first test, and where it goes on below an entry, the second test too. -/
inductive Leads (lists enters : Access → Bool) : Node → List String → Node → Prop where
  | entry {entries : List (String × Node)} {access : Access} {name : String} {node : Node} :
      lists access → (name, node) ∈ entries →
      Leads lists enters (.directory entries access) [name] node
  | inside {entries : List (String × Node)} {access : Access} {name : String}
      {node found : Node} {way : List String} :
      lists access → enters access → (name, node) ∈ entries → Leads lists enters node way found →
      Leads lists enters (.directory entries access) (name :: way) found

/-- The last node lies at the end of the way below the first. -/
def Holds : Node → List String → Node → Prop := Leads (fun _ => true) fun _ => true

/-- A search that passes over what the program may not list or enter comes along the way to the
last node. -/
def Reveals : Node → List String → Node → Prop := Leads Access.readable Access.searchable

/-- The last node can be looked up along the way, since every directory on it is searchable. -/
def Reaches : Node → List String → Node → Prop := Leads Access.searchable fun _ => true

section

variable {lists enters : Access → Bool} {n found : Node} {way : List String} {access : Access}

theorem Holds.entry {entries : List (String × Node)} {name : String} {node : Node}
    (h : (name, node) ∈ entries) : (directory entries access).Holds [name] node :=
  Leads.entry rfl h

theorem Holds.inside {entries : List (String × Node)} {name : String} {node : Node}
    (h : (name, node) ∈ entries) (hinner : node.Holds way found) :
    (directory entries access).Holds (name :: way) found :=
  Leads.inside rfl rfl h hinner

theorem Leads.holds (h : Leads lists enters n way found) : n.Holds way found := by
  induction h with
  | entry _ hmem => exact .entry hmem
  | inside _ _ hmem _ ih => exact .inside hmem ih

theorem Reveals.holds (h : n.Reveals way found) : n.Holds way found := Leads.holds h

theorem not_leads_file {bytes : List UInt8} :
    ¬ Leads lists enters (.file bytes access) way found := nofun

theorem not_leads_nil : ¬ Leads lists enters (.directory [] access) way found := by
  intro h
  cases h with
  | entry _ hmem => cases hmem
  | inside _ _ hmem _ => cases hmem

theorem Leads.ne_nil (h : Leads lists enters n way found) : way ≠ [] := by
  cases h <;> exact List.cons_ne_nil _ _

/-- Through a directory that may be listed a way leads to its first entry, below it, or into the
rest. -/
theorem leads_cons {name : String} {node : Node} {rest : List (String × Node)}
    (hlists : lists access) :
    Leads lists enters (.directory ((name, node) :: rest) access) way found ↔
      (way = [name] ∧ found = node) ∨
      (∃ inner, enters access ∧ way = name :: inner ∧ Leads lists enters node inner found) ∨
      Leads lists enters (.directory rest access) way found := by
  refine ⟨?_, ?_⟩
  · intro h
    cases h with
    | entry _ hmem =>
      rcases List.mem_cons.mp hmem with heq | hmem
      · obtain ⟨rfl, rfl⟩ := Prod.mk.inj heq
        exact Or.inl ⟨rfl, rfl⟩
      · exact Or.inr (Or.inr (.entry hlists hmem))
    | inside _ henters hmem hinner =>
      rcases List.mem_cons.mp hmem with heq | hmem
      · obtain ⟨rfl, rfl⟩ := Prod.mk.inj heq
        exact Or.inr (Or.inl ⟨_, henters, rfl, hinner⟩)
      · exact Or.inr (Or.inr (.inside hlists henters hmem hinner))
  · intro hcase
    rcases hcase with ⟨rfl, rfl⟩ | ⟨inner, henters, rfl, hinner⟩ | hrest
    · exact .entry hlists List.mem_cons_self
    · exact .inside hlists henters List.mem_cons_self hinner
    · cases hrest with
      | entry _ hmem => exact .entry hlists (List.mem_cons_of_mem _ hmem)
      | inside _ henters hmem hinner =>
        exact .inside hlists henters (List.mem_cons_of_mem _ hmem) hinner

/-- With a name in front of every way, a way has that name in front. -/
theorem mem_map_cons {β : Type} {name : String} {l : List (List String × β)} {b : β} :
    (way, b) ∈ l.map (fun e => (name :: e.1, e.2)) ↔
      ∃ inner, way = name :: inner ∧ (inner, b) ∈ l := by
  simp only [List.mem_map, Prod.mk.injEq, Prod.exists]
  refine ⟨?_, ?_⟩
  · intro hparts
    obtain ⟨inner, _, hmem, rfl, rfl⟩ := hparts
    exact ⟨inner, rfl, hmem⟩
  · intro hparts
    obtain ⟨inner, rfl, hmem⟩ := hparts
    exact ⟨inner, b, hmem, rfl, rfl⟩

mutual

theorem mem_search : ∀ (n : Node) {way : List String} {k : Kind},
    (way, k) ∈ n.search lists enters ↔ ∃ found, Leads lists enters n way found ∧ found.kind = k
  | .file bytes access, way, k => by
    rw [search]
    simp [not_leads_file]
  | .directory entries access, way, k => by
    rw [search]
    by_cases hlists : lists access
    · rw [if_pos hlists, mem_entrySearch hlists entries]
    · rw [if_neg hlists]
      refine ⟨nofun, ?_⟩
      intro hparts
      obtain ⟨found, h, _⟩ := hparts
      cases h with
      | entry h _ => exact absurd h hlists
      | inside h _ _ _ => exact absurd h hlists

theorem mem_entrySearch {access : Access} (hlists : lists access) :
    ∀ (entries : List (String × Node)) {way : List String} {k : Kind},
      (way, k) ∈ entrySearch lists enters (enters access) entries ↔
        ∃ found, Leads lists enters (.directory entries access) way found ∧ found.kind = k
  | [], way, k => by
    rw [entrySearch]
    simp [not_leads_nil]
  | (name, node) :: rest, way, k => by
    have hbelow : (way, k) ∈ (if enters access then
          (search lists enters node).map (fun e => (name :: e.1, e.2)) else []) ↔
        ∃ inner, enters access ∧ way = name :: inner ∧
          ∃ found, Leads lists enters node inner found ∧ found.kind = k := by
      split
      · rename_i henters
        simp only [mem_map_cons, mem_search node, henters, true_and]
      · rename_i henters
        exact ⟨nofun, fun ⟨_, h, _⟩ => absurd h henters⟩
    have hfirst : (way, k) = ([name], node.kind) ↔ way = [name] ∧ node.kind = k := by
      rw [Prod.mk.injEq, eq_comm (a := k)]
    rw [entrySearch, List.mem_append, List.mem_cons, mem_entrySearch hlists rest, hbelow, hfirst]
    simp only [leads_cons hlists]
    refine ⟨?_, ?_⟩
    · intro hcase
      rcases hcase with
        (⟨hway, hk⟩ | ⟨inner, henters, hway, found, hinner, hk⟩) | ⟨found, hrest, hk⟩
      · exact ⟨node, Or.inl ⟨hway, rfl⟩, hk⟩
      · exact ⟨found, Or.inr (Or.inl ⟨inner, henters, hway, hinner⟩), hk⟩
      · exact ⟨found, Or.inr (Or.inr hrest), hk⟩
    · intro hparts
      obtain ⟨found, ⟨hway, rfl⟩ | ⟨inner, henters, hway, hinner⟩ | hrest, hk⟩ := hparts
      · exact Or.inl (Or.inl ⟨hway, hk⟩)
      · exact Or.inl (Or.inr ⟨inner, henters, hway, found, hinner, hk⟩)
      · exact Or.inr ⟨found, hrest, hk⟩

end

theorem mem_descendants {k : Kind} :
    (way, k) ∈ n.descendants ↔ ∃ found, n.Holds way found ∧ found.kind = k :=
  mem_search n

theorem mem_revealed {k : Kind} :
    (way, k) ∈ n.revealed ↔ ∃ found, n.Reveals way found ∧ found.kind = k :=
  mem_search n

theorem mem_entryFiles : ∀ (entries : List (String × Node)) (access : Access)
    {way : List String} {bytes : List UInt8},
    (way, bytes) ∈ entryFiles entries ↔
      ∃ held, (directory entries access).Holds way (.file bytes held)
  | [], access, way, bytes => by
    rw [entryFiles]
    simp [Holds, not_leads_nil]
  | (name, .file content own) :: rest, access, way, bytes => by
    rw [entryFiles, List.mem_cons, mem_entryFiles rest access]
    simp only [Holds, leads_cons, not_leads_file, and_false, exists_false, false_or, exists_or,
      Prod.mk.injEq, Node.file.injEq, exists_and_left, exists_eq, and_true]
  | (name, .directory entries own) :: rest, access, way, bytes => by
    have hbelow : (way, bytes) ∈ (entryFiles entries).map (fun f => (name :: f.1, f.2)) ↔
        ∃ inner, way = name :: inner ∧
          ∃ held, (directory entries own).Holds inner (.file bytes held) := by
      simp only [mem_map_cons, mem_entryFiles entries own]
    rw [entryFiles, List.mem_append, mem_entryFiles rest access, hbelow]
    simp only [Holds, leads_cons, true_and]
    refine ⟨?_, ?_⟩
    · intro hcase
      rcases hcase with ⟨inner, hway, held, hinner⟩ | ⟨held, hrest⟩
      · exact ⟨held, Or.inr (Or.inl ⟨inner, hway, hinner⟩)⟩
      · exact ⟨held, Or.inr (Or.inr hrest)⟩
    · intro hparts
      obtain ⟨held, ⟨_, hother⟩ | ⟨inner, hway, hinner⟩ | hrest⟩ := hparts
      · cases hother
      · exact Or.inl ⟨inner, hway, held, hinner⟩
      · exact Or.inr ⟨held, hrest⟩

theorem mem_files {bytes : List UInt8} :
    (way, bytes) ∈ n.files ↔ ∃ held, n.Holds way (.file bytes held) := by
  cases n with
  | file content access =>
    rw [files]
    simp [Holds, not_leads_file]
  | directory entries access => rw [files, mem_entryFiles]

end

/-! ## Proper trees -/

/-- A name that a directory can hold. -/
structure ProperName (name : String) : Prop where
  component : Path.isComponent name.toList
  downward : name ≠ ".."
  plain : ∀ c ∈ name.toList, c ≠ '/' ∧ c ≠ '\x00'
  short : name.utf8ByteSize ≤ Disk.maxNameSize

instance (name : String) : Decidable (ProperName name) :=
  decidable_of_iff
    (Path.isComponent name.toList ∧ name ≠ ".." ∧
      (name.toList.all fun c => c ≠ '/' ∧ c ≠ '\x00') ∧ name.utf8ByteSize ≤ Disk.maxNameSize)
    ⟨fun ⟨hcomponent, hdown, hall, hshort⟩ => ⟨hcomponent, hdown, by simpa using hall, hshort⟩,
      fun h => ⟨h.component, h.downward, by simpa using h.plain, h.short⟩⟩

/-- Every directory of the tree holds proper names, and each of them once. -/
inductive Proper : Node → Prop where
  | file {bytes : List UInt8} {access : Access} : Proper (.file bytes access)
  | directory {entries : List (String × Node)} {access : Access} :
      (∀ e ∈ entries, ProperName e.1) → (entries.map Prod.fst).Nodup →
      (∀ e ∈ entries, Proper e.2) → Proper (.directory entries access)

theorem Leads.proper {lists enters : Access → Bool} {n found : Node} {way : List String}
    (h : Leads lists enters n way found) (hn : n.Proper) :
    found.Proper ∧ ∀ name ∈ way, ProperName name := by
  induction h with
  | entry _ hmem =>
    cases hn with
    | directory hnames _ hnodes =>
      exact ⟨hnodes _ hmem, List.forall_mem_singleton.mpr (hnames _ hmem)⟩
  | inside _ _ hmem _ ih =>
    cases hn with
    | directory hnames _ hnodes =>
      obtain ⟨hfound, hway⟩ := ih (hnodes _ hmem)
      exact ⟨hfound, List.forall_mem_cons.mpr ⟨hnames _ hmem, hway⟩⟩

theorem lookup_of_mem {name : String} {node : Node} {entries : List (String × Node)}
    (hnames : (entries.map Prod.fst).Nodup) (h : (name, node) ∈ entries) :
    entries.lookup name = some node := by
  induction entries with
  | nil => cases h
  | cons e rest ih =>
    obtain ⟨hfirst, hrest⟩ := List.nodup_cons.mp hnames
    rcases List.mem_cons.mp h with rfl | h
    · exact List.lookup_cons_self
    · have hne : name ≠ e.1 := by
        intro heq
        have hmem : name ∈ rest.map Prod.fst := List.mem_map_of_mem (f := Prod.fst) h
        exact hfirst (heq ▸ hmem)
      rw [List.lookup_cons, beq_false_of_ne hne]
      exact ih hrest h

section

variable {lists enters : Access → Bool}

/-- What a search among entries comes to lies behind the name of one. -/
theorem exists_head_of_mem_entrySearch {further : Bool} {e : List String × Kind} :
    ∀ {entries : List (String × Node)}, e ∈ entrySearch lists enters further entries →
      ∃ name inner, e.1 = name :: inner ∧ name ∈ entries.map Prod.fst
  | (name, node) :: rest, h => by
    rw [entrySearch] at h
    rcases List.mem_append.mp h with h | h
    · rcases List.mem_cons.mp h with rfl | h
      · exact ⟨name, [], rfl, List.mem_cons_self⟩
      · cases further with
        | true =>
          obtain ⟨e', _, rfl⟩ := List.mem_map.mp h
          exact ⟨name, e'.1, rfl, List.mem_cons_self⟩
        | false => cases h
    · obtain ⟨other, inner, heq, hmem⟩ := exists_head_of_mem_entrySearch h
      exact ⟨other, inner, heq, List.mem_cons_of_mem _ hmem⟩

mutual

theorem nodup_search : ∀ {n : Node}, n.Proper → ((n.search lists enters).map Prod.fst).Nodup
  | .file _ _, _ => by
    rw [search]
    exact List.nodup_nil
  | .directory entries access, .directory _ hnames hnodes => by
    rw [search]
    split
    · exact nodup_entrySearch _ hnames hnodes
    · exact List.nodup_nil

theorem nodup_entrySearch (further : Bool) : ∀ {entries : List (String × Node)},
    (entries.map Prod.fst).Nodup → (∀ e ∈ entries, Proper e.2) →
    ((entrySearch lists enters further entries).map Prod.fst).Nodup
  | [], _, _ => by
    rw [entrySearch]
    exact List.nodup_nil
  | (name, node) :: rest, hnames, hnodes => by
    obtain ⟨hfirst, hrest⟩ := List.nodup_cons.mp hnames
    obtain ⟨hnode, hothers⟩ := List.forall_mem_cons.mp hnodes
    let inner :=
      if further then (search lists enters node).map (fun e => (name :: e.1, e.2)) else []
    have hinner : (inner.map Prod.fst).Nodup := by
      cases further with
      | true =>
        have hnodup := (nodup_search hnode).map (List.cons_injective (a := name))
        simpa [inner, List.map_map, Function.comp_def] using hnodup
      | false => exact List.nodup_nil
    have hlater := nodup_entrySearch further hrest hothers
    -- ways below the first entry start with its name, and later ones with another name
    have hhead : ∀ way ∈ inner.map Prod.fst, ∃ next, next ≠ [] ∧ way = name :: next := by
      intro way hway
      obtain ⟨e, he, rfl⟩ := List.mem_map.mp hway
      cases further with
      | true =>
        obtain ⟨⟨next, k⟩, hmem, rfl⟩ := List.mem_map.mp he
        obtain ⟨found, hfound, _⟩ := (mem_search node).mp hmem
        exact ⟨next, hfound.ne_nil, rfl⟩
      | false => exact absurd he List.not_mem_nil
    have hshort : [name] ∉ inner.map Prod.fst := by
      intro hmem
      obtain ⟨next, hne, heq⟩ := hhead _ hmem
      exact hne (List.cons.inj heq).2.symm
    have hapart : ∀ way ∈ [name] :: inner.map Prod.fst,
        way ∉ (entrySearch lists enters further rest).map Prod.fst := by
      intro way hway hmem
      obtain ⟨next, rfl⟩ : ∃ next, way = name :: next := by
        rcases List.mem_cons.mp hway with rfl | hway
        · exact ⟨[], rfl⟩
        · obtain ⟨next, _, heq⟩ := hhead way hway
          exact ⟨next, heq⟩
      obtain ⟨e, he, heq⟩ := List.mem_map.mp hmem
      obtain ⟨other, _, hother, hname⟩ := exists_head_of_mem_entrySearch he
      obtain ⟨rfl, _⟩ := List.cons.inj (heq.symm.trans hother)
      exact hfirst hname
    have happend := List.nodup_append'.mpr ⟨List.nodup_cons.mpr ⟨hshort, hinner⟩, hlater, hapart⟩
    rw [entrySearch, List.map_append, List.map_cons]
    exact happend

end

end

end Node

/-! ## Texts of paths -/

namespace Path

theorem toList_text (p : Path) : p.text.toList = '.' :: [] ∧ p.parts = [] ∨
    p.text.toList = p.anchor.text.toList ++ ['/'].intercalate (p.parts.map String.toList) := by
  obtain ⟨anchor, parts⟩ := p
  unfold text
  split
  · rename_i hparts
    obtain rfl : parts = [] := hparts
    exact Or.inl ⟨by decide, rfl⟩
  · refine Or.inr ?_
    rw [String.toList_append, String.toList_intercalate]
    rfl

/-- A null character of a path stands in one of its components. -/
theorem null_mem_text (p : Path) :
    '\x00' ∈ p.text.toList ↔ ∃ part ∈ p.parts, '\x00' ∈ part.toList := by
  have hanchor : '\x00' ∉ p.anchor.text.toList := by
    cases p.anchor <;> decide
  rcases p.toList_text with ⟨htext, hparts⟩ | htext
  · rw [htext, hparts]
    simp
  · rw [htext, List.mem_append]
    refine ⟨?_, ?_⟩
    · intro hcase
      rcases hcase with h | h
      · exact absurd h hanchor
      · rcases Text.mem_intercalate h with h | ⟨part, hpart, h⟩
        · exact absurd h (by decide)
        · obtain ⟨part, hmem, rfl⟩ := List.mem_map.mp hpart
          exact ⟨part, hmem, h⟩
    · intro hparts
      obtain ⟨part, hmem, h⟩ := hparts
      exact Or.inr (Text.mem_intercalate_of_mem (List.mem_map_of_mem hmem) h)

end Path

/-! ## Looking up what lies below -/

namespace Disk

variable {disk : Disk} {p : Path} {n found : Node} {way : List String}

theorem kind_of_find (hp : disk.find p = .ok n) : disk.kind p = .ok n.kind := by
  rw [kind, hp]
  rfl

theorem read_eq_ok_iff {bytes : List UInt8} : disk.read p = .ok bytes ↔
    ∃ access, disk.find p = .ok (.file bytes access) ∧ access.readable := by
  unfold read
  cases disk.find p with
  | error o => simp
  | ok n =>
    cases n with
    | directory entries access => simp
    | file content access => cases hread : access.readable <;> simp [hread]

theorem kind_of_read {bytes : List UInt8} (h : disk.read p = .ok bytes) :
    disk.kind p = .ok .file := by
  obtain ⟨access, hfind, _⟩ := read_eq_ok_iff.mp h
  exact kind_of_find hfind

/-- A component that leads down is looked up among the entries. -/
theorem step_down {passed : List Node} {entries : List (String × Node)} {access : Access}
    {part : String} {next : Node} (hsearch : access.searchable) (hname : Node.ProperName part)
    (hlookup : entries.lookup part = some next) :
    step passed (.directory entries access) part =
      .ok (.directory entries access :: passed, next) := by
  have hshort : ¬ maxNameSize < part.utf8ByteSize := Nat.not_lt.mpr hname.short
  simp [step, hsearch, hname.downward, hshort, hlookup]

theorem step_denied {passed : List Node} {entries : List (String × Node)} {access : Access}
    {part : String} (h : ¬ access.searchable) :
    step passed (.directory entries access) part = .error .denied := by
  simp [step, h]

/-- A step leads to a node that is there: the one it is made from, one that was passed, or an
entry. -/
theorem step_eq_ok {passed passed' : List Node} {here next : Node} {part : String}
    (h : step passed here part = .ok (passed', next)) :
    (∀ m ∈ passed', m = here ∨ m ∈ passed) ∧
      (next = here ∨ next ∈ passed ∨
        ∃ entries access, here = .directory entries access ∧ (part, next) ∈ entries) := by
  unfold step at h
  split at h
  · cases h
  · rename_i entries access
    split at h
    · cases h
    · split at h
      · split at h
        · cases h
          exact ⟨nofun, Or.inl rfl⟩
        · cases h
          exact ⟨fun m hm => Or.inr (List.mem_cons_of_mem _ hm),
            Or.inr (Or.inl List.mem_cons_self)⟩
      · split at h
        · cases h
        · split at h
          · cases h
          · rename_i hlookup
            cases h
            obtain ⟨before, after, rfl, _⟩ := List.lookup_eq_some_iff.mp hlookup
            exact ⟨fun m hm => List.mem_cons.mp hm, Or.inr (Or.inr ⟨_, access, rfl, by simp⟩)⟩

/-- Where a walk has come to a node, it goes on from there. -/
theorem walk_append {ps : List String} : ∀ {passed : List Node} {here : Node},
    walk passed here ps = .ok n →
      ∃ passed', ∀ qs, walk passed here (ps ++ qs) = walk passed' n qs := by
  induction ps with
  | nil =>
    intro passed here h
    obtain rfl := Except.ok.inj h
    exact ⟨passed, fun _ => rfl⟩
  | cons part ps ih =>
    intro passed here h
    cases hstep : step passed here part with
    | error o =>
      rw [walk, hstep] at h
      cases h
    | ok next =>
      rw [walk, hstep] at h
      simp only [List.cons_append, walk, hstep]
      exact ih h

theorem walk_of_reaches (hn : n.Proper) (h : n.Reaches way found) (passed : List Node) :
    walk passed n way = .ok found := by
  induction h generalizing passed with
  | entry hsearch hmem =>
    cases hn with
    | directory hnames hnodup _ =>
      rw [walk, step_down hsearch (hnames _ hmem) (Node.lookup_of_mem hnodup hmem)]
      rfl
  | inside hsearch _ hmem _ ih =>
    cases hn with
    | directory hnames hnodup hnodes =>
      rw [walk, step_down hsearch (hnames _ hmem) (Node.lookup_of_mem hnodup hmem)]
      exact ih (hnodes _ hmem) _

/-- A walk to what lies at the end of a way is stopped where a directory is not searchable. -/
theorem walk_of_not_reaches (hn : n.Proper) (h : n.Holds way found) (hnot : ¬ n.Reaches way found)
    (passed : List Node) : walk passed n way = .error .denied := by
  induction h generalizing passed with
  | @entry entries access name node _ hmem =>
    have hdenied : ¬ access.searchable := fun hsearch => hnot (.entry hsearch hmem)
    rw [walk, step_denied hdenied]
  | @inside entries access name node found way _ _ hmem _ ih =>
    by_cases hsearch : access.searchable
    · cases hn with
      | directory hnames hnodup hnodes =>
        rw [walk, step_down hsearch (hnames _ hmem) (Node.lookup_of_mem hnodup hmem)]
        exact ih (hnodes _ hmem) (fun hreaches => hnot (.inside hsearch rfl hmem hreaches)) _
    · rw [walk, step_denied hsearch]

theorem proper_of_walk {ps : List String} : ∀ {passed : List Node} {here : Node},
    (∀ above ∈ passed, above.Proper) → here.Proper → walk passed here ps = .ok n → n.Proper := by
  induction ps with
  | nil =>
    intro passed here _ hhere h
    obtain rfl := Except.ok.inj h
    exact hhere
  | cons part ps ih =>
    intro passed here hpassed hhere h
    cases hstep : step passed here part with
    | error o =>
      rw [walk, hstep] at h
      cases h
    | ok result =>
      obtain ⟨passed', next⟩ := result
      rw [walk, hstep] at h
      obtain ⟨hback, hnext⟩ := step_eq_ok hstep
      have hpassed' : ∀ above ∈ passed', above.Proper := by
        intro above habove
        rcases hback above habove with rfl | habove
        · exact hhere
        · exact hpassed above habove
      refine ih hpassed' ?_ h
      rcases hnext with rfl | hmem | ⟨entries, access, rfl, hmem⟩
      · exact hhere
      · exact hpassed next hmem
      · cases hhere with
        | directory _ _ hnodes => exact hnodes _ hmem

/-- What is found at a path is looked up by a walk, if the path is not too long and has no null
character. -/
theorem find_eq_ok_iff :
    disk.find p = .ok n ↔
      (∀ part ∈ p.parts, '\x00' ∉ part.toList) ∧ isTooLong p = false ∧
        walk [] disk.root (if p.isAbsolute then p.parts else disk.current ++ p.parts) = .ok n := by
  have hnull : (∀ part ∈ p.parts, '\x00' ∉ part.toList) ↔ ¬ p.text.toList.contains '\x00' := by
    rw [List.contains_iff_mem, Path.null_mem_text]
    simp only [not_exists, not_and]
  rw [hnull, find]
  split
  · rename_i hcontains
    exact ⟨nofun, fun hparts => absurd hcontains hparts.1⟩
  · rename_i hcontains
    split
    · rename_i hlong
      refine ⟨nofun, ?_⟩
      intro hparts
      rw [hlong] at hparts
      cases hparts.2.1
    · rename_i hshort
      exact ⟨fun h => ⟨hcontains, Bool.eq_false_iff.mpr hshort, h⟩, fun hparts => hparts.2.2⟩

theorem proper_of_find (hdisk : disk.root.Proper) (h : disk.find p = .ok n) : n.Proper :=
  proper_of_walk (fun _ habove => absurd habove List.not_mem_nil) hdisk
    (find_eq_ok_iff.mp h).2.2

/-- Below a node that was found a look-up goes on from there, if the path is not too long. -/
theorem find_below_eq (hn : n.Proper) (hp : disk.find p = .ok n) (h : n.Holds way found) :
    ∃ passed, disk.find (p.below way) =
      if isTooLong (p.below way) then .error .nameTooLong else walk passed n way := by
  obtain ⟨hnull, _, hwalk⟩ := find_eq_ok_iff.mp hp
  have hplain : '\x00' ∉ (p.below way).text.toList := by
    rw [Path.null_mem_text]
    rintro ⟨part, hpart, hzero⟩
    rcases List.mem_append.mp hpart with hpart | hpart
    · exact hnull part hpart hzero
    · exact (((h.proper hn).2 part hpart).plain _ hzero).2 rfl
  have hparts : (if (p.below way).isAbsolute then (p.below way).parts
      else disk.current ++ (p.below way).parts) =
      (if p.isAbsolute then p.parts else disk.current ++ p.parts) ++ way := by
    have hsame : (p.below way).isAbsolute = p.isAbsolute := rfl
    rw [hsame]
    cases p.isAbsolute <;> simp [Path.below]
  obtain ⟨passed, hfrom⟩ := walk_append hwalk
  refine ⟨passed, ?_⟩
  rw [find, hparts, hfrom]
  simp [hplain]

theorem find_below (hn : n.Proper) (hp : disk.find p = .ok n) (h : n.Reaches way found)
    (hshort : isTooLong (p.below way) = false) : disk.find (p.below way) = .ok found := by
  obtain ⟨passed, heq⟩ := find_below_eq hn hp (Node.Leads.holds h)
  rw [heq, hshort]
  exact walk_of_reaches hn h passed

theorem find_below_of_tooLong (hn : n.Proper) (hp : disk.find p = .ok n) (h : n.Holds way found)
    (hlong : isTooLong (p.below way) = true) : disk.find (p.below way) = .error .nameTooLong := by
  obtain ⟨passed, heq⟩ := find_below_eq hn hp h
  rw [heq, hlong]
  rfl

theorem find_below_of_not_reaches (hn : n.Proper) (hp : disk.find p = .ok n)
    (h : n.Holds way found) (hnot : ¬ n.Reaches way found)
    (hshort : isTooLong (p.below way) = false) : disk.find (p.below way) = .error .denied := by
  obtain ⟨passed, heq⟩ := find_below_eq hn hp h
  rw [heq, hshort]
  exact walk_of_not_reaches hn h hnot passed

/-- The directories that a search below a node comes to can be entered, since their paths are not
too long. The node lies at the path. -/
def Enterable (p : Path) (n : Node) : Prop :=
  ∀ way entries access, n.Reveals way (.directory entries access) → isTooLong (p.below way) = false

theorem enterable_iff : Enterable p n ↔ ∀ e ∈ n.revealed, ¬ Inspection.isClosed p e := by
  refine ⟨?_, ?_⟩
  · intro h e he hclosed
    obtain ⟨way, k⟩ := e
    obtain ⟨hk, hlong⟩ := Bool.and_eq_true_iff.mp hclosed
    obtain ⟨found, hfound, rfl⟩ := Node.mem_revealed.mp he
    cases found with
    | file bytes access => exact absurd hk Bool.false_ne_true
    | directory entries access =>
      rw [h way entries access hfound] at hlong
      cases hlong
  · intro h way entries access hfound
    have hopen := h (way, .directory) (Node.mem_revealed.mpr ⟨_, hfound, rfl⟩)
    simpa [Inspection.isClosed] using hopen

/-- What is made of a search below a node is made of what it reveals, if it comes to its end. -/
theorem outcome_descendants_bind_eq_ok {α : Type} (hp : disk.find p = .ok n)
    {f : List (List String × Kind) → Inspection α} {a : α} :
    ((Inspection.descendants p).bind f).outcome disk = .ok a ↔
      Enterable p n ∧ (f n.revealed).outcome disk = .ok a := by
  have hbelow : disk.below p = n.revealed := by rw [below, hp]
  rw [Inspection.outcome_bind_eq_ok, enterable_iff]
  simp only [Inspection.outcome_descendants_eq_ok, hbelow]
  refine ⟨?_, ?_⟩
  · intro hparts
    obtain ⟨_, ⟨hopen, rfl⟩, ha⟩ := hparts
    exact ⟨hopen, ha⟩
  · intro hparts
    obtain ⟨hopen, ha⟩ := hparts
    exact ⟨_, ⟨hopen, rfl⟩, ha⟩

end Disk

end DependencyAudit
