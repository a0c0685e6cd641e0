import DependencyAudit.Proofs.Descent

/-!
An index that is kept while operations change it in its place. An operation builds the index anew
from trees, adds a source, or adds one provider of a class; it may have to list files, and can
then fail. What it changed before it failed would stay changed (`Edit`), so that nothing is left
half-done has to be shown: a source is listed before the first of its classes is added, and a new
index is filled apart from the old one (`on_edit`).

Main statement: `kept_index_sound`. After any operations, some of which may have failed, each
class stands once in the index, with providers and without repetition; the providers are those
that the last build that succeeded and the successful operations after it supplied, in their
order; and an operation that fails leaves the index as it was.
-/

namespace DependencyAudit.ClassIndex

open Inspection Written

variable {disk : Disk} {index : ClassIndex} {name : String} {α β : Type}

/-! ## Changes in place -/

/-- A change to an index in its place. What was changed before a failure stays changed. -/
abbrev Edit (α : Type) := ExceptT Failure (StateM ClassIndex) α

namespace Edit

/-- What an edit comes to on an index, and the index that it leaves. -/
def on (e : Edit α) (index : ClassIndex) : Except Failure α × ClassIndex := e.run.run index

/-- Finds out what an inspection comes to on a disk. -/
def ask (disk : Disk) (x : Inspection α) : Edit α := ExceptT.mk (pure (x.outcome disk))

def addClass (name : String) (a : Artifact) : Edit Unit := modify fun index => index.addClass name a

def noteAdded (a : Artifact) : Edit Unit :=
  modify fun index => { index with added := appendNew a index.added }

/-- Adds a source, class by class. -/
def add (disk : Disk) (s : Source) : Edit Unit := do
  let supply ← ask disk s.supply
  supply.classes.forM fun name => addClass name supply.artifact
  noteAdded supply.artifact

/-- Fills a new index with the sources of trees, one after the other, and puts it in the place of
the old one. -/
def build (disk : Disk) (roots : List Dependency) : Edit Unit :=
  match ((visitedSources roots).forM (add disk)).on {} with
  | (.ok _, filled) => set filled
  | (.error f, _) => throw f

theorem on_bind (e : Edit α) (f : α → Edit β) (index : ClassIndex) :
    (e >>= f).on index =
      match e.on index with
      | (.ok a, next) => (f a).on next
      | (.error x, next) => (.error x, next) := by
  unfold on
  rw [ExceptT.run_bind, StateT.run_bind]
  rcases e.run.run index with ⟨x | a, next⟩ <;> rfl

theorem on_ask (disk : Disk) (x : Inspection α) (index : ClassIndex) :
    (ask disk x).on index = (x.outcome disk, index) := rfl

theorem on_addClasses (a : Artifact) : ∀ (names : List String) (index : ClassIndex),
    on (names.forM fun name => addClass name a) index =
      (.ok (), names.foldl (fun index name => index.addClass name a) index)
  | [], _ => rfl
  | name :: names, index => by
    have hfirst : (addClass name a).on index = (.ok (), index.addClass name a) := rfl
    have hloop : (name :: names).forM (fun name => addClass name a) =
      addClass name a >>= fun _ => names.forM fun name => addClass name a := rfl
    rw [hloop, on_bind, hfirst]
    exact on_addClasses a names _

/-- A source that cannot be listed is found out before anything is changed. -/
theorem on_add (disk : Disk) (s : Source) (index : ClassIndex) :
    (add disk s).on index =
      match (index.addSource s).outcome disk with
      | .ok next => (.ok (), next)
      | .error f => (.error f, index) := by
  unfold add addSource
  rw [on_bind, on_ask, bind_eq, outcome_bind]
  cases s.supply.outcome disk with
  | error f => rfl
  | ok supply =>
    dsimp only
    rw [on_bind, on_addClasses]
    rfl

/-- Sources added one after the other; those before one that fails stay added. -/
theorem exists_on_addAll (disk : Disk) : ∀ (sources : List Source) (index : ClassIndex),
    ∃ left, on (sources.forM (add disk)) index =
      match (index.addSources sources).outcome disk with
      | .ok next => (.ok (), next)
      | .error f => (.error f, left)
  | [], index => ⟨index, rfl⟩
  | s :: sources, index => by
    have hloop : (s :: sources).forM (add disk) = add disk s >>= fun _ => sources.forM (add disk) :=
      rfl
    rw [hloop, on_bind, on_add]
    unfold addSources
    rw [bind_eq, outcome_bind]
    cases (index.addSource s).outcome disk with
    | error f => exact ⟨index, rfl⟩
    | ok next => exact exists_on_addAll disk sources next

end Edit

/-! ## Operations -/

/-- Adding an element that may be there, and keeping first places only. -/
theorem appendNew_eraseDups (a : Artifact) (l : List Artifact) :
    appendNew a l.eraseDups = (l ++ [a]).eraseDups := by
  rw [List.eraseDups_append]
  by_cases h : a ∈ l
  · rw [appendNew_of_mem (List.mem_eraseDups.mpr h)]
    simp [List.removeAll, h]
  · rw [appendNew_of_not_mem fun hc => h (List.mem_eraseDups.mp hc)]
    simp [List.removeAll, h, List.eraseDups_cons]

/-- An operation on an index that is kept. -/
inductive Operation where
  | build (roots : List Dependency)
  | add (s : Source)
  | addClass (name : String) (a : Artifact)

namespace Operation

/-- The index that an operation makes of another. -/
def perform (index : ClassIndex) : Operation → Inspection ClassIndex
  | build roots => ClassIndex.build roots
  | add s => index.addSource s
  | addClass name a => return index.addClass name a

/-- The operation carried out on an index in its place. -/
def edit (disk : Disk) : Operation → Edit Unit
  | build roots => Edit.build disk roots
  | add s => Edit.add disk s
  | addClass name a => Edit.addClass name a

/-- Every file that the operation has to list is absent or can be listed. -/
def Succeeds (disk : Disk) : Operation → Prop
  | build roots => ∀ s ∈ visitedSources roots, s.Listable disk
  | add s => s.Listable disk
  | addClass _ _ => True

/-- The artifacts for which the operation supplies a class, in their order. -/
def suppliers (disk : Disk) (name : String) : Operation → List Artifact
  | build roots => ((visitedSources roots).filter fun s => s.Provides disk name).map Source.artifact
  | add s => if s.Provides disk name then [s.artifact] else []
  | addClass other a => if other = name then [a] else []

/-- The operation makes a new index, whatever the old one is. -/
def startsAnew : Operation → Bool
  | build _ => true
  | _ => false

instance (disk : Disk) : (o : Operation) → Decidable (o.Succeeds disk)
  | build roots => inferInstanceAs (Decidable (∀ s ∈ visitedSources roots, s.Listable disk))
  | add s => inferInstanceAs (Decidable (s.Listable disk))
  | addClass _ _ => inferInstanceAs (Decidable True)

theorem succeeds_iff {o : Operation} :
    (∃ next, (o.perform index).outcome disk = .ok next) ↔ o.Succeeds disk := by
  cases o with
  | build roots =>
    rw [perform, build_succeeds_iff]
    exact List.forall_mem_flatMap.symm
  | add s =>
    rw [Succeeds, ← Source.supply_succeeds_iff]
    refine ⟨?_, ?_⟩
    · intro hparts
      obtain ⟨next, h⟩ := hparts
      obtain ⟨u, hu, _⟩ := outcome_bind_eq_ok.mp h
      exact ⟨u, hu⟩
    · intro hparts
      obtain ⟨u, hu⟩ := hparts
      exact ⟨index.add u, outcome_bind_of_ok hu _⟩
  | addClass other a => exact ⟨fun _ => trivial, fun _ => ⟨_, rfl⟩⟩

/-- The providers of a class after an operation that succeeds: it puts its suppliers behind those
before, or starts with them. -/
theorem providers_perform {o : Operation} {next : ClassIndex} {before : List Artifact}
    (hbefore : index.providers name = before.eraseDups)
    (hnext : (o.perform index).outcome disk = .ok next) :
    next.providers name =
      ((if o.startsAnew then [] else before) ++ o.suppliers disk name).eraseDups := by
  cases o with
  | build roots => exact providers_of_build hnext name
  | add s =>
    obtain ⟨u, hu, hadd⟩ := outcome_bind_eq_ok.mp hnext
    obtain rfl := Except.ok.inj hadd
    have hmem : name ∈ u.classes ↔ s.Provides disk name := Source.mem_supply_iff hu
    rw [providers_add, Source.artifact_of_supply hu, hbefore]
    by_cases hprov : s.Provides disk name
    · rw [if_pos (hmem.mpr hprov), suppliers, if_pos hprov, appendNew_eraseDups]
      rfl
    · rw [if_neg fun hc => hprov (hmem.mp hc), suppliers, if_neg hprov, List.append_nil]
      rfl
  | addClass other a =>
    obtain rfl := Except.ok.inj hnext
    rw [providers_addClass, hbefore]
    by_cases h : name = other
    · rw [if_pos h, suppliers, if_pos h.symm, appendNew_eraseDups]
      rfl
    · rw [if_neg h, suppliers, if_neg (Ne.symm h), List.append_nil]
      rfl

/-- An operation in place leaves what it makes of the index, or the index as it was. -/
theorem on_edit (disk : Disk) (index : ClassIndex) (o : Operation) :
    (o.edit disk).on index =
      match (o.perform index).outcome disk with
      | .ok next => (.ok (), next)
      | .error f => (.error f, index) := by
  cases o with
  | build roots =>
    obtain ⟨left, hleft⟩ := Edit.exists_on_addAll disk (visitedSources roots) {}
    have hbuild : (ClassIndex.build roots).outcome disk =
        (addSources {} (visitedSources roots)).outcome disk := by
      rw [ClassIndex.build, bind_eq, outcome_bind, visitedSources]
      cases (addSources {} ((Dependency.visit roots).flatMap Dependency.sources)).outcome disk <;>
        rfl
    rw [edit, perform, hbuild, Edit.build, hleft]
    cases (addSources {} (visitedSources roots)).outcome disk <;> rfl
  | add s => exact Edit.on_add disk s index
  | addClass other a => rfl

end Operation

/-! ## The table of an index -/

/-- Each class stands once in the table, with providers, none of them twice. -/
structure Sound (index : ClassIndex) : Prop where
  classes : (index.table.map Prod.fst).Nodup
  provided : ∀ entry ∈ index.table, entry.2 ≠ [] ∧ entry.2.Nodup

theorem mem_names_addProvider {other : String} {a : Artifact} :
    ∀ {table : List (String × List Artifact)},
      other ∈ (addProvider name a table).map Prod.fst ↔ other = name ∨ other ∈ table.map Prod.fst
  | [] => by simp [addProvider]
  | (key, providers) :: table => by
    have ih := @mem_names_addProvider other a table
    simp only [addProvider]
    split
    · rename_i h
      simp [h]
    · simp only [List.map_cons, List.mem_cons, ih]
      exact or_left_comm

theorem appendNew_ne_nil (a : Artifact) (l : List Artifact) : appendNew a l ≠ [] :=
  List.ne_nil_of_mem (mem_appendNew.mpr (Or.inr rfl))

theorem nodup_names_addProvider {a : Artifact} : ∀ {table : List (String × List Artifact)},
    (table.map Prod.fst).Nodup → ((addProvider name a table).map Prod.fst).Nodup
  | [], _ => List.nodup_singleton _
  | (key, providers) :: table, h => by
    obtain ⟨hkey, hrest⟩ := List.nodup_cons.mp h
    simp only [addProvider]
    split
    · exact h
    · rename_i hne
      refine List.nodup_cons.mpr ⟨?_, nodup_names_addProvider hrest⟩
      rw [mem_names_addProvider]
      exact not_or.mpr ⟨hne, hkey⟩

theorem provided_addProvider {a : Artifact} : ∀ {table : List (String × List Artifact)},
    (∀ entry ∈ table, entry.2 ≠ [] ∧ entry.2.Nodup) →
      ∀ entry ∈ addProvider name a table, entry.2 ≠ [] ∧ entry.2.Nodup
  | [], _, entry, hentry => by
    obtain rfl := List.mem_singleton.mp hentry
    exact ⟨List.cons_ne_nil _ _, List.nodup_singleton a⟩
  | (key, providers) :: table, h, entry, hentry => by
    obtain ⟨hfirst, hrest⟩ := List.forall_mem_cons.mp h
    simp only [addProvider] at hentry
    split at hentry
    · rcases List.mem_cons.mp hentry with rfl | hentry
      · exact ⟨appendNew_ne_nil a providers, nodup_appendNew a hfirst.2⟩
      · exact hrest entry hentry
    · rcases List.mem_cons.mp hentry with rfl | hentry
      · exact hfirst
      · exact provided_addProvider hrest entry hentry

namespace Sound

theorem empty : Sound {} := ⟨List.nodup_nil, fun _ h => absurd h List.not_mem_nil⟩

theorem addClass (h : Sound index) (name : String) (a : Artifact) : Sound (index.addClass name a) :=
  ⟨nodup_names_addProvider h.classes, provided_addProvider h.provided⟩

theorem add (h : Sound index) (u : Supply) : Sound (index.add u) := by
  have hfold : ∀ (names : List String) (index : ClassIndex), Sound index →
      Sound (names.foldl (fun index name => index.addClass name u.artifact) index) := by
    intro names
    induction names with
    | nil => exact fun _ h => h
    | cons name names ih => exact fun index h => ih _ (h.addClass name u.artifact)
  obtain ⟨hclasses, hprovided⟩ := hfold u.classes index h
  exact ⟨hclasses, hprovided⟩

theorem addAll : ∀ (supplies : List Supply) {index : ClassIndex}, Sound index →
    Sound (supplies.foldl ClassIndex.add index)
  | [], _, h => h
  | u :: supplies, _, h => addAll supplies (h.add u)

theorem perform (h : Sound index) {o : Operation} {next : ClassIndex}
    (hnext : (o.perform index).outcome disk = .ok next) : Sound next := by
  cases o with
  | build roots =>
    obtain ⟨supplies, _, rfl⟩ := outcome_build_iff.mp hnext
    exact addAll supplies empty
  | add s =>
    obtain ⟨u, _, hadd⟩ := outcome_bind_eq_ok.mp hnext
    obtain rfl := Except.ok.inj hadd
    exact h.add u
  | addClass name a =>
    obtain rfl := Except.ok.inj hnext
    exact h.addClass name a

theorem contains_iff (h : Sound index) : index.contains name ↔ index.providers name ≠ [] := by
  unfold contains providers
  cases hlookup : index.table.lookup name with
  | none => simp
  | some found =>
    obtain ⟨before, behind, htable, _⟩ := List.lookup_eq_some_iff.mp hlookup
    have hentry : (name, found) ∈ index.table := by
      rw [htable]
      exact List.mem_append_right _ List.mem_cons_self
    exact ⟨fun _ => (h.provided _ hentry).1, fun _ => rfl⟩

end Sound

theorem mem_names_iff : name ∈ index.table.map Prod.fst ↔ index.contains name := by
  rw [contains, List.lookup_isSome_iff, List.mem_map]
  simp only [beq_iff_eq, eq_comm (a := name)]

/-! ## Histories -/

/-- What happened to an index, each operation with the disk of its time. The last one stands
first. -/
abbrev History := List (Disk × Operation)

namespace History

/-- The index that is left, when it was empty at first. -/
def left : History → ClassIndex
  | [] => {}
  | (disk, o) :: earlier => ((o.edit disk).on (left earlier)).2

/-- The artifacts for which a class was supplied by the last build that succeeded and by the
successful operations after it, in their order. -/
def suppliers (name : String) : History → List Artifact
  | [] => []
  | (disk, o) :: earlier =>
    if o.Succeeds disk then
      (if o.startsAnew then [] else suppliers name earlier) ++ o.suppliers disk name
    else suppliers name earlier

variable {o : Operation} {earlier : History}

theorem left_of_succeeds (h : o.Succeeds disk) :
    (o.perform (left earlier)).outcome disk = .ok (left ((disk, o) :: earlier)) := by
  obtain ⟨next, hnext⟩ := Operation.succeeds_iff.mpr h
  rw [hnext, left, Operation.on_edit, hnext]

theorem left_of_fails (h : ¬ o.Succeeds disk) : left ((disk, o) :: earlier) = left earlier := by
  rw [left, Operation.on_edit]
  cases hnext : (o.perform (left earlier)).outcome disk with
  | ok next => exact absurd (Operation.succeeds_iff.mp ⟨next, hnext⟩) h
  | error f => rfl

theorem sound_left : ∀ history : History, Sound history.left
  | [] => .empty
  | (disk, o) :: earlier => by
    by_cases h : o.Succeeds disk
    · exact (sound_left earlier).perform (left_of_succeeds h)
    · rw [left_of_fails h]
      exact sound_left earlier

theorem providers_left (name : String) : ∀ history : History,
    history.left.providers name = (history.suppliers name).eraseDups
  | [] => rfl
  | (disk, o) :: earlier => by
    have ih := providers_left name earlier
    by_cases h : o.Succeeds disk
    · rw [suppliers, if_pos h]
      exact Operation.providers_perform ih (left_of_succeeds h)
    · rw [suppliers, if_neg h, left_of_fails h, ih]

end History

theorem kept_index_sound (history : History) :
    (∀ entry ∈ history.left.table, entry.2 ≠ [] ∧ entry.2.Nodup) ∧
    (∀ name, history.left.contains name ↔ history.left.providers name ≠ []) ∧
    (∃ classes : List String, classes.Nodup ∧ classes.length = history.left.size ∧
      ∀ name, name ∈ classes ↔ history.left.providers name ≠ []) ∧
    (∀ name, history.left.providers name = (history.suppliers name).eraseDups) ∧
    ∀ (disk : Disk) (o : Operation),
      (∀ next, (o.perform history.left).outcome disk = .ok next →
        (o.edit disk).on history.left = (.ok (), next)) ∧
      ∀ f, (o.perform history.left).outcome disk = .error f →
        (o.edit disk).on history.left = (.error f, history.left) := by
  have hsound := History.sound_left history
  refine ⟨hsound.provided, fun name => hsound.contains_iff,
    ⟨history.left.table.map Prod.fst, hsound.classes, List.length_map _, fun name => ?_⟩,
    fun name => History.providers_left name history, fun disk o => ⟨?_, ?_⟩⟩
  · rw [mem_names_iff, hsound.contains_iff]
  · intro next hnext
    rw [Operation.on_edit, hnext]
  · intro f hf
    rw [Operation.on_edit, hf]

/-! ## An index that outlives two failures

The index of `a` and `e` is kept. The directory of `e` is then replaced by a file that is no
archive, so that neither `e` can be added nor an index of it built; in between `b` is added. -/

def keptArtifact (name : String) : Artifact := .external ⟨"g", name, "1"⟩ none

def keptHistory : History :=
  [(outDisk (.file []), .build [directoryNode ⟨"g", "e", "1"⟩]),
    (outDisk (.file []), .add { artifact := keptArtifact "b", classes := ["b.B", "a.A"] }),
    (outDisk (.file []), .add (directorySource ⟨"g", "e", "1"⟩)),
    (outDisk (.file []), .addClass "b.B" (keptArtifact "b")),
    (outDisk (.directory [("e", .directory [("E.class", .file [])])]),
      .build [moduleNode ⟨"g", "a", "1"⟩ ["a.A"] [], directoryNode ⟨"g", "e", "1"⟩])]

theorem failures_leave_index :
    keptHistory.left.providers "a.A" = [keptArtifact "a", keptArtifact "b"] ∧
    keptHistory.left.providers "b.B" = [keptArtifact "b"] ∧
    keptHistory.left.contains "e.E" ∧
    ((Operation.add (directorySource ⟨"g", "e", "1"⟩)).edit (outDisk (.file []))).on
        keptHistory.left = (.error (.archive .noEndRecord), keptHistory.left) := by
  obtain ⟨_, hcontains, _, hproviders, hedit⟩ := kept_index_sound keptHistory
  refine ⟨?_, ?_, (hcontains _).mpr ?_, (hedit _ _).2 _ ?_⟩
  · rw [hproviders]
    decide +kernel
  · rw [hproviders]
    decide +kernel
  · rw [hproviders]
    decide +kernel
  · exact failure?_eq_some.mp (by decide +kernel)

end DependencyAudit.ClassIndex
