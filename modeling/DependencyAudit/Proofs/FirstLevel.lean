import DependencyAudit.Proofs.Equality
import DependencyAudit.Proofs.Selection
import DependencyAudit.Proofs.Written
import Mathlib.Data.List.Induction

/-!
Which nodes a selection of buckets gives. The selection goes through its buckets with the
identities it has seen; what it keeps is the same as if every place were looked at on its own:
the node there is kept exactly if no node of its identity stands in front of it
(`firstOfEach_eq_firstNodes`).

The identities seen matter only as a set (`firstOfEach_congr`), and those of a first part of the
nodes are the identities that were kept of it. So what a second part adds to it can be told from
what each part gives alone (`firstOfEach_append_eq`).

Main statement: `first_nodes_selected`.
-/

namespace DependencyAudit.Resolution

open Dependency Written

variable {r : Resolution} {buckets : Option (List String)} {kept : List Dependency}
  {seen : List String} {d : Dependency}

/-! ## Going through the nodes -/

theorem firstOfEach_of_seen (h : d.identity ∈ seen) (ds : List Dependency) :
    firstOfEach seen (d :: ds) = firstOfEach seen ds := by
  rw [firstOfEach, if_pos (List.contains_iff_mem.mpr h)]

theorem firstOfEach_of_new (h : d.identity ∉ seen) (ds : List Dependency) :
    firstOfEach seen (d :: ds) = d :: firstOfEach (d.identity :: seen) ds := by
  rw [firstOfEach, if_neg fun hc => h (List.contains_iff_mem.mp hc)]

/-- Only which identities were seen counts. -/
theorem firstOfEach_congr (ds : List Dependency) {seen seen' : List String}
    (h : ∀ name, name ∈ seen ↔ name ∈ seen') : firstOfEach seen ds = firstOfEach seen' ds := by
  induction ds generalizing seen seen' with
  | nil => rfl
  | cons d ds ih =>
    by_cases hd : d.identity ∈ seen
    · rw [firstOfEach_of_seen hd, firstOfEach_of_seen ((h _).mp hd)]
      exact ih h
    · rw [firstOfEach_of_new hd, firstOfEach_of_new (mt (h _).mpr hd)]
      have hmore : ∀ name, name ∈ d.identity :: seen ↔ name ∈ d.identity :: seen' := by
        intro name
        rw [List.mem_cons, List.mem_cons, h]
      rw [ih hmore]

/-- Behind the first part of the nodes all its identities count as seen. -/
theorem firstOfEach_append (seen : List String) (xs ys : List Dependency) :
    firstOfEach seen (xs ++ ys) =
      firstOfEach seen xs ++ firstOfEach (xs.map identity ++ seen) ys := by
  induction xs generalizing seen with
  | nil => rfl
  | cons d xs ih =>
    rw [List.cons_append]
    by_cases hd : d.identity ∈ seen
    · rw [firstOfEach_of_seen hd, firstOfEach_of_seen hd, ih]
      congr 1
      refine firstOfEach_congr ys fun name => ?_
      simp only [List.map_cons, List.cons_append, List.mem_cons, List.mem_append]
      refine ⟨Or.inr, ?_⟩
      rintro (rfl | hname)
      · exact Or.inr hd
      · exact hname
    · rw [firstOfEach_of_new hd, firstOfEach_of_new hd, ih, List.cons_append]
      congr 2
      refine firstOfEach_congr ys fun name => ?_
      simp only [List.map_cons, List.cons_append, List.mem_cons, List.mem_append]
      exact or_left_comm

/-- What was seen before is left out of what would be kept without it. -/
theorem firstOfEach_append_seen (before seen : List String) (ds : List Dependency) :
    firstOfEach (before ++ seen) ds =
      (firstOfEach seen ds).filter fun d => d.identity ∉ before := by
  induction ds generalizing seen with
  | nil => rfl
  | cons d ds ih =>
    have hmove : ∀ name,
        name ∈ before ++ d.identity :: seen ↔ name ∈ d.identity :: (before ++ seen) := by
      intro name
      simp only [List.mem_cons, List.mem_append]
      exact or_left_comm
    by_cases hseen : d.identity ∈ seen
    · rw [firstOfEach_of_seen hseen, firstOfEach_of_seen (List.mem_append_right _ hseen), ih]
    · rw [firstOfEach_of_new hseen]
      by_cases hbefore : d.identity ∈ before
      · rw [firstOfEach_of_seen (List.mem_append_left _ hbefore),
          List.filter_cons_of_neg (by simpa using hbefore), ← ih, firstOfEach_congr ds hmove]
        refine firstOfEach_congr ds fun name => ?_
        rw [List.mem_cons]
        exact ⟨Or.inr, fun h => h.elim (· ▸ List.mem_append_left _ hbefore) id⟩
      · have hnew : d.identity ∉ before ++ seen := by
          rw [List.mem_append]
          exact not_or.mpr ⟨hbefore, hseen⟩
        rw [firstOfEach_of_new hnew, List.filter_cons_of_pos (by simpa using hbefore), ← ih,
          firstOfEach_congr ds hmove]

/-- The identities that are kept are all there are. -/
theorem mem_identities_firstOfEach {ds : List Dependency} {name : String} :
    name ∈ (firstOfEach [] ds).map identity ↔ name ∈ ds.map identity := by
  simp only [List.mem_map]
  refine ⟨?_, ?_⟩
  · rintro ⟨k, hk, rfl⟩
    exact ⟨k, mem_of_mem_firstOfEach hk, rfl⟩
  · rintro ⟨d, hd, rfl⟩
    exact (kept_or_seen hd).resolve_left List.not_mem_nil

/-- A second part adds those of its nodes whose identities the first part does not have. -/
theorem firstOfEach_append_eq (xs ys : List Dependency) :
    firstOfEach [] (xs ++ ys) = firstOfEach [] xs ++
      (firstOfEach [] ys).filter fun d => d.identity ∉ (firstOfEach [] xs).map identity := by
  rw [firstOfEach_append, ← firstOfEach_append_seen]
  congr 1
  refine firstOfEach_congr ys fun name => ?_
  rw [List.append_nil, List.append_nil, mem_identities_firstOfEach]

/-! ## Looking at every place on its own -/

/-- The nodes that have no node of their identity in front of them, in their order. -/
def firstNodes (ds : List Dependency) : List Dependency :=
  (ds.zipIdx.filter fun place => (ds.take place.2).all fun e => e.identity ≠ place.1.identity).map
    Prod.fst

theorem firstNodes_concat (ds : List Dependency) (d : Dependency) :
    firstNodes (ds ++ [d]) =
      firstNodes ds ++ if d.identity ∈ ds.map identity then [] else [d] := by
  have hplaces : (ds ++ [d]).zipIdx = ds.zipIdx ++ [(d, ds.length)] := by
    simp [List.zipIdx_append]
  have hfront : ∀ place ∈ ds.zipIdx, (ds ++ [d]).take place.2 = ds.take place.2 := by
    intro place hplace
    have hlt := List.snd_lt_of_mem_zipIdx hplace
    exact List.take_append_of_le_length (by omega)
  have hlast : (ds ++ [d]).take ds.length = ds := List.take_left
  rw [firstNodes, hplaces, List.filter_append, List.map_append]
  congr 1
  · refine congrArg (List.map Prod.fst) (List.filter_congr ?_)
    intro place hplace
    rw [hfront place hplace]
  · rw [List.filter_cons, hlast]
    by_cases h : d.identity ∈ ds.map identity
    · obtain ⟨e, he, hid⟩ := List.mem_map.mp h
      rw [if_pos h, if_neg]
      · rfl
      · simpa using ⟨e, he, hid⟩
    · rw [if_neg h, if_pos]
      · rfl
      · simpa using h

theorem firstOfEach_eq_firstNodes (ds : List Dependency) : firstOfEach [] ds = firstNodes ds := by
  induction ds using List.reverseRecOn with
  | nil => rfl
  | append_singleton ds d ih =>
    rw [firstOfEach_append, firstNodes_concat, ih, List.append_nil]
    congr 1
    split
    · rename_i hseen
      rw [firstOfEach_of_seen hseen]
      rfl
    · rename_i hnew
      rw [firstOfEach_of_new hnew]
      rfl

/-! ## Selections of buckets -/

theorem firstLevel_eq_firstNodes_iff :
    r.firstLevel buckets = .ok kept ↔
      (∀ name ∈ r.selection buckets, name ∈ r.bucketNames) ∧
        kept = firstNodes (r.selected buckets) := by
  rw [firstLevel_eq_ok_iff, firstOfEach_eq_firstNodes]

theorem firstLevel_eq_error_iff {f : Failure} :
    r.firstLevel buckets = .error f ↔
      (∃ name ∈ r.selection buckets, name ∉ r.bucketNames) ∧
        f = .report (.unknownBuckets
          ((r.selection buckets).filter fun name => !r.bucketNames.contains name)
          r.bucketNames) := by
  have hunknown : ((r.selection buckets).filter fun name => !r.bucketNames.contains name) ≠ [] ↔
      ∃ name ∈ r.selection buckets, name ∉ r.bucketNames := by
    simp [List.filter_eq_nil_iff]
  rw [← hunknown]
  unfold firstLevel
  dsimp only
  split
  · rename_i hnone
    refine iff_of_false (fun h => nomatch h) ?_
    exact fun hparts => hparts.1 hnone
  · rename_i hsome
    refine ⟨?_, ?_⟩
    · intro h
      exact ⟨hsome, (Except.error.inj h).symm⟩
    · rintro ⟨_, rfl⟩
      rfl

theorem selected_append (r : Resolution) (xs ys : List String) :
    r.selected (some (xs ++ ys)) = r.selected (some xs) ++ r.selected (some ys) :=
  List.flatMap_append

theorem firstLevel_append_eq_ok_iff {xs ys : List String} :
    r.firstLevel (some (xs ++ ys)) = .ok kept ↔
      ∃ a b, r.firstLevel (some xs) = .ok a ∧ r.firstLevel (some ys) = .ok b ∧
        kept = a ++ b.filter fun d => d.identity ∉ a.map identity := by
  simp only [firstLevel_eq_ok_iff, selected_append, firstOfEach_append_eq]
  refine ⟨?_, ?_⟩
  · rintro ⟨hknown, rfl⟩
    obtain ⟨hxs, hys⟩ := List.forall_mem_append.mp hknown
    exact ⟨_, _, ⟨hxs, rfl⟩, ⟨hys, rfl⟩, rfl⟩
  · rintro ⟨_, _, ⟨hxs, rfl⟩, ⟨hys, rfl⟩, rfl⟩
    exact ⟨List.forall_mem_append.mpr ⟨hxs, hys⟩, rfl⟩

/-- A bucket that was gone through before gives nothing new. -/
theorem firstOfEach_append_of_mem {names : List String} {name : String} (h : name ∈ names) :
    firstOfEach [] (r.selected (some names) ++ r.selected (some [name])) =
      firstOfEach [] (r.selected (some names)) := by
  have hnothing : ((firstOfEach [] (r.selected (some [name]))).filter fun d =>
      d.identity ∉ (firstOfEach [] (r.selected (some names))).map identity) = [] := by
    rw [List.filter_eq_nil_iff]
    intro d hd
    obtain ⟨_, hname, htree⟩ := mem_selected.mp (mem_of_mem_firstOfEach hd)
    obtain rfl := List.mem_singleton.mp hname
    have hbefore : d ∈ r.selected (some names) := mem_selected.mpr ⟨_, h, htree⟩
    have hid := mem_identities_firstOfEach.mpr (List.mem_map_of_mem (f := identity) hbefore)
    simpa using hid
  rw [firstOfEach_append_eq, hnothing, List.append_nil]

theorem firstOfEach_selected_eraseDups (r : Resolution) (names : List String) :
    firstOfEach [] (r.selected (some names.eraseDups)) =
      firstOfEach [] (r.selected (some names)) := by
  induction names using List.reverseRecOn with
  | nil => rfl
  | append_singleton names name ih =>
    by_cases h : name ∈ names
    · have hdups : (names ++ [name]).eraseDups = names.eraseDups := by
        simp [List.eraseDups_append, List.removeAll, h]
      rw [hdups, ih, selected_append, firstOfEach_append_of_mem h]
    · have hdups : (names ++ [name]).eraseDups = names.eraseDups ++ [name] := by
        simp [List.eraseDups_append, List.removeAll, h, List.eraseDups_cons]
      rw [hdups, selected_append, selected_append, firstOfEach_append_eq, ih,
        ← firstOfEach_append_eq]

/-- Names that come again have no effect, whether or not all names are known. -/
theorem toOption_firstLevel_eraseDups (r : Resolution) (names : List String) :
    (r.firstLevel (some names.eraseDups)).toOption = (r.firstLevel (some names)).toOption := by
  have hok : ∀ (x : Except Failure (List Dependency)) kept,
      x.toOption = some kept ↔ x = .ok kept := by
    intro x kept
    cases x <;> simp [Except.toOption]
  apply Option.ext
  intro kept
  simp only [hok, firstLevel_eq_ok_iff, firstOfEach_selected_eraseDups, selection,
    Option.getD_some, List.mem_eraseDups]

theorem mem_identities_of_perm {xs ys : List String} (h : xs.Perm ys)
    (hkept : r.firstLevel (some xs) = .ok kept) :
    ∃ kept', r.firstLevel (some ys) = .ok kept' ∧
      ∀ name, name ∈ kept.map identity ↔ name ∈ kept'.map identity := by
  obtain ⟨hknown, rfl⟩ := firstLevel_eq_ok_iff.mp hkept
  have hknown' : ∀ name ∈ ys, name ∈ r.bucketNames :=
    fun name hname => hknown name (h.mem_iff.mpr hname)
  refine ⟨_, firstLevel_eq_ok_iff.mpr ⟨hknown', rfl⟩, ?_⟩
  intro name
  have htrees : (r.selected (some xs)).Perm (r.selected (some ys)) := h.flatMap_right r.bucket
  rw [mem_identities_firstOfEach, mem_identities_firstOfEach]
  exact (htrees.map identity).mem_iff

theorem bucket_of_mem (h : r.bucketNames.Nodup) {b : String × List Dependency}
    (hb : b ∈ r.buckets) : r.bucket b.1 = b.2 := by
  obtain ⟨before, after, hbuckets⟩ := List.append_of_mem hb
  have hlookup : r.buckets.lookup b.1 = some b.2 := by
    refine List.lookup_eq_some_iff.mpr ⟨before, after, hbuckets, ?_⟩
    intro other hother
    rw [bucketNames, hbuckets, List.map_append, List.map_cons] at h
    have hdisjoint := (List.nodup_append.mp h).2.2
    simpa [bne_iff_ne] using
      (hdisjoint other.1 (List.mem_map_of_mem hother) b.1 List.mem_cons_self).symm
  rw [bucket, hlookup, Option.getD_some]

/-- Buckets with names of their own are selected as they stand in the report. -/
theorem selected_none (h : r.bucketNames.Nodup) :
    r.selected none = r.buckets.flatMap Prod.snd := by
  show (r.buckets.map Prod.fst).flatMap r.bucket = r.buckets.flatMap Prod.snd
  rw [List.flatMap_map, List.flatMap_def, List.flatMap_def]
  exact congrArg List.flatten (List.map_congr_left fun b hb => bucket_of_mem h hb)

/-- For every resolution: a selection fails exactly if some name is not that of a bucket, and
otherwise gives the nodes of its buckets that have no node of their identity in front of them.
Therefore a second part of a selection adds to the first what it gives alone, without the
identities of the first; names that come again have no effect; no selection stands for all buckets
in the order of the report; and the order of the names does not matter to the identities. -/
theorem first_nodes_selected (r : Resolution) :
    (∀ buckets f, r.firstLevel buckets = .error f ↔
      (∃ name ∈ r.selection buckets, name ∉ r.bucketNames) ∧
        f = .report (.unknownBuckets
          ((r.selection buckets).filter fun name => !r.bucketNames.contains name)
          r.bucketNames)) ∧
    (∀ buckets kept, r.firstLevel buckets = .ok kept ↔
      (∀ name ∈ r.selection buckets, name ∈ r.bucketNames) ∧
        kept = firstNodes (r.selected buckets)) ∧
    (∀ xs ys kept, r.firstLevel (some (xs ++ ys)) = .ok kept ↔
      ∃ a b, r.firstLevel (some xs) = .ok a ∧ r.firstLevel (some ys) = .ok b ∧
        kept = a ++ b.filter fun d => d.identity ∉ a.map identity) ∧
    (∀ names,
      (r.firstLevel (some names.eraseDups)).toOption = (r.firstLevel (some names)).toOption) ∧
    (r.firstLevel none = r.firstLevel (some r.bucketNames) ∧
      (r.bucketNames.Nodup →
        r.firstLevel none = .ok (firstNodes (r.buckets.flatMap Prod.snd)))) ∧
    ∀ xs ys, xs.Perm ys → ∀ kept, r.firstLevel (some xs) = .ok kept →
      ∃ kept', r.firstLevel (some ys) = .ok kept' ∧
        ∀ name, name ∈ kept.map identity ↔ name ∈ kept'.map identity := by
  refine ⟨?_, ?_, ?_, toOption_firstLevel_eraseDups r, ⟨rfl, ?_⟩, ?_⟩
  · exact fun _ _ => firstLevel_eq_error_iff
  · exact fun _ _ => firstLevel_eq_firstNodes_iff
  · exact fun _ _ _ => firstLevel_append_eq_ok_iff
  · intro hnames
    rw [firstLevel_eq_firstNodes_iff, selected_none hnames]
    exact ⟨fun _ hname => hname, rfl⟩
  · exact fun _ _ hperm _ => mem_identities_of_perm hperm

/-! ## Buckets that overlap -/

/-- A resolution with a bucket that has two nodes of one identity, and a bucket that repeats a node
of the other. -/
def overlappingResolution : Resolution where
  buckets := [
    ("main", [moduleNode ⟨"g", "a", "1"⟩ ["a.A"] [], moduleNode ⟨"g", "b", "1"⟩ [] [],
      moduleNode ⟨"g", "a", "1"⟩ [] []]),
    ("test", [moduleNode ⟨"g", "b", "1"⟩ ["b.B"] [],
      moduleNode ⟨"g", "c", "1"⟩ [] []])]

/-- The nodes of its first bucket that are kept. -/
def overlappingMain : List Dependency :=
  [moduleNode ⟨"g", "a", "1"⟩ ["a.A"] [], moduleNode ⟨"g", "b", "1"⟩ [] []]

/-- The nodes of its second bucket that are kept. -/
def overlappingTest : List Dependency :=
  [moduleNode ⟨"g", "b", "1"⟩ ["b.B"] [], moduleNode ⟨"g", "c", "1"⟩ [] []]

theorem overlapping_buckets_selected :
    overlappingResolution.bucketNames.Nodup ∧
    overlappingResolution.firstLevel none =
      .ok (firstNodes (overlappingResolution.buckets.flatMap Prod.snd)) ∧
    overlappingResolution.firstLevel (some ["main"]) = .ok overlappingMain ∧
    overlappingResolution.firstLevel (some ["test"]) = .ok overlappingTest ∧
    overlappingResolution.firstLevel (some ["main", "test"]) =
      .ok (overlappingMain ++ [moduleNode ⟨"g", "c", "1"⟩ [] []]) ∧
    ["main", "test"].Perm ["test", "main"] ∧
    ∃ kept, overlappingResolution.firstLevel (some ["test", "main"]) = .ok kept ∧
      ∀ name, name ∈ (overlappingMain ++ [moduleNode ⟨"g", "c", "1"⟩ [] []]).map identity ↔
        name ∈ kept.map identity := by
  obtain ⟨_, _, happend, _, ⟨_, hall⟩, hperm⟩ := first_nodes_selected overlappingResolution
  have hnames : overlappingResolution.bucketNames.Nodup := by decide
  have hmain : overlappingResolution.firstLevel (some ["main"]) = .ok overlappingMain := by
    decide
  have htest : overlappingResolution.firstLevel (some ["test"]) = .ok overlappingTest := by
    decide
  have hboth : overlappingResolution.firstLevel (some ["main", "test"]) =
      .ok (overlappingMain ++ [moduleNode ⟨"g", "c", "1"⟩ [] []]) :=
    (happend ["main"] ["test"] _).mpr ⟨_, _, hmain, htest, by decide⟩
  have hswap : ["main", "test"].Perm ["test", "main"] := .swap _ _ _
  exact ⟨hnames, hall hnames, hmain, htest, hboth, hswap, hperm _ _ hswap _ hboth⟩

end DependencyAudit.Resolution
