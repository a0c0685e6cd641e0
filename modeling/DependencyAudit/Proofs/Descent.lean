import DependencyAudit.Proofs.Entries
import DependencyAudit.Proofs.OrderIndependence

/-!
The index as a recursion over the trees. Reading a tree from its root downwards, the sources of a
node are added first, then the trees below it are read in their order; a node whose identity was
met before is passed over with everything below it, wherever that was (`descend`).

The visit does the same with a stack, on which the trees that are still to be read wait. Whatever
waits below a tree on the stack, the visit comes to it with the nodes of that tree behind it and
their identities known (`visitFrom_cons`).

Main statements: filling an index from a stack is the same inspection as the recursion, and what
it comes to can be told from the recursion's list of nodes (`build_eq_descent`). And where nodes
of one identity agree, passing over repeated nodes loses no provider (`providers_of_uniform`).
-/

namespace DependencyAudit

namespace Dependency

mutual

/-- The nodes of a tree that are met from its root downwards, when nodes of the given identities
were met before, and the identities met after that. -/
def preorder (met : List String) : Dependency → List Dependency × List String
  | ⟨sources, children, coordinate, projectPath⟩ =>
    let d : Dependency := ⟨sources, children, coordinate, projectPath⟩
    if met.contains d.identity then ([], met)
    else
      let below := preorderAll (d.identity :: met) children
      (d :: below.1, below.2)

/-- The nodes of trees that are met one tree after the other, and the identities met after that. -/
def preorderAll (met : List String) : List Dependency → List Dependency × List String
  | [] => ([], met)
  | d :: ds =>
    let first := preorder met d
    let others := preorderAll first.2 ds
    (first.1 ++ others.1, others.2)

end

theorem preorder_of_met {met : List String} {d : Dependency} (h : d.identity ∈ met) :
    preorder met d = ([], met) := by
  cases d
  rw [preorder, if_pos (List.contains_iff_mem.mpr h)]

theorem preorder_of_new {met : List String} {d : Dependency} (h : d.identity ∉ met) :
    preorder met d =
      (d :: (preorderAll (d.identity :: met) d.children).1,
        (preorderAll (d.identity :: met) d.children).2) := by
  cases d
  rw [preorder, if_neg fun hc => h (List.contains_iff_mem.mp hc)]

/-! ## The visit with a stack -/

mutual

/-- Whatever waits on the stack below a tree, the visit comes to it after the nodes of the tree. -/
theorem visitFrom_cons (met : List String) (rest : List Dependency) : ∀ d : Dependency,
    visitFrom met (d :: rest) = (preorder met d).1 ++ visitFrom (preorder met d).2 rest
  | ⟨sources, children, coordinate, projectPath⟩ => by
    have ih := fun known => visitFrom_append known rest children
    generalize hd : (⟨sources, children, coordinate, projectPath⟩ : Dependency) = d
    have hchildren : d.children = children := by rw [← hd]
    by_cases h : d.identity ∈ met
    · rw [visitFrom_of_visited h, preorder_of_met h, List.nil_append]
    · rw [visitFrom_of_new h, preorder_of_new h, hchildren, ih, List.cons_append]

theorem visitFrom_append (met : List String) (rest : List Dependency) : ∀ ds : List Dependency,
    visitFrom met (ds ++ rest) = (preorderAll met ds).1 ++ visitFrom (preorderAll met ds).2 rest
  | [] => by rw [preorderAll, List.nil_append, List.nil_append]
  | d :: ds => by
    have hfirst := visitFrom_cons met (ds ++ rest) d
    have hothers := visitFrom_append (preorder met d).2 rest ds
    rw [preorderAll, List.cons_append, hfirst, hothers, List.append_assoc]

end

theorem visit_eq_preorderAll (roots : List Dependency) :
    visit roots = (preorderAll [] roots).1 := by
  have h := visitFrom_append [] [] roots
  have hend : ∀ met, visitFrom met [] = [] := fun met => by rw [visitFrom]
  rwa [List.append_nil, hend, List.append_nil] at h

end Dependency

namespace ClassIndex

open Dependency Inspection Written

variable {disk : Disk}

mutual

/-- Adds the sources of a node and then, tree by tree, what stands below it. A node whose identity
was met before is passed over with everything below it. -/
def descend (met : List String) (index : ClassIndex) :
    Dependency → Inspection (List String × ClassIndex)
  | ⟨sources, children, coordinate, projectPath⟩ =>
    let d : Dependency := ⟨sources, children, coordinate, projectPath⟩
    if met.contains d.identity then return (met, index)
    else do
      let filled ← index.addSources sources
      descendAll (d.identity :: met) filled children

/-- Adds what stands in trees, one tree after the other. -/
def descendAll (met : List String) (index : ClassIndex) :
    List Dependency → Inspection (List String × ClassIndex)
  | [] => return (met, index)
  | d :: ds => do
    let first ← descend met index d
    descendAll first.1 first.2 ds

end

/-- The index of dependency trees, filled by reading each from its root downwards. -/
def buildByDescent (roots : List Dependency) : Inspection ClassIndex := do
  let filled ← descendAll [] {} roots
  Inspection.log (.indexBuilt filled.2.size filled.2.added.length)
  return filled.2

/-! ## The recursion adds the sources of the nodes it meets -/

theorem addSources_append (xs ys : List Source) : ∀ index : ClassIndex,
    index.addSources (xs ++ ys) =
      (index.addSources xs).bind fun filled => filled.addSources ys := by
  induction xs with
  | nil => intro index; rfl
  | cons s xs ih =>
    intro index
    calc index.addSources (s :: xs ++ ys)
        = (index.addSource s).bind fun next => next.addSources (xs ++ ys) := rfl
      _ = (index.addSource s).bind fun next =>
            (next.addSources xs).bind fun filled => filled.addSources ys := by simp only [ih]
      _ = (index.addSources (s :: xs)).bind fun filled => filled.addSources ys :=
            (bind_assoc _ _ _).symm

mutual

theorem descend_eq (met : List String) (index : ClassIndex) : ∀ d : Dependency,
    descend met index d =
      (index.addSources ((preorder met d).1.flatMap sources)).bind fun filled =>
        done ((preorder met d).2, filled)
  | ⟨sources, children, coordinate, projectPath⟩ => by
    have ih := fun known filled => descendAll_eq known filled children
    rw [descend, preorder]
    split
    · rfl
    · simp only [bind_eq, ih, List.flatMap_cons, addSources_append, bind_assoc]

theorem descendAll_eq (met : List String) (index : ClassIndex) : ∀ ds : List Dependency,
    descendAll met index ds =
      (index.addSources ((preorderAll met ds).1.flatMap sources)).bind fun filled =>
        done ((preorderAll met ds).2, filled)
  | [] => rfl
  | d :: ds => by
    have hfirst := descend_eq met index d
    have hothers := fun known filled => descendAll_eq known filled ds
    rw [descendAll, preorderAll, hfirst]
    simp only [bind_eq, bind_assoc, hothers, List.flatMap_append, addSources_append]
    rfl

end

theorem build_eq_buildByDescent (roots : List Dependency) :
    build roots = buildByDescent roots := by
  unfold build buildByDescent
  rw [descendAll_eq, visit_eq_preorderAll]
  simp only [bind_eq, bind_assoc]
  rfl

/-! ## What filling an index comes to -/

/-- The supplies that hold a class come from the sources that provide it. -/
theorem suppliersOf_eq {sources : List Source} {supplies : List Supply}
    (h : SuppliedBy disk sources supplies) (name : String) :
    suppliersOf name supplies =
      (sources.filter fun s => s.Provides disk name).map Source.artifact := by
  induction h with
  | nil => rfl
  | @cons s u sources supplies hu _ ih =>
    have hmem : name ∈ u.classes ↔ s.Provides disk name := Source.mem_supply_iff hu
    have hartifact := Source.artifact_of_supply hu
    unfold suppliersOf at ih ⊢
    by_cases hprov : s.Provides disk name
    · have hu' : name ∈ u.classes := hmem.mpr hprov
      simp only [List.filter_cons, hu', hprov, decide_true, if_true, List.map_cons, hartifact, ih]
    · have hu' : name ∉ u.classes := fun hc => hprov (hmem.mp hc)
      simp only [List.filter_cons, hu', hprov, decide_false, Bool.false_eq_true, if_false, ih]

/-- Adding sources stops at the first of them whose supply fails. -/
theorem failure?_addSources : ∀ (sources : List Source) (index : ClassIndex),
    failure? ((index.addSources sources).outcome disk) =
      sources.findSome? fun s => failure? (s.supply.outcome disk)
  | [], _ => rfl
  | s :: sources, index => by
    have ih := failure?_addSources sources
    have hstep : index.addSources (s :: sources) =
        s.supply.bind fun u => (index.add u).addSources sources :=
      Inspection.bind_assoc _ _ _
    rw [hstep, outcome_bind, List.findSome?_cons]
    cases hs : s.supply.outcome disk with
    | error e => rfl
    | ok u => exact ih _

theorem outcome_build_eq_error_iff {roots : List Dependency} {e : Failure} :
    (build roots).outcome disk = .error e ↔
      ∃ before s after, visitedSources roots = before ++ s :: after ∧
        (∀ t ∈ before, t.Listable disk) ∧ s.supply.outcome disk = .error e := by
  have hbuild : (build roots).outcome disk = .error e ↔
      failure? ((addSources {} (visitedSources roots)).outcome disk) = some e := by
    unfold build visitedSources
    rw [failure?_eq_some, bind_eq, outcome_bind]
    cases (addSources {} ((visit roots).flatMap Dependency.sources)).outcome disk <;> rfl
  rw [hbuild, failure?_addSources, List.findSome?_eq_some_iff]
  simp only [failure?_eq_some, failure?_eq_none, Source.supply_succeeds_iff]
  refine ⟨?_, ?_⟩
  · intro hparts
    obtain ⟨before, s, after, hsources, he, hbefore⟩ := hparts
    exact ⟨before, s, after, hsources, hbefore, he⟩
  · intro hparts
    obtain ⟨before, s, after, hsources, hbefore, he⟩ := hparts
    exact ⟨before, s, after, hsources, he, hbefore⟩

theorem providers_of_build {roots : List Dependency} {index : ClassIndex}
    (h : (build roots).outcome disk = .ok index) (name : String) :
    index.providers name =
      (((visitedSources roots).filter fun s => s.Provides disk name).map
        Source.artifact).eraseDups := by
  obtain ⟨supplies, hs, rfl⟩ := outcome_build_iff.mp h
  rw [providers_foldl_add name supplies {} List.nodup_nil, suppliersOf_eq hs]
  rfl

/-- The sources of the nodes that the recursion meets, in the order in which it meets them. -/
def descentSources (roots : List Dependency) : List Source :=
  (preorderAll [] roots).1.flatMap Dependency.sources

theorem visitedSources_eq (roots : List Dependency) :
    visitedSources roots = descentSources roots := by
  rw [visitedSources, descentSources, visit_eq_preorderAll]

theorem build_eq_descent (roots : List Dependency) :
    build roots = buildByDescent roots ∧ ∀ disk : Disk,
      (∀ index, (build roots).outcome disk = .ok index → ∀ name, index.providers name =
        (((descentSources roots).filter fun s => s.Provides disk name).map
          Source.artifact).eraseDups) ∧
      ∀ e, (build roots).outcome disk = .error e ↔
        ∃ before s after, descentSources roots = before ++ s :: after ∧
          (∀ t ∈ before, t.Listable disk) ∧ s.supply.outcome disk = .error e := by
  refine ⟨build_eq_buildByDescent roots, fun disk => ?_⟩
  rw [← visitedSources_eq]
  exact ⟨fun index h name => providers_of_build h name, fun e => outcome_build_eq_error_iff⟩

/-! ## A node that is met a second time

`b` is met below `a`, so the root `b` is passed over, with the class that only it names and with
`c` below it. The classes of `e` lie in a directory, or something else lies in its place. -/

/-- The trees of `a`, of the second `b`, and of `e`. -/
def repeatedTrees : List Dependency :=
  [moduleNode ⟨"g", "a", "1"⟩ ["a.A"] [moduleNode ⟨"g", "b", "1"⟩ ["b.B"] []],
    moduleNode ⟨"g", "b", "1"⟩ ["b.B", "b.New"] [moduleNode ⟨"g", "c", "1"⟩ ["c.C"] []],
    directoryNode ⟨"g", "e", "1"⟩]

def repeatedIndex : ClassIndex where
  table := [("a.A", [.external ⟨"g", "a", "1"⟩ none]), ("b.B", [.external ⟨"g", "b", "1"⟩ none]),
    ("e.E", [.external ⟨"g", "e", "1"⟩ none])]
  added := [.external ⟨"g", "a", "1"⟩ none, .external ⟨"g", "b", "1"⟩ none,
    .external ⟨"g", "e", "1"⟩ none]

/-- A disk with the classes of `e`, or with something else in their place. -/
def outDisk (out : Node) : Disk where
  root := .directory [("out", out)]

theorem repeated_node_passed_over :
    (build repeatedTrees).outcome
        (outDisk (.directory [("e", .directory [("E.class", .file [])])])) = .ok repeatedIndex ∧
      repeatedIndex.providers "b.B" = [.external ⟨"g", "b", "1"⟩ none] ∧
      repeatedIndex.providers "c.C" = [] ∧
      (build repeatedTrees).outcome (outDisk (.file [])) = .error (.archive .noEndRecord) := by
  obtain ⟨_, hdisk⟩ := build_eq_descent repeatedTrees
  have hbuilt : (build repeatedTrees).outcome
      (outDisk (.directory [("e", .directory [("E.class", .file [])])])) = .ok repeatedIndex := by
    decide +kernel
  have hproviders := (hdisk _).1 _ hbuilt
  refine ⟨hbuilt, ?_, ?_, ?_⟩
  · rw [hproviders]
    decide +kernel
  · rw [hproviders]
    decide +kernel
  · -- the sources of `a` and of the first `b` can be listed, that of `e` cannot
    refine ((hdisk _).2 _).mpr ⟨[⟨.external ⟨"g", "a", "1"⟩ none, none, ["a.A"]⟩,
      ⟨.external ⟨"g", "b", "1"⟩ none, none, ["b.B"]⟩], directorySource ⟨"g", "e", "1"⟩, [], ?_⟩
    exact ⟨by decide +kernel, by decide +kernel, failure?_eq_some.mp (by decide +kernel)⟩

/-! ## Repeated nodes that agree -/

/-- Every node at any depth is indexed with what it provides, though another node of its identity
may have been visited in its place. -/
theorem providers_of_uniform {roots : List Dependency} (huniform : Uniform roots)
    (hlist : Audit.AllListable disk roots) :
    ∃ index, (build roots).outcome disk = .ok index ∧ ∀ name a, a ∈ index.providers name ↔
      ∃ d, Occurs roots d ∧ ∃ s ∈ d.sources, s.artifact = a ∧ s.Provides disk name := by
  obtain ⟨index, hindex⟩ :=
    build_succeeds_iff.mpr fun d hd => hlist d (occurs_of_mem_visit hd)
  refine ⟨index, hindex, fun name a => (mem_providers_of_build hindex).trans ⟨?_, ?_⟩⟩
  · intro hvisited
    obtain ⟨v, hv, hprov⟩ := hvisited
    exact ⟨v, occurs_of_mem_visit hv, hprov⟩
  · intro hoccurs
    obtain ⟨d, hd, s, hs, rfl, hprov⟩ := hoccurs
    -- the visited node of this identity lists the same source
    obtain ⟨v, hv, t, ht, hsame⟩ :=
      huniform.source_visited (fun _ h => h) (fun r hr => ⟨r, hr, rfl⟩) hd hs
    have hlisting : s.SameListing disk disk := fun p _ => ⟨Iff.rfl, fun _ => Iff.rfl⟩
    exact ⟨v, hv, t, ht, hsame.artifact.symm, hsame.provides hlisting hprov⟩

/-- The diamond's `d` is visited below `a`. What the `d` below `b` lists is indexed all the same,
and so are the classes of `e`, which lie in a directory. -/
theorem diamond_indexed :
    Uniform (Audit.diamondResolution.selected Audit.diamondConfig.buckets) ∧
      ∃ index, (build (Audit.diamondResolution.selected Audit.diamondConfig.buckets)).outcome
          (Audit.diamondDisk Audit.diamondReport []) = .ok index ∧
        Audit.diamondTests ∈ index.providers "d.Y" ∧
        .external ⟨"g", "e", "1"⟩ none ∈ index.providers "e.E" := by
  have huniform : Uniform (Audit.diamondResolution.selected Audit.diamondConfig.buckets) := by
    decide +kernel
  have hlist : Audit.AllListable (Audit.diamondDisk Audit.diamondReport [])
      (Audit.diamondResolution.selected Audit.diamondConfig.buckets) := by decide +kernel
  obtain ⟨index, hindex, hproviders⟩ := providers_of_uniform huniform hlist
  refine ⟨huniform, index, hindex, (hproviders _ _).mpr ⟨Audit.diamondNode
    [⟨Audit.diamondTests, none, ["d.Y", "d.X"]⟩,
      ⟨.external ⟨"g", "d", "1"⟩ none, none, ["d.D"]⟩], ?_, ?_⟩,
    (hproviders _ _).mpr ⟨directoryNode ⟨"g", "e", "1"⟩, ?_, ?_⟩⟩
  · exact mem_nodesAll.mp (by decide +kernel)
  · exact ⟨_, List.mem_cons_self, rfl, Or.inl List.mem_cons_self⟩
  · exact mem_nodesAll.mp (by decide +kernel)
  · -- the directory is listed, and the class comes from there
    have hlists : (Audit.diamondDisk Audit.diamondReport []).Lists ⟨.root, ["out"]⟩ ["e.E"] := by
      unfold Disk.Lists
      decide +kernel
    exact ⟨_, List.mem_cons_self, rfl, Or.inr ⟨_, _, rfl, hlists, List.mem_cons_self⟩⟩

end ClassIndex

end DependencyAudit
