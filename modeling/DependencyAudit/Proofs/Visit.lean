import DependencyAudit.Dependency

/-!
Which nodes a visit reaches. A visited node occurs in the trees it starts from
(`occurs_of_mem_visit`), and no identity is lost on the way: every root has the identity of a
visited node (`root_visited`), and so has every child of a visited node (`child_visited`).

Where all nodes of one identity have children of the same identities, it makes no difference
which of them is visited: every node at any depth has the identity of a visited one
(`identity_visited`), even if the visit starts from only one root of each identity.
-/

namespace DependencyAudit.Dependency

/-- The nodes at any depth of the given trees. -/
inductive Occurs (roots : List Dependency) : Dependency → Prop where
  | root {d : Dependency} : d ∈ roots → Occurs roots d
  | child {d c : Dependency} : Occurs roots d → c ∈ d.children → Occurs roots c

/-! ## Lemmas about occurrence -/

theorem Occurs.mono {roots more : List Dependency} (h : ∀ d ∈ roots, d ∈ more) {d : Dependency}
    (hd : Occurs roots d) : Occurs more d := by
  induction hd with
  | root hd => exact .root (h _ hd)
  | child _ hc ih => exact .child ih hc

/-- What occurs below a node of the trees occurs in the trees. -/
theorem Occurs.within {roots : List Dependency} {d e : Dependency} (hd : Occurs roots d)
    (he : Occurs d.children e) : Occurs roots e := by
  induction he with
  | root he => exact .child hd he
  | child _ hc ih => exact .child ih hc

theorem occurs_append {xs ys : List Dependency} {d : Dependency} :
    Occurs (xs ++ ys) d ↔ Occurs xs d ∨ Occurs ys d := by
  refine ⟨?_, ?_⟩
  · intro h
    induction h with
    | root hd => exact (List.mem_append.mp hd).imp .root .root
    | child _ hc ih => exact ih.imp (fun h => .child h hc) (fun h => .child h hc)
  · intro hcase
    rcases hcase with h | h
    · exact h.mono fun _ => List.mem_append_left ys
    · exact h.mono fun _ => List.mem_append_right xs

/-- A node of the trees is a root, or occurs strictly below one. -/
theorem Occurs.root_or_below {roots : List Dependency} {d : Dependency} (h : Occurs roots d) :
    d ∈ roots ∨ ∃ r ∈ roots, Occurs r.children d := by
  induction h with
  | root hd => exact Or.inl hd
  | child _ hc ih =>
    rcases ih with hd | ⟨r, hr, hd⟩
    · exact Or.inr ⟨_, hd, .root hc⟩
    · exact Or.inr ⟨r, hr, .child hd hc⟩

theorem occurs_cons {d e : Dependency} {ds : List Dependency} :
    Occurs (d :: ds) e ↔ e = d ∨ Occurs d.children e ∨ Occurs ds e := by
  refine ⟨?_, ?_⟩
  · intro h
    rcases occurs_append.mp (show Occurs ([d] ++ ds) e from h) with h | h
    · rcases h.root_or_below with hd | ⟨r, hr, he⟩
      · exact Or.inl (List.mem_singleton.mp hd)
      · obtain rfl := List.mem_singleton.mp hr
        exact Or.inr (Or.inl he)
    · exact Or.inr (Or.inr h)
  · intro hcase
    rcases hcase with rfl | h | h
    · exact .root List.mem_cons_self
    · exact Occurs.within (.root List.mem_cons_self) h
    · exact h.mono fun _ => List.mem_cons_of_mem d

/-- A node of the trees that several names stand for is one of the trees of some name. -/
theorem occurs_flatMap {α : Type} {names : List α} {f : α → List Dependency} {d : Dependency} :
    Occurs (names.flatMap f) d ↔ ∃ name ∈ names, Occurs (f name) d := by
  refine ⟨?_, ?_⟩
  · intro h
    induction h with
    | root hd =>
      obtain ⟨name, hname, hd⟩ := List.mem_flatMap.mp hd
      exact ⟨name, hname, .root hd⟩
    | child _ hc ih =>
      obtain ⟨name, hname, hd⟩ := ih
      exact ⟨name, hname, .child hd hc⟩
  · intro hparts
    obtain ⟨name, hname, h⟩ := hparts
    exact h.mono fun _ hd => List.mem_flatMap.mpr ⟨name, hname, hd⟩

/-! ## Listing what occurs -/

mutual

/-- A node and all nodes below it. -/
def nodes : Dependency → List Dependency
  | ⟨sources, children, coordinate, projectPath⟩ =>
    ⟨sources, children, coordinate, projectPath⟩ :: nodesAll children

/-- All nodes of the given trees. -/
def nodesAll : List Dependency → List Dependency
  | [] => []
  | d :: ds => nodes d ++ nodesAll ds

end

theorem nodes_eq (d : Dependency) : nodes d = d :: nodesAll d.children := by
  cases d
  rw [nodes]

theorem mem_nodesAll_of_mem {roots : List Dependency} {d : Dependency} (h : d ∈ roots) :
    d ∈ nodesAll roots := by
  induction roots with
  | nil => exact absurd h List.not_mem_nil
  | cons r roots ih =>
    rw [nodesAll, nodes_eq]
    rcases List.mem_cons.mp h with rfl | h
    · exact List.mem_append_left _ List.mem_cons_self
    · exact List.mem_append_right _ (ih h)

mutual

theorem child_mem_nodes {d c : Dependency} (hc : c ∈ d.children) :
    ∀ r : Dependency, d ∈ nodes r → c ∈ nodes r
  | ⟨sources, children, coordinate, projectPath⟩, h => by
    rw [nodes] at h ⊢
    rcases List.mem_cons.mp h with rfl | h
    · exact List.mem_cons_of_mem _ (mem_nodesAll_of_mem hc)
    · exact List.mem_cons_of_mem _ (child_mem_nodesAll hc children h)

theorem child_mem_nodesAll {d c : Dependency} (hc : c ∈ d.children) :
    ∀ roots : List Dependency, d ∈ nodesAll roots → c ∈ nodesAll roots
  | [], h => absurd h List.not_mem_nil
  | r :: roots, h => by
    rw [nodesAll] at h ⊢
    rcases List.mem_append.mp h with h | h
    · exact List.mem_append_left _ (child_mem_nodes hc r h)
    · exact List.mem_append_right _ (child_mem_nodesAll hc roots h)

end

mutual

theorem occurs_of_mem_nodes : ∀ (r : Dependency) {d : Dependency}, d ∈ nodes r →
    d = r ∨ Occurs r.children d
  | ⟨sources, children, coordinate, projectPath⟩, d, h => by
    rw [nodes] at h
    exact (List.mem_cons.mp h).imp_right (occurs_of_mem_nodesAll children)

theorem occurs_of_mem_nodesAll : ∀ (roots : List Dependency) {d : Dependency},
    d ∈ nodesAll roots → Occurs roots d
  | [], d, h => absurd h List.not_mem_nil
  | r :: roots, d, h => by
    rw [nodesAll] at h
    rw [occurs_cons, ← or_assoc]
    exact (List.mem_append.mp h).imp (occurs_of_mem_nodes r) (occurs_of_mem_nodesAll roots)

end

theorem mem_nodesAll {roots : List Dependency} {d : Dependency} :
    d ∈ nodesAll roots ↔ Occurs roots d := by
  refine ⟨occurs_of_mem_nodesAll roots, ?_⟩
  intro h
  induction h with
  | root h => exact mem_nodesAll_of_mem h
  | child _ hc ih => exact child_mem_nodesAll hc roots ih

/-- What all occurring nodes satisfy can be checked node by node. -/
instance {roots : List Dependency} {p : Dependency → Prop} [DecidablePred p] :
    Decidable (∀ d, Occurs roots d → p d) :=
  decidable_of_iff (∀ d ∈ nodesAll roots, p d)
    (forall_congr' fun _ => imp_congr_left mem_nodesAll)

/-! ## Steps of a visit -/

theorem visitFrom_of_visited {visited : List String} {d : Dependency}
    (h : d.identity ∈ visited) (rest : List Dependency) :
    visitFrom visited (d :: rest) = visitFrom visited rest := by
  rw [visitFrom, if_pos (List.contains_iff_mem.mpr h)]

theorem visitFrom_of_new {visited : List String} {d : Dependency}
    (h : d.identity ∉ visited) (rest : List Dependency) :
    visitFrom visited (d :: rest) =
      d :: visitFrom (d.identity :: visited) (d.children ++ rest) := by
  rw [visitFrom, if_neg fun hc => h (List.contains_iff_mem.mp hc)]

theorem occurs_of_mem_visitFrom {visited : List String} {stack : List Dependency}
    {v : Dependency} (h : v ∈ visitFrom visited stack) : Occurs stack v := by
  fun_induction visitFrom visited stack with
  | case1 visited => exact absurd h List.not_mem_nil
  | case2 visited d rest hseen ih => exact (ih h).mono fun _ => List.mem_cons_of_mem d
  | case3 visited d rest hnew ih =>
    rcases List.mem_cons.mp h with rfl | h
    · exact .root List.mem_cons_self
    · rcases occurs_append.mp (ih h) with hv | hv
      · exact Occurs.within (.root List.mem_cons_self) hv
      · exact hv.mono fun _ => List.mem_cons_of_mem d

/-! ## No identity is lost -/

/-- The identity was visited before, or is visited from the stack. -/
def Reached (visited : List String) (stack : List Dependency) (name : String) : Prop :=
  name ∈ visited ∨ ∃ v ∈ visitFrom visited stack, v.identity = name

/-- Visiting a new node reaches its identity and what is reached from the stack it leaves. -/
theorem reached_of_new {visited : List String} {d : Dependency} {rest : List Dependency}
    (h : d.identity ∉ visited) {name : String}
    (hr : Reached (d.identity :: visited) (d.children ++ rest) name) :
    Reached visited (d :: rest) name := by
  unfold Reached
  rw [visitFrom_of_new h]
  rcases hr with hname | ⟨v, hv, rfl⟩
  · rcases List.mem_cons.mp hname with rfl | hname
    · exact Or.inr ⟨d, List.mem_cons_self, rfl⟩
    · exact Or.inl hname
  · exact Or.inr ⟨v, List.mem_cons_of_mem d hv, rfl⟩

theorem reached_of_mem_stack {visited : List String} {stack : List Dependency}
    {d : Dependency} (h : d ∈ stack) : Reached visited stack d.identity := by
  fun_induction visitFrom visited stack with
  | case1 visited => exact absurd h List.not_mem_nil
  | case2 visited e rest hseen ih =>
    rw [List.contains_iff_mem] at hseen
    unfold Reached
    rw [visitFrom_of_visited hseen]
    rcases List.mem_cons.mp h with rfl | h
    · exact Or.inl hseen
    · exact ih h
  | case3 visited e rest hnew ih =>
    rw [List.contains_iff_mem] at hnew
    rcases List.mem_cons.mp h with rfl | h
    · exact reached_of_new hnew (Or.inl List.mem_cons_self)
    · exact reached_of_new hnew (ih (List.mem_append_right _ h))

theorem reached_of_mem_children {visited : List String} {stack : List Dependency}
    {v c : Dependency} (hv : v ∈ visitFrom visited stack) (hc : c ∈ v.children) :
    Reached visited stack c.identity := by
  fun_induction visitFrom visited stack with
  | case1 visited => exact absurd hv List.not_mem_nil
  | case2 visited e rest hseen ih =>
    rw [List.contains_iff_mem] at hseen
    unfold Reached
    rw [visitFrom_of_visited hseen]
    exact ih hv
  | case3 visited e rest hnew ih =>
    rw [List.contains_iff_mem] at hnew
    rcases List.mem_cons.mp hv with rfl | hv
    · -- the children of the node just visited are put on the stack
      exact reached_of_new hnew (reached_of_mem_stack (List.mem_append_left rest hc))
    · exact reached_of_new hnew (ih hv)

/-! ## Visits from roots -/

section

variable {roots : List Dependency}

theorem occurs_of_mem_visit {v : Dependency} (h : v ∈ visit roots) : Occurs roots v :=
  occurs_of_mem_visitFrom h

theorem visited_of_reached {name : String} (h : Reached [] roots name) :
    ∃ v ∈ visit roots, v.identity = name :=
  h.resolve_left List.not_mem_nil

theorem root_visited {d : Dependency} (h : d ∈ roots) :
    ∃ v ∈ visit roots, v.identity = d.identity :=
  visited_of_reached (reached_of_mem_stack h)

theorem child_visited {v c : Dependency} (hv : v ∈ visit roots) (hc : c ∈ v.children) :
    ∃ w ∈ visit roots, w.identity = c.identity :=
  visited_of_reached (reached_of_mem_children hv hc)

/-- Each node of the trees has the identity of a visited one, if the roots of the visit are among
those of the trees, one for each identity, and nodes of one identity have children of the same
identities. -/
theorem identity_visited {trees : List Dependency}
    (hroots : ∀ r ∈ roots, r ∈ trees)
    (hkept : ∀ t ∈ trees, ∃ r ∈ roots, r.identity = t.identity)
    (hagree : ∀ d e, Occurs trees d → Occurs trees e → d.identity = e.identity →
      ∀ c ∈ d.children, ∃ c' ∈ e.children, c'.identity = c.identity)
    {d : Dependency} (h : Occurs trees d) : ∃ v ∈ visit roots, v.identity = d.identity := by
  induction h with
  | root ht =>
    obtain ⟨r, hr, hid⟩ := hkept _ ht
    obtain ⟨v, hv, hvid⟩ := root_visited hr
    exact ⟨v, hv, hvid.trans hid⟩
  | child hd hc ih =>
    -- `v` stands for the parent, and may be another node of that identity
    obtain ⟨v, hv, hvid⟩ := ih
    have hocc : Occurs trees v := (occurs_of_mem_visit hv).mono hroots
    obtain ⟨c', hc', hid⟩ := hagree _ _ hd hocc hvid.symm _ hc
    obtain ⟨w, hw, hwid⟩ := child_visited hv hc'
    exact ⟨w, hw, hwid.trans hid⟩

end

end DependencyAudit.Dependency
